import WhereClause.Field
import WhereClause.Parameters
import WhereClause.Text.Blank

/-!
# Conditions on one field

A condition is compiled in four steps: it is read, the field gets its SQL, the values to bind are
taken from the operand, and the text is laid out around the names of those values.
-/

namespace WhereClause

/-- How the placeholders of a condition are laid out. -/
inductive Arrangement where
  | single
  | bounds
  | list
  | array
  deriving DecidableEq, Repr

/-- The layout that a comparator asks for. -/
def Comparator.arrangement : Comparator → Arrangement
  | .between | .notBetween => .bounds
  | .memberOf | .notMemberOf => .list
  | .overlaps | .contains => .array
  | _ => .single

/-- The placeholders laid out. -/
def Arrangement.layOut (placeholders : List String) : Arrangement → String
  | .single | .bounds => " and ".intercalate placeholders
  | .list => "(" ++ ", ".intercalate placeholders ++ ")"
  | .array => "array[" ++ ", ".intercalate placeholders ++ "]"

structure Condition where
  comparator : Comparator
  operand : Json
  deriving DecidableEq

namespace Condition

/-- Reads a condition: an object with one comparator, or on a document column an array,
whose elements the document has to contain. -/
def ofJson (document : Bool) : Json → Except Rejection Condition
  | .obj [(symbol, operand)] =>
      match Comparator.ofSymbol? symbol with
      | some comparator => .ok ⟨comparator, operand⟩
      | none => .error (.unknownComparator symbol)
  | .arr items =>
      if document then .ok ⟨.contains, .arr items⟩
      else .error (.malformedCondition (.arr items))
  | other => .error (.malformedCondition other)

/-- Whether an operand stands for the absent value. -/
def isNullLike : Json → Bool
  | .null => true
  | .str text => Text.sameUpToCase text "null"
  | _ => false

/-- Whether the condition asks whether a plain column holds the absent value. -/
def testsNull (document : Bool) (condition : Condition) : Bool :=
  !document &&
    (condition.comparator = .equal || condition.comparator = .notEqual) &&
    isNullLike condition.operand

/-- The text of an operand inside a pattern. -/
def patternText : Json → String
  | .str text => text
  | other => other.compact

/-- The value that a comparator with one operand binds. -/
def singleValue (document : Bool) (condition : Condition) : Json :=
  if condition.testsNull document then .null
  else if condition.comparator.isPattern then
    .str ("%" ++ patternText condition.operand ++ "%")
  else condition.operand

/-- The values that a condition binds, in order. -/
def values (document : Bool) (condition : Condition) :
    Except Rejection (List Json) :=
  match condition.comparator.arrangement with
  | .single => .ok [condition.singleValue document]
  | .bounds =>
      match condition.operand with
      | .arr (lower :: upper :: _) => .ok [lower, upper]
      | other => .error (.misfit (.notTwoBounds condition.comparator other))
  | .list | .array =>
      match condition.operand with
      | .arr items => .ok items
      | other => .error (.misfit (.notAnArray condition.comparator other))

/-- The comparator as it is written in the condition. -/
def verb (document : Bool) (condition : Condition) : String :=
  if condition.testsNull document then
    if condition.comparator = .equal then "is" else "is not"
  else condition.comparator.sql document

/-- The text of a condition on a column, given the names of its values. -/
def text (document : Bool) (column : String) (condition : Condition)
    (names : List String) : String :=
  "(" ++ column ++ " " ++ condition.verb document ++ " " ++
    condition.comparator.arrangement.layOut
      (names.map fun name => ":" ++ name) ++ ")"

end Condition

/-- Compiles a condition on a field. -/
def Field.condition (field : Field) (json : Json) : Compilation String := do
  let condition ← Compilation.require (Condition.ofJson field.isDocument json)
  let column ← Compilation.require field.sql
  let values ← Compilation.require (condition.values field.isDocument)
  let names ← Compilation.bindAll field.stem values
  return condition.text field.isDocument column names

end WhereClause
