import WhereClause.Json.Read
import WhereClause.Record.Catalog

/-!
# Reading records from text

The first value of the text decides about syntax, then about its shape; what follows it is looked
at last.
-/

namespace WhereClause

/-- Why a text cannot be read. -/
inductive TextError where
  | notJson
  | misshapen
  deriving DecidableEq, Repr

def Json.ofText (text : String) : Except TextError Json :=
  match Json.parse? text with
  | some value => .ok value
  | none => .error .notJson

/-- Reads a catalog from text. Members that an object repeats are seen by the record
they belong to. -/
def Catalog.ofText (text : String) : Except TextError Catalog :=
  match Json.readFirst? Json.nestingLimit text with
  | none => .error .notJson
  | some (value, rest) =>
      match Catalog.read value with
      | .error _ => .error .misshapen
      | .ok catalog => if rest.isEmpty then .ok catalog else .error .notJson

end WhereClause
