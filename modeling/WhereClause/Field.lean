import WhereClause.Rejection
import WhereClause.Scope
import WhereClause.Text.Segments

/-!
# Fields

A key of a filter refers to a field, which has an SQL text. The property of a document column
comes before a plain column, also across groups.
-/

namespace WhereClause

/-- The property that a key names, and the path below it: the segments of the key
between its points. -/
def Key.segments (key : String) : String × List String :=
  let (first, others) := Text.segments '.' key.toList
  (String.ofList first, others.map String.ofList)

/-- What a key refers to: a column, or a path into the documents of a column. -/
inductive Field where
  | column (key expression : String)
  | path (document : DocumentColumn) (nested : List String)
  deriving DecidableEq, Repr

namespace Field

/-- Whether the field lies in a document column. -/
def isDocument : Field → Bool
  | .column _ _ => false
  | .path _ _ => true

/-- The steps into a document, each in quotes; the last step into a textual attribute
gives text. -/
def steps (textual : Bool) : List String → String
  | [] => ""
  | [last] => (if textual then " ->> '" else " -> '") ++ last ++ "'"
  | segment :: rest => " -> '" ++ segment ++ "'" ++ steps textual rest

/-- The SQL of the path into a document column. The first segment has to be a declared
attribute, whose kind decides the last step and the cast. -/
def pathSql (document : DocumentColumn) : List String → Except Rejection String
  | [] => .ok document.column
  | first :: rest =>
      match document.attribute? first with
      | none => .error (.unknownAttribute document.property first)
      | some found =>
          .ok <|
            "(" ++ document.column ++
              steps found.kind.isTextual (first :: rest) ++ ")" ++
              found.kind.cast?.getD ""

def sql : Field → Except Rejection String
  | .column _ expression => .ok expression
  | .path document nested => pathSql document nested

/-- The stem of the parameters for a path. -/
def pathStem (property : String) (nested : List String) : String :=
  if nested.isEmpty then property
  else property ++ "_" ++ "_".intercalate nested

/-- The stem of the parameters for a field. -/
def stem : Field → String
  | .column key _ => key
  | .path document nested => pathStem document.property nested

end Field

namespace Scope

/-- The path that a key names: its first segment is the property of a document column. -/
def path? (scope : Scope) (key : String) : Option Field :=
  let (property, nested) := Key.segments key
  (scope.documents.find? fun document => document.property = property).map
    fun document => .path document nested

/-- The column that has exactly the key. -/
def column? (scope : Scope) (key : String) : Option Field :=
  (scope.columns.get? key).map fun expression => .column key expression

/-- The field that a key names in one table. -/
def field? (scope : Scope) (key : String) : Option Field :=
  match scope.path? key with
  | some field => some field
  | none => scope.column? key

end Scope

/-- The first group in which `find` finds a field. -/
def Group.first? (find : Scope → Option Field) (groups : List Group) :
    Option (Group × Field) :=
  groups.findSome? fun group =>
    (find group.scope).map fun field => (group, field)

/-- The group that owns a key: the first one with such a path, and if there is none the
first one with such a column. -/
def Group.owner? (groups : List Group) (key : String) : Option (Group × Field) :=
  match Group.first? (fun scope => scope.path? key) groups with
  | some owner => some owner
  | none => Group.first? (fun scope => scope.column? key) groups

end WhereClause
