import WhereClause.Json.Value

/-!
# Reading records from JSON

A record is read from an object, member by member in the order of the object, or from an array of
its fields in the order of their declaration. The first member that does not fit is reported; a
field that is missing is reported last.
-/

namespace WhereClause.Record

/-- Why JSON does not have the shape of a record. -/
inductive ShapeError where
  | missingField (name : String)
  | repeatedField (name : String)
  | unknownVariant (name : String) (expected : List String)
  | wrongType
  | wrongValue
  | tooShort (length : Nat) (record : String) (fields : Nat)
  | tooLong (length : Nat)
  | noAlternative (type : String)
  deriving DecidableEq, Repr

namespace ShapeError

/-- A name between the marks that set it off. -/
def marked (name : String) : String :=
  "`" ++ name ++ "`"

/-- The wording of what may stand in a place. -/
def alternatives : List String → String
  | [] => "there are no variants"
  | [only] => "expected " ++ marked only
  | [first, second] => "expected " ++ marked first ++ " or " ++ marked second
  | several => "expected one of " ++ ", ".intercalate (several.map marked)

/-- The wording of an error; of a value of the wrong kind only the kind of error is
told. -/
def message : ShapeError → String
  | .missingField name => "missing field " ++ marked name
  | .repeatedField name => "duplicate field " ++ marked name
  | .unknownVariant name expected =>
      "unknown variant " ++ marked name ++ ", " ++ alternatives expected
  | .wrongType => "invalid type"
  | .wrongValue => "invalid value"
  | .tooShort length record fields =>
      "invalid length " ++ toString length ++ ", expected struct " ++ record ++
        " with " ++ toString fields ++
        (if fields = 1 then " element" else " elements")
  | .tooLong length =>
      "invalid length " ++ toString length ++
        ", expected fewer elements in array"
  | .noAlternative type =>
      "data did not match any variant of untagged enum " ++ type

end ShapeError

abbrev Reading (α : Type) :=
  Except ShapeError α

section Parts

variable {α : Type}

def string : Json → Reading String
  | .str text => .ok text
  | _ => .error .wrongType

def items (item : Json → Reading α) : List Json → Reading (List α)
  | [] => .ok []
  | first :: rest => do
      let value ← item first
      let values ← items item rest
      return value :: values

def list (item : Json → Reading α) : Json → Reading (List α)
  | .arr values => items item values
  | _ => .error .wrongType

def members (value : Json → Reading α) :
    List (String × Json) → Reading (List (String × α))
  | [] => .ok []
  | (name, content) :: rest => do
      let first ← value content
      let others ← members value rest
      return (name, first) :: others

def dict (value : Json → Reading α) : Json → Reading (Dict α)
  | .obj contents => do
      let entries ← members value contents
      return Dict.ofList entries
  | _ => .error .wrongType

/-- Finds the variant of a name. -/
def variantNamed (all : List α) (nameOf : α → String) (name : String) :
    Reading α :=
  match all.find? fun candidate => nameOf candidate = name with
  | some found => .ok found
  | none => .error (.unknownVariant name (all.map nameOf))

/-- Reads one of several named variants: its name, or an object whose only member has
its name and holds nothing. -/
def variant (all : List α) (nameOf : α → String) : Json → Reading α
  | .str name => variantNamed all nameOf name
  | .obj [(name, content)] => do
      let found ← variantNamed all nameOf name
      if content = .null then return found else throw .wrongType
  | .obj _ => .error .wrongValue
  | _ => .error .wrongType

end Parts

section Records

variable {δ α : Type}

/-- How a record is read: its name, its fields in order with whether each is required,
the draft that collects them, and what the finished draft stands for. -/
structure Format (δ : Type) (α : Type) where
  name : String
  fields : List (String × Bool)
  blank : δ
  take : String → Json → δ → Reading δ
  finish : δ → Reading α

/-- Fills the place of a field, which is filled once. -/
def fill {β : Type} (name : String) (reader : Json → Reading β)
    (value : Json) : Option β → Reading (Option β)
  | some _ => .error (.repeatedField name)
  | none => do
      let content ← reader value
      return some content

/-- The content of a required field. -/
def required {β : Type} (name : String) : Option β → Reading β
  | some content => .ok content
  | none => .error (.missingField name)

/-- Takes the members of an object in order; members that are no fields are passed
over. -/
def takeMembers (format : Format δ α) :
    List (String × Json) → δ → Reading δ
  | [], draft => .ok draft
  | (name, value) :: rest, draft => do
      let next ←
        if format.fields.any fun field => field.1 = name then
          format.take name value draft
        else .ok draft
      takeMembers format rest next

/-- Takes the items of an array as the fields in order. -/
def takeItems (format : Format δ α) (length : Nat) :
    List (String × Bool) → List Json → Nat → δ → Reading δ
  | [], [], _, draft => .ok draft
  | [], _ :: _, _, _ => .error (.tooLong length)
  | (name, _) :: fields, value :: rest, index, draft => do
      let next ← format.take name value draft
      takeItems format length fields rest (index + 1) next
  | (_, isRequired) :: fields, [], index, draft =>
      if isRequired then
        .error (.tooShort index format.name format.fields.length)
      else takeItems format length fields [] (index + 1) draft

def read (format : Format δ α) : Json → Reading α
  | .obj contents => do
      let draft ← takeMembers format contents format.blank
      format.finish draft
  | .arr values => do
      let draft ← takeItems format values.length format.fields values 0 format.blank
      format.finish draft
  | _ => .error .wrongType

end Records

/-- A dictionary as an object, ordered by name. -/
def writeDict {α : Type} (value : α → Json) (contents : Dict α) : Json :=
  .obj (contents.sorted.map fun entry => (entry.1, value entry.2))

end WhereClause.Record
