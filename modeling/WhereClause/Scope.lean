import WhereClause.Dict

/-!
# What a filter may refer to

The columns of a table, the document columns with their attributes, and the groups of such
columns.
-/

namespace WhereClause

/-- The type of an attribute inside a document. -/
inductive AttributeKind where
  | string
  | email
  | url
  | number
  | boolean
  | date
  | multiSelect
  | special
  deriving DecidableEq, Repr

namespace AttributeKind

/-- Every kind, in the order in which they are listed. -/
def all : List AttributeKind :=
  [.string, .email, .url, .number, .boolean, .date, .multiSelect, .special]

def name : AttributeKind → String
  | .string => "STRING"
  | .email => "EMAIL"
  | .url => "URL"
  | .number => "NUMBER"
  | .boolean => "BOOLEAN"
  | .date => "DATE"
  | .multiSelect => "MULTI_SELECT"
  | .special => "SPECIAL"

/-- Whether the attribute is extracted as text. -/
def isTextual : AttributeKind → Bool
  | .string | .email | .url => true
  | _ => false

/-- The cast applied to an extracted attribute. -/
def cast? : AttributeKind → Option String
  | .boolean => some "::boolean"
  | .number => some "::integer"
  | .date => some "::timestamptz"
  | _ => none

end AttributeKind

structure Attribute where
  name : String
  kind : AttributeKind
  deriving DecidableEq, Repr

/-- A column that holds documents: the property that refers to it, its SQL expression
and the attributes it declares. -/
structure DocumentColumn where
  property : String
  column : String
  attributes : List Attribute
  deriving DecidableEq, Repr

/-- The first attribute declared with the given name. -/
def DocumentColumn.attribute? (document : DocumentColumn) (name : String) :
    Option Attribute :=
  document.attributes.find? fun declared => declared.name = name

/-- The columns of one table: SQL expressions by key, and document columns. -/
structure Scope where
  columns : Dict String
  documents : List DocumentColumn
  deriving DecidableEq

def Scope.empty : Scope :=
  ⟨Dict.empty, []⟩

/-- A named scope; a filter over several groups is split among them. -/
structure Group where
  name : String
  scope : Scope
  deriving DecidableEq

namespace Group

def named (name : String) : Group :=
  ⟨name, Scope.empty⟩

/-- The group with one more column; an earlier column of the same key is replaced. -/
def withColumn (group : Group) (key column : String) : Group :=
  { group with
    scope := { group.scope with columns := group.scope.columns.insert key column } }

def withDocument (group : Group) (document : DocumentColumn) : Group :=
  { group with
    scope := { group.scope with documents := group.scope.documents ++ [document] } }

end Group

/-- What filters are compiled against: one table, or several groups. -/
inductive Catalog where
  | grouped (groups : List Group)
  | single (scope : Scope)
  deriving DecidableEq

end WhereClause
