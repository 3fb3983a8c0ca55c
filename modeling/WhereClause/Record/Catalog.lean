import WhereClause.Record.Basic
import WhereClause.Scope

/-!
# The JSON of catalogs

How attributes, columns, groups and catalogs are read and written.
-/

namespace WhereClause

open Record

namespace AttributeKind

def read : Json → Reading AttributeKind :=
  variant all name

def write (kind : AttributeKind) : Json :=
  .str kind.name

end AttributeKind

namespace Attribute

structure Draft where
  name : Option String
  kind : Option AttributeKind

def format : Format Draft Attribute where
  name := "AttributeInfo"
  fields := [("name", true), ("type", true)]
  blank := ⟨none, none⟩
  take field value draft :=
    if field = "name" then do
      let name ← fill field string value draft.name
      return { draft with name }
    else do
      let kind ← fill field AttributeKind.read value draft.kind
      return { draft with kind }
  finish draft := do
    let name ← required "name" draft.name
    let kind ← required "type" draft.kind
    return ⟨name, kind⟩

def read : Json → Reading Attribute :=
  Record.read format

def write (declared : Attribute) : Json :=
  .obj [("name", .str declared.name), ("type", declared.kind.write)]

end Attribute

namespace DocumentColumn

structure Draft where
  property : Option String
  column : Option String
  attributes : Option (List Attribute)

def format : Format Draft DocumentColumn where
  name := "JsonColumnInfo"
  fields := [("property", true), ("column", true), ("attributeInfos", false)]
  blank := ⟨none, none, none⟩
  take field value draft :=
    if field = "property" then do
      let property ← fill field string value draft.property
      return { draft with property }
    else if field = "column" then do
      let column ← fill field string value draft.column
      return { draft with column }
    else do
      let attributes ← fill field (list Attribute.read) value draft.attributes
      return { draft with attributes }
  finish draft := do
    let property ← required "property" draft.property
    let column ← required "column" draft.column
    return ⟨property, column, draft.attributes.getD []⟩

def read : Json → Reading DocumentColumn :=
  Record.read format

def write (document : DocumentColumn) : Json :=
  .obj
    [("property", .str document.property), ("column", .str document.column),
      ("attributeInfos", .arr (document.attributes.map Attribute.write))]

end DocumentColumn

namespace Scope

def readColumns : Json → Reading (Dict String) :=
  dict string

def readDocuments : Json → Reading (List DocumentColumn) :=
  list DocumentColumn.read

structure Draft where
  columns : Option (Dict String)
  documents : Option (List DocumentColumn)

def Draft.blank : Draft :=
  ⟨none, none⟩

/-- Takes one of the two fields of a scope. -/
def Draft.take (field : String) (value : Json) (draft : Draft) : Reading Draft :=
  if field = "columnMap" then do
    let columns ← fill field readColumns value draft.columns
    return { draft with columns }
  else do
    let documents ← fill field readDocuments value draft.documents
    return { draft with documents }

/-- The scope of a draft; a field that is missing is empty. -/
def Draft.scope (draft : Draft) : Scope :=
  ⟨draft.columns.getD Dict.empty, draft.documents.getD []⟩

def format : Format Draft Scope where
  name := "TableSchema"
  fields := [("columnMap", false), ("jsonColumnInfos", false)]
  blank := Draft.blank
  take := Draft.take
  finish draft := .ok draft.scope

def read : Json → Reading Scope :=
  Record.read format

/-- The members of a scope, as they are written. -/
def writeMembers (scope : Scope) : List (String × Json) :=
  [("columnMap", writeDict .str scope.columns),
    ("jsonColumnInfos", .arr (scope.documents.map DocumentColumn.write))]

def write (scope : Scope) : Json :=
  .obj scope.writeMembers

end Scope

namespace Group

structure Draft where
  name : Option String
  scope : Scope.Draft

def format : Format Draft Group where
  name := "GroupDefinition"
  fields := [("name", true), ("columnMap", false), ("jsonColumnInfos", false)]
  blank := ⟨none, Scope.Draft.blank⟩
  take field value draft :=
    if field = "name" then do
      let name ← fill field string value draft.name
      return { draft with name }
    else do
      let scope ← draft.scope.take field value
      return { draft with scope }
  finish draft := do
    let name ← required "name" draft.name
    return ⟨name, draft.scope.scope⟩

def read : Json → Reading Group :=
  Record.read format

def write (group : Group) : Json :=
  .obj (("name", .str group.name) :: group.scope.writeMembers)

end Group

namespace Catalog

/-- The record of the groups of a catalog. -/
def groupsFormat : Format (Option (List Group)) (List Group) where
  name := "FilterSchema"
  fields := [("groups", true)]
  blank := none
  take field value draft := fill field (list Group.read) value draft
  finish draft := required "groups" draft

/-- Reads a catalog of groups, which is always an object. -/
def readGrouped : Json → Reading (List Group)
  | .obj contents => Record.read groupsFormat (.obj contents)
  | _ => .error .wrongType

/-- Reads a catalog: as groups, and if that fails as a single table. -/
def read (json : Json) : Reading Catalog :=
  match readGrouped json with
  | .ok groups => .ok (.grouped groups)
  | .error _ =>
      match Scope.read json with
      | .ok scope => .ok (.single scope)
      | .error _ => .error (.noAlternative "FilterSchema")

def write : Catalog → Json
  | .grouped groups => .obj [("groups", .arr (groups.map Group.write))]
  | .single scope => scope.write

end Catalog

end WhereClause
