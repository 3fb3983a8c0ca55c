import WhereClause.Filter.Distribution
import WhereClause.Record.Basic
import WhereClause.Settings

/-!
# The JSON of settings and results

How comparators, connectives and settings are read and written, and what a compilation gives:
parameters, entries of groups and trees of conditions.
-/

namespace WhereClause

open Record

def Comparator.read : Json → Reading Comparator :=
  variant Comparator.all Comparator.symbol

def Comparator.write (comparator : Comparator) : Json :=
  .str comparator.symbol

/-- Reads a connective; blanks and capitals are not allowed here. -/
def Connective.read : Json → Reading Connective :=
  variant [.conjunction, .disjunction] Connective.sql

def Connective.write (connective : Connective) : Json :=
  .str connective.sql

def EmptyRule.read : Json → Reading EmptyRule :=
  variant EmptyRule.all EmptyRule.name

def EmptyRule.write (rule : EmptyRule) : Json :=
  .str rule.name

namespace Settings

def format : Format (Option EmptyRule) Settings where
  name := "CompileOptions"
  fields := [("emptyNodes", false)]
  blank := none
  take field value draft := fill field EmptyRule.read value draft
  finish draft := .ok ⟨draft.getD standard.emptyRule⟩

def read : Json → Reading Settings :=
  Record.read format

def write (settings : Settings) : Json :=
  .obj [("emptyNodes", settings.emptyRule.write)]

end Settings

def Parameters.read : Json → Reading Parameters :=
  dict .ok

/-- Writes parameters, ordered by name. -/
def Parameters.write (parameters : Parameters) : Json :=
  writeDict id parameters

namespace GroupEntry

structure Draft where
  name : Option String
  conditions : Option (List String)

def format : Format Draft (GroupEntry String) where
  name := "GroupConditions"
  fields := [("groupName", true), ("conditions", true)]
  blank := ⟨none, none⟩
  take field value draft :=
    if field = "groupName" then do
      let name ← fill field string value draft.name
      return { draft with name }
    else do
      let conditions ← fill field (list string) value draft.conditions
      return { draft with conditions }
  finish draft := do
    let name ← required "groupName" draft.name
    let conditions ← required "conditions" draft.conditions
    return ⟨name, conditions⟩

def read : Json → Reading (GroupEntry String) :=
  Record.read format

def write (entry : GroupEntry String) : Json :=
  .obj
    [("groupName", .str entry.name),
      ("conditions", .arr (entry.conditions.map .str))]

end GroupEntry

namespace GroupTree

structure Draft where
  connective : Option Connective
  entries : Option (List (GroupEntry String))
  children : Option (List (GroupTree String))

/-- The number of fields of a tree. -/
def fieldCount : Nat :=
  3

/-- The tree of a finished draft. -/
def Draft.tree (draft : Draft) : Reading (GroupTree String) := do
  let connective ← required "operator" draft.connective
  let entries ← required "groups" draft.entries
  let children ← required "childNodes" draft.children
  return ⟨connective, entries, children⟩

mutual

def read : Json → Reading (GroupTree String)
  | .obj contents => do
      let draft ← readMembers contents ⟨none, none, none⟩
      draft.tree
  | .arr [first, second, third] => do
      let connective ← Connective.read first
      let entries ← list GroupEntry.read second
      let children ← readChildren third
      return ⟨connective, entries, children⟩
  | .arr values =>
      match values with
      | [] => .error (.tooShort 0 "FilterNode" fieldCount)
      | [first] => do
          let _ ← Connective.read first
          throw (.tooShort 1 "FilterNode" fieldCount)
      | [first, second] => do
          let _ ← Connective.read first
          let _ ← list GroupEntry.read second
          throw (.tooShort 2 "FilterNode" fieldCount)
      | first :: second :: third :: rest => do
          let _ ← Connective.read first
          let _ ← list GroupEntry.read second
          let _ ← readChildren third
          throw (.tooLong (rest.length + fieldCount))
  | _ => .error .wrongType

/-- Takes the members of a tree in order. -/
def readMembers : List (String × Json) → Draft → Reading Draft
  | [], draft => .ok draft
  | (name, value) :: rest, draft => do
      let next ←
        if name = "operator" then do
          let connective ← fill name Connective.read value draft.connective
          pure { draft with connective }
        else if name = "groups" then do
          let entries ← fill name (list GroupEntry.read) value draft.entries
          pure { draft with entries }
        else if name = "childNodes" then
          match draft.children with
          | some _ => throw (.repeatedField name)
          | none => do
              let children ← readChildren value
              pure { draft with children := some children }
        else pure draft
      readMembers rest next

def readChildren : Json → Reading (List (GroupTree String))
  | .arr values => readAll values
  | _ => .error .wrongType

def readAll : List Json → Reading (List (GroupTree String))
  | [] => .ok []
  | value :: rest => do
      let tree ← read value
      let trees ← readAll rest
      return tree :: trees

end

mutual

def write : GroupTree String → Json
  | ⟨connective, entries, children⟩ =>
      .obj
        [("operator", connective.write),
          ("groups", .arr (entries.map GroupEntry.write)),
          ("childNodes", .arr (writeAll children))]

def writeAll : List (GroupTree String) → List Json
  | [] => []
  | tree :: rest => write tree :: writeAll rest

end

end GroupTree

namespace GroupedFilter

structure Draft where
  tree : Option (GroupTree String)
  parameters : Option Parameters

def format : Format Draft (GroupedFilter String) where
  name := "GroupedFilter"
  fields := [("filters", true), ("params", true)]
  blank := ⟨none, none⟩
  take field value draft :=
    if field = "filters" then do
      let tree ← fill field GroupTree.read value draft.tree
      return { draft with tree }
    else do
      let parameters ← fill field Parameters.read value draft.parameters
      return { draft with parameters }
  finish draft := do
    let tree ← required "filters" draft.tree
    let parameters ← required "params" draft.parameters
    return ⟨tree, parameters⟩

def read : Json → Reading (GroupedFilter String) :=
  Record.read format

def write (grouped : GroupedFilter String) : Json :=
  .obj
    [("filters", grouped.tree.write), ("params", grouped.parameters.write)]

/-- The grouped filter with its conditions as text. -/
def text (grouped : GroupedFilter Phrase) : GroupedFilter String :=
  ⟨grouped.tree.map Phrase.text, grouped.parameters⟩

end GroupedFilter

end WhereClause
