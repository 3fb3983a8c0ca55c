import WhereClause.Command.Folder
import WhereClause.Command.Request
import WhereClause.Filter.SingleTable
import WhereClause.Record.Result
import WhereClause.Record.Text

/-!
# Running a command

The document that a command gives depends on the command line and on the texts of the files it
names; only a finished document is printed or written.
-/

namespace WhereClause.Command

/-- Why a command fails. -/
inductive Fault where
  | usage
  | file
  | text (cause : TextError)
  | rejected (cause : Rejection)
  | notGrouped
  deriving DecidableEq

namespace Fault

def name : Fault → String
  | .usage => "Usage"
  | .file => "FileRead"
  | .text _ => "JsonDeserialize"
  | .rejected _ => "Compile"
  | .notGrouped => "NotGrouped"

/-- The fault as diagnostics show it. -/
def diagnostic : Fault → String
  | .rejected cause => "Compile(" ++ cause.diagnostic ++ ")"
  | other => other.name

def code : Fault → Nat
  | .usage => 2
  | _ => 1

end Fault

/-- The name and version of the program. -/
def versionLine : String :=
  "filterc 0.1.0"

/-- The row of a comparator in the list of all. -/
def comparatorRow (comparator : Comparator) : Json :=
  .obj
    [("symbol", .str comparator.symbol),
      ("sql", .str (comparator.sql false)),
      ("json_sql", .str (comparator.sql true))]

/-- A text that a file holds. -/
def readFile (read : String → Option String) (path : String) :
    Except Fault String :=
  match read path with
  | some text => .ok text
  | none => .error .file

def readCatalog (read : String → Option String) (path : String) :
    Except Fault Catalog := do
  let text ← readFile read path
  (Catalog.ofText text).mapError .text

def readFilter (read : String → Option String) (path : String) :
    Except Fault Json := do
  let text ← readFile read path
  (Json.ofText text).mapError .text

def singleDocument (scope : Scope) (settings : Settings) (filter : Json) :
    Except Fault Json :=
  match compile ⟨scope, settings⟩ filter Dict.empty with
  | (.ok sql, parameters) =>
      .ok (.obj [("sql", .str sql), ("params", parameters.write)])
  | (.error cause, _) => .error (.rejected cause)

/-- The tree of a filter split among groups. -/
def grouped (groups : List Group) (filter : Json) :
    Except Fault (GroupedFilter Phrase) :=
  (splitAmong groups filter).mapError .rejected

def renderedDocument (result : GroupedFilter Phrase) : Json :=
  .obj
    [("sql", .str (result.tree.render GroupEntry.joined).text),
      ("groups", .arr (result.tree.groupNames.map .str)),
      ("filters", result.text.tree.write),
      ("params", result.parameters.write)]

/-- The document that a request gives, with `read` for the texts of files. -/
def document (read : String → Option String) : Request → Except Fault String
  | .version => .ok versionLine
  | .comparators =>
      .ok (Json.arr (Comparator.all.map comparatorRow)).indented
  | .compile catalogPath filterPath emptyAsTautology _ => do
      let catalog ← readCatalog read catalogPath
      let filter ← readFilter read filterPath
      match catalog with
      | .grouped groups => do
          let result ← grouped groups filter
          return result.text.write.indented
      | .single scope => do
          let rule := if emptyAsTautology then EmptyRule.tautology else .skip
          let result ← singleDocument scope ⟨rule⟩ filter
          return result.indented
  | .render catalogPath filterPath _ => do
      let catalog ← readCatalog read catalogPath
      match catalog with
      | .single _ => throw .notGrouped
      | .grouped groups => do
          let filter ← readFilter read filterPath
          let result ← grouped groups filter
          return (renderedDocument result).indented

/-- What a command leaves behind. -/
structure Outcome where
  code : Nat
  printed : String
  folder : Folder
  fault : Option Fault

namespace Outcome

/-- The outcome of a command that has failed: nothing is printed or written. -/
def failed (folder : Folder) (fault : Fault) : Outcome :=
  ⟨fault.code, "", folder, some fault⟩

/-- The outcome of a finished document: it is written to the file that the request
names, or printed as a line. -/
def delivered (folder : Folder) (output : Option String) (text : String) :
    Outcome :=
  match output with
  | none => ⟨0, text ++ "\n", folder, none⟩
  | some path =>
      match folder.write? path text with
      | some written => ⟨0, "", written, none⟩
      | none => failed folder .file

end Outcome

def Request.run (request : Request) (folder : Folder) : Outcome :=
  match document folder.read? request with
  | .error fault => .failed folder fault
  | .ok text => .delivered folder request.output? text

/-- Runs a command line in a folder. -/
def run (arguments : List String) (folder : Folder) : Outcome :=
  match Request.ofArguments? arguments with
  | none => .failed folder .usage
  | some request => request.run folder

end WhereClause.Command
