import WhereClause.Command.Run

/-!
# The program

It reads the files that the command line names, and prints or writes the document.
-/

namespace WhereClause.Command

/-- The files that a request reads. -/
def Request.inputs : Request → List String
  | .compile catalog filter _ _ | .render catalog filter _ => [catalog, filter]
  | .version | .comparators => []

/-- The text of a file, where it can be read. -/
def readInput (path : String) : IO (String × Option String) := do
  try
    let text ← IO.FS.readFile path
    return (path, some text)
  catch _ =>
    return (path, none)

/-- Reports a fault and gives its exit code. -/
def report (fault : Fault) : IO UInt32 := do
  IO.eprintln ("Error: " ++ fault.diagnostic)
  return fault.code.toUInt32

/-- Prints a document, or writes it to a file. -/
def deliver (output : Option String) (text : String) : IO UInt32 := do
  match output with
  | none =>
      IO.println text
      return 0
  | some path =>
      try
        IO.FS.writeFile path text
        return 0
      catch _ =>
        report .file

end WhereClause.Command

open WhereClause.Command

def main (arguments : List String) : IO UInt32 := do
  match Request.ofArguments? arguments with
  | none => report .usage
  | some request =>
      let texts ← (Request.inputs request).mapM readInput
      let read (path : String) := (texts.lookup path).join
      match document read request with
      | .error fault => report fault
      | .ok text => deliver request.output? text
