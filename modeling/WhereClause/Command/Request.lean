/-!
# Command lines

A command with its options, as they stand in the arguments.
-/

namespace WhereClause.Command

/-- What a command line asks for. -/
inductive Request where
  | version
  | comparators
  | compile (catalog filter : String) (emptyAsTautology : Bool)
      (output : Option String)
  | render (catalog filter : String) (output : Option String)
  deriving DecidableEq, Repr

inductive OptionName where
  | catalog
  | filter
  | output
  | emptyAsTautology
  deriving DecidableEq, Repr

namespace OptionName

def ofText? (text : String) : Option OptionName :=
  if text = "schema" then some .catalog
  else if text = "filter" then some .filter
  else if text = "output" then some .output
  else if text = "empty-as-tautology" then some .emptyAsTautology
  else none

def takesValue (name : OptionName) : Bool :=
  name != .emptyAsTautology

end OptionName

/-- The options given so far. -/
structure Options where
  catalog : Option String
  filter : Option String
  output : Option String
  emptyAsTautology : Bool
  deriving DecidableEq, Repr

namespace Options

def blank : Options :=
  ⟨none, none, none, false⟩

/-- Gives an option a value, once. -/
def set? (options : Options) (value : String) : OptionName → Option Options
  | .catalog =>
      if options.catalog.isSome then none
      else some { options with catalog := some value }
  | .filter =>
      if options.filter.isSome then none
      else some { options with filter := some value }
  | .output =>
      if options.output.isSome then none
      else some { options with output := some value }
  | .emptyAsTautology => none

/-- Sets an option that takes no value, once. -/
def setFlag? (options : Options) : OptionName → Option Options
  | .emptyAsTautology =>
      if options.emptyAsTautology then none
      else some { options with emptyAsTautology := true }
  | _ => none

end Options

/-- The name of a long option and the value attached to it. -/
def splitOption? (argument : String) : Option (String × Option String) :=
  match argument.toList with
  | '-' :: '-' :: rest =>
      let name := rest.takeWhile fun character => character ≠ '='
      let attached :=
        match rest.dropWhile fun character => character ≠ '=' with
        | [] => none
        | _ :: value => some (String.ofList value)
      some (String.ofList name, attached)
  | _ => none

/-- Whether an argument can be the value of the option before it. A dash starts an
option, unless it stands alone. -/
def isValue (argument : String) : Bool :=
  match argument.toList with
  | '-' :: _ :: _ => false
  | _ => true

/-- Reads options; `awaiting` is an option whose value is the next argument. A double
dash ends the options, and nothing may follow it. -/
def readOptions? (allowed : List OptionName) :
    Option OptionName → List String → Options → Option Options
  | some _, [], _ => none
  | some name, argument :: rest, options =>
      if isValue argument then
        match options.set? argument name with
        | some extended => readOptions? allowed none rest extended
        | none => none
      else none
  | none, [], options => some options
  | none, argument :: rest, options =>
      if argument = "--" then
        if rest.isEmpty then some options else none
      else
        match splitOption? argument with
        | none => none
        | some (text, attached) =>
            match OptionName.ofText? text with
            | none => none
            | some name =>
                if name ∈ allowed then
                  match name.takesValue, attached with
                  | true, none => readOptions? allowed (some name) rest options
                  | true, some value =>
                      match options.set? value name with
                      | some extended =>
                          readOptions? allowed none rest extended
                      | none => none
                  | false, none =>
                      match options.setFlag? name with
                      | some extended =>
                          readOptions? allowed none rest extended
                      | none => none
                  | false, some _ => none
                else none

namespace Request

/-- The request to compile, where both files are named. -/
def compileWith? (options : Options) : Option Request :=
  match options.catalog, options.filter with
  | some catalog, some filter =>
      some (.compile catalog filter options.emptyAsTautology options.output)
  | _, _ => none

/-- The request to render, where both files are named. -/
def renderWith? (options : Options) : Option Request :=
  match options.catalog, options.filter with
  | some catalog, some filter => some (.render catalog filter options.output)
  | _, _ => none

/-- Whether an argument asks for the version; letters joined to the short form are not
looked at. -/
def asksVersion (argument : String) : Bool :=
  argument = "--version" ||
    match argument.toList with
    | '-' :: 'V' :: _ => true
    | _ => false

/-- The request of a command line, if it is one. -/
def ofArguments? : List String → Option Request
  | [] => none
  | command :: rest =>
      if asksVersion command then some .version
      else if command = "compile" then
        (readOptions? [.catalog, .filter, .emptyAsTautology, .output]
          none rest Options.blank).bind compileWith?
      else if command = "render" then
        (readOptions? [.catalog, .filter, .output]
          none rest Options.blank).bind renderWith?
      else if command = "operators" then
        (readOptions? [] none rest Options.blank).map fun _ => .comparators
      else none

/-- The file that the result is written to. -/
def output? : Request → Option String
  | .compile _ _ _ output => output
  | .render _ _ output => output
  | .version | .comparators => none

end Request

end WhereClause.Command
