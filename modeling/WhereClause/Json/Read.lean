import WhereClause.Json.Token

/-!
# Reading JSON from tokens

The reader keeps a stack of the arrays and objects that are still open and takes one token at a
time.
-/

namespace WhereClause.Json

/-- An open array or object with what it holds so far, last first; `field` is an object
that awaits the value of a name. -/
inductive Frame where
  | array (items : List Json)
  | object (members : List (String × Json))
  | field (members : List (String × Json)) (name : String)
  deriving Repr

/-- What the next token has to be. -/
inductive Expecting where
  | value
  | firstValue
  | name
  | firstName
  | colon
  | separator
  deriving DecidableEq, Repr

/-- How far a value has been read. -/
inductive Progress where
  | pending (expecting : Expecting) (frames : List Frame)
  | complete (value : Json)
  deriving Repr

/-- Puts a finished value where it belongs. -/
def deliver (value : Json) : List Frame → Option Progress
  | [] => some (.complete value)
  | .array items :: frames =>
      some (.pending .separator (.array (value :: items) :: frames))
  | .field members name :: frames =>
      some (.pending .separator (.object ((name, value) :: members) :: frames))
  | .object _ :: _ => none

/-- Opens an array or object unless too many are open. -/
def enter (limit : Nat) (frame : Frame) (expecting : Expecting)
    (frames : List Frame) : Option Progress :=
  if frames.length < limit then some (.pending expecting (frame :: frames))
  else none

/-- Takes the first token of a value. -/
def takeValue (limit : Nat) (frames : List Frame) : Token → Option Progress
  | .openArray => enter limit (.array []) .firstValue frames
  | .openObject => enter limit (.object []) .firstName frames
  | .scalar value => deliver value frames
  | .text content => deliver (.str content) frames
  | _ => none

/-- Takes a token that closes the innermost array or object. -/
def close : Token → List Frame → Option Progress
  | .closeArray, .array items :: frames => deliver (.arr items.reverse) frames
  | .closeObject, .object members :: frames =>
      deliver (.obj members.reverse) frames
  | _, _ => none

/-- Takes the name of a member. -/
def takeName : Token → List Frame → Option Progress
  | .text name, .object members :: frames =>
      some (.pending .colon (.field members name :: frames))
  | _, _ => none

/-- Takes a comma between items or between members. -/
def takeComma : List Frame → Option Progress
  | .array items :: frames => some (.pending .value (.array items :: frames))
  | .object members :: frames =>
      some (.pending .name (.object members :: frames))
  | _ => none

def step (limit : Nat) (expecting : Expecting) (frames : List Frame)
    (token : Token) : Option Progress :=
  match expecting with
  | .value => takeValue limit frames token
  | .firstValue =>
      if token = .closeArray then close token frames
      else takeValue limit frames token
  | .name => takeName token frames
  | .firstName =>
      if token = .closeObject then close token frames
      else takeName token frames
  | .colon =>
      if token = .colon then some (.pending .value frames) else none
  | .separator =>
      if token = .comma then takeComma frames else close token frames

/-- Reads on until the value is complete; gives the value and the tokens after it. -/
def readFrom (limit : Nat) : Progress → List Token → Option (Json × List Token)
  | .complete value, rest => some (value, rest)
  | .pending _ _, [] => none
  | .pending expecting frames, token :: rest =>
      match step limit expecting frames token with
      | none => none
      | some progress => readFrom limit progress rest

/-- The nesting that a text may have. -/
def nestingLimit : Nat :=
  127

/-- Reads the first value of a text, with repeated members kept, and the tokens after
it. -/
def readFirst? (limit : Nat) (text : String) : Option (Json × List Token) :=
  readFrom limit (.pending .value []) (scan text)

/-- Reads a text that holds one value and nothing else. -/
def parseWithin? (limit : Nat) (text : String) : Option Json :=
  match readFirst? limit text with
  | some (value, []) => some value.collapse
  | _ => none

def parse? (text : String) : Option Json :=
  parseWithin? nestingLimit text

end WhereClause.Json
