import WhereClause.Json.Value

/-!
# Printing JSON

The compact form has no blanks; the indented form has one item or member a line.
-/

namespace WhereClause.Json

open Number

/-- Doubles are written positionally from `0.00001` up to below `1e16`. -/
def numberLayout : Layout :=
  ⟨-5, 15⟩

/-- A hexadecimal digit in lower case. -/
def hexDigit (value : Nat) : Char :=
  Nat.digitChar value

/-- A character as it stands inside quotes. -/
def escapeChar (character : Char) : List Char :=
  match character with
  | '"' => ['\\', '"']
  | '\\' => ['\\', '\\']
  | '\x08' => ['\\', 'b']
  | '\x0c' => ['\\', 'f']
  | '\n' => ['\\', 'n']
  | '\r' => ['\\', 'r']
  | '\t' => ['\\', 't']
  | other =>
      if other < ' ' then
        ['\\', 'u', '0', '0', hexDigit (other.toNat / 16),
          hexDigit (other.toNat % 16)]
      else [other]

/-- A string in quotes. -/
def quote (text : String) : String :=
  "\"" ++ String.ofList (text.toList.flatMap escapeChar) ++ "\""

mutual

/-- A value without blanks. -/
def compact : Json → String
  | .null => "null"
  | .bool true => "true"
  | .bool false => "false"
  | .int value => toString value
  | .double value => value.text numberLayout
  | .str text => quote text
  | .arr items => "[" ++ ",".intercalate (compactItems items) ++ "]"
  | .obj members =>
      "\x7b" ++ ",".intercalate (compactMembers members) ++ "\x7d"

def compactItems : List Json → List String
  | [] => []
  | item :: rest => compact item :: compactItems rest

def compactMembers : List (String × Json) → List String
  | [] => []
  | (name, value) :: rest =>
      (quote name ++ ":" ++ compact value) :: compactMembers rest

end

/-- A line break and the indentation of a depth. -/
def newline (depth : Nat) : String :=
  "\n" ++ String.ofList (List.replicate (2 * depth) ' ')

/-- Lays out the parts of an array or object, one a line; without parts the brackets
touch. -/
def enclose (opening closing : String) (depth : Nat) (parts : List String) :
    String :=
  if parts.isEmpty then opening ++ closing
  else
    opening ++ newline (depth + 1) ++
      ("," ++ newline (depth + 1)).intercalate parts ++
      newline depth ++ closing

mutual

/-- A value indented by two blanks a level, from a given depth on. -/
def indentedAt (depth : Nat) : Json → String
  | .arr items => enclose "[" "]" depth (indentedItems (depth + 1) items)
  | .obj members =>
      enclose "\x7b" "\x7d" depth (indentedMembers (depth + 1) members)
  | .null => "null"
  | .bool true => "true"
  | .bool false => "false"
  | .int value => toString value
  | .double value => value.text numberLayout
  | .str text => quote text

def indentedItems (depth : Nat) : List Json → List String
  | [] => []
  | item :: rest => indentedAt depth item :: indentedItems depth rest

def indentedMembers (depth : Nat) : List (String × Json) → List String
  | [] => []
  | (name, value) :: rest =>
      (quote name ++ ": " ++ indentedAt depth value) ::
        indentedMembers depth rest

end

/-- A value indented by two blanks a level. -/
def indented (value : Json) : String :=
  indentedAt 0 value

end WhereClause.Json
