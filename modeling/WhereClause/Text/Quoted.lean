import WhereClause.Text.Extending
import WhereClause.Text.Unprintable

/-!
# Text in quotes for diagnostics

Quotes and backslashes are escaped, and so is every character that would not be seen as itself.
-/

namespace WhereClause.Text

/-- A code point in hexadecimal digits between braces. -/
def codePoint (character : Char) : List Char :=
  ['\\', 'u', '{'] ++ Nat.toDigits 16 character.toNat ++ ['}']

/-- A character as it is shown inside quotes. -/
def shown (character : Char) : List Char :=
  match character with
  | '\x00' => ['\\', '0']
  | '\t' => ['\\', 't']
  | '\r' => ['\\', 'r']
  | '\n' => ['\\', 'n']
  | '\\' => ['\\', '\\']
  | '"' => ['\\', '"']
  | other =>
      if isExtending other || isUnprintable other then codePoint other
      else [other]

/-- A text in quotes with every character shown. -/
def quoted (text : String) : String :=
  "\"" ++ String.ofList (text.toList.flatMap shown) ++ "\""

end WhereClause.Text
