import WhereClause.Json.Value

/-!
# The tokens of a JSON text

The text is scanned one character at a time by a machine whose state says which token is under
way, so the scan is a recursion on the text. After the first character that no token admits the
list ends with `Token.bad`.
-/

namespace WhereClause.Json

open Number

inductive Token where
  | openObject
  | closeObject
  | openArray
  | closeArray
  | colon
  | comma
  | scalar (value : Json)
  | text (content : String)
  | bad
  deriving DecidableEq, Repr

/-- How far a number has been scanned. -/
inductive NumberPhase where
  | sign
  | zero
  | whole
  | point
  | fraction
  | mark
  | markSign
  | power
  deriving DecidableEq, Repr

/-- The characters of a number by role; digits are held last first. -/
structure Numeral where
  negative : Bool
  whole : List Nat
  fraction : Option (List Nat)
  power : Option (Bool × List Nat)
  deriving Repr

def digitValue (character : Char) : Nat :=
  character.toNat - '0'.toNat

namespace Numeral

/-- A number of which nothing is known but its sign. -/
def start (negative : Bool) : Numeral :=
  ⟨negative, [], none, none⟩

/-- Takes one more character of a number, or says that the number ends before it. -/
def extend (numeral : Numeral) (phase : NumberPhase) (character : Char) :
    Option (NumberPhase × Numeral) :=
  let addWhole :=
    { numeral with whole := digitValue character :: numeral.whole }
  let addFraction :=
    { numeral with
      fraction := some (digitValue character :: numeral.fraction.getD []) }
  let setPower (negative : Bool) :=
    { numeral with power := some (negative, []) }
  let addPower :=
    { numeral with
      power := numeral.power.map fun power =>
        (power.1, digitValue character :: power.2) }
  let isMark := character = 'e' ∨ character = 'E'
  match phase with
  | .sign =>
      if character = '0' then some (.zero, addWhole)
      else if character.isDigit then some (.whole, addWhole)
      else none
  | .zero =>
      if character = '.' then some (.point, numeral)
      else if isMark then some (.mark, setPower false)
      else none
  | .whole =>
      if character.isDigit then some (.whole, addWhole)
      else if character = '.' then some (.point, numeral)
      else if isMark then some (.mark, setPower false)
      else none
  | .point =>
      if character.isDigit then some (.fraction, addFraction) else none
  | .fraction =>
      if character.isDigit then some (.fraction, addFraction)
      else if isMark then some (.mark, setPower false)
      else none
  | .mark =>
      if character = '+' then some (.markSign, numeral)
      else if character = '-' then some (.markSign, setPower true)
      else if character.isDigit then some (.power, addPower)
      else none
  | .markSign | .power =>
      if character.isDigit then some (.power, addPower) else none

/-- Whether a number may end in the phase before the given character: a leading zero is
followed by no digit. -/
def mayEnd (phase : NumberPhase) (following : Option Char) : Bool :=
  match phase with
  | .zero => !(following.any Char.isDigit)
  | .whole | .fraction | .power => true
  | .sign | .point | .mark | .markSign => false

/-- One more than the largest significand that is accumulated exactly. -/
def significandLimit : Nat :=
  Nat.pow 2 64

/-- The largest power of ten that is accumulated exactly. -/
def powerLimit : Nat :=
  Nat.pow 2 31 - 1

/-- The significand of the whole digits, and the number of digits left out once it was
full. -/
def wholePart (significand : Nat) : List Nat → Nat × Nat
  | [] => (significand, 0)
  | digit :: rest =>
      if significand * 10 + digit < significandLimit then
        wholePart (significand * 10 + digit) rest
      else (significand, rest.length + 1)

/-- The significand with fraction digits appended while it has room, and how many were
appended. -/
def fractionPart (significand : Nat) : List Nat → Nat × Nat
  | [] => (significand, 0)
  | digit :: rest =>
      if significand * 10 + digit < significandLimit then
        let extended := fractionPart (significand * 10 + digit) rest
        (extended.1, extended.2 + 1)
      else (significand, 0)

/-- The power of ten of a list of digits, or nothing when it is too large. -/
def powerPart (power : Nat) : List Nat → Option Nat
  | [] => some power
  | digit :: rest =>
      if power * 10 + digit ≤ powerLimit then
        powerPart (power * 10 + digit) rest
      else none

/-- The double-precision number of a significand and a power of ten. -/
def scaled? (negative : Bool) (significand : Nat) (power : Int) :
    Option Json :=
  (Binary64.scaled? significand power).map fun magnitude =>
    .double ⟨negative, magnitude⟩

/-- The value of a finished number. Without point and exponent it is an integer if it
lies within 64 bits, where a negative zero does not count as one; everything else is
rounded to double precision, and a number too large for that has no value. -/
def value? (numeral : Numeral) : Option Json :=
  let (whole, dropped) := wholePart 0 numeral.whole.reverse
  let (significand, places) :=
    fractionPart whole (numeral.fraction.getD []).reverse
  let shift : Int := (dropped : Int) - places
  match numeral.power with
  | some (downward, digits) =>
      match powerPart 0 digits.reverse with
      | some power =>
          scaled? numeral.negative significand
            (if downward then shift - power else shift + power)
      | none =>
          if significand ≠ 0 ∧ downward = false then none
          else scaled? numeral.negative 0 0
  | none =>
      if numeral.fraction.isSome ∨ dropped ≠ 0 then
        scaled? numeral.negative significand shift
      else if numeral.negative then
        if significand = 0 ∨ Nat.pow 2 63 < significand then
          scaled? true significand 0
        else some (.int (-significand))
      else some (.int significand)

end Numeral

/-! ## The scanner -/

/-- The token under way. -/
inductive Mode where
  | between
  | word (awaited : List Char) (value : Json)
  | number (phase : NumberPhase) (numeral : Numeral)
  | text (content : List Char)
  | escape (content : List Char)
  | unit (content : List Char) (leading : Option Nat)
      (value digits : Nat)
  | trailing (content : List Char) (leading : Nat)
  | trailingMark (content : List Char) (leading : Nat)
  | failed
  deriving Repr

def hexValue? (character : Char) : Option Nat :=
  if character.isDigit then some (digitValue character)
  else if 'a' ≤ character ∧ character ≤ 'f' then
    some (character.toNat - 'a'.toNat + 10)
  else if 'A' ≤ character ∧ character ≤ 'F' then
    some (character.toNat - 'A'.toNat + 10)
  else none

/-- The character that a short escape stands for. -/
def shortEscape? : Char → Option Char
  | '"' => some '"'
  | '\\' => some '\\'
  | '/' => some '/'
  | 'b' => some '\x08'
  | 'f' => some '\x0c'
  | 'n' => some '\n'
  | 'r' => some '\r'
  | 't' => some '\t'
  | _ => none

/-- Ends a four-digit escape: a code unit is a character of its own, or the first or
second half of a pair. -/
def finishUnit (content : List Char) (leading : Option Nat) (value : Nat) :
    Mode :=
  match leading with
  | some first =>
      if 0xDC00 ≤ value ∧ value ≤ 0xDFFF then
        .text
          (Char.ofNat (0x10000 + (first - 0xD800) * 0x400 + (value - 0xDC00))
            :: content)
      else .failed
  | none =>
      if 0xD800 ≤ value ∧ value ≤ 0xDBFF then .trailing content value
      else if 0xDC00 ≤ value ∧ value ≤ 0xDFFF then .failed
      else .text (Char.ofNat value :: content)

def begin (character : Char) : Mode × List Token :=
  match character with
  | ' ' | '\t' | '\n' | '\r' => (.between, [])
  | '{' => (.between, [.openObject])
  | '}' => (.between, [.closeObject])
  | '[' => (.between, [.openArray])
  | ']' => (.between, [.closeArray])
  | ':' => (.between, [.colon])
  | ',' => (.between, [.comma])
  | '"' => (.text [], [])
  | 'n' => (.word ['u', 'l', 'l'] .null, [])
  | 't' => (.word ['r', 'u', 'e'] (.bool true), [])
  | 'f' => (.word ['a', 'l', 's', 'e'] (.bool false), [])
  | '-' => (.number .sign (Numeral.start true), [])
  | other =>
      match (Numeral.start false).extend .sign other with
      | some (phase, numeral) => (.number phase numeral, [])
      | none => (.failed, [])

def advance (mode : Mode) (character : Char) : Mode × List Token :=
  match mode with
  | .between => begin character
  | .word awaited value =>
      match awaited with
      | [] => (.failed, [])
      | [last] =>
          if character = last then (.between, [.scalar value])
          else (.failed, [])
      | next :: rest =>
          if character = next then (.word rest value, []) else (.failed, [])
  | .number phase numeral =>
      match numeral.extend phase character with
      | some (nextPhase, extended) => (.number nextPhase extended, [])
      | none =>
          match Numeral.mayEnd phase (some character), numeral.value? with
          | true, some value =>
              let (next, tokens) := begin character
              (next, .scalar value :: tokens)
          | _, _ => (.failed, [])
  | .text content =>
      if character = '"' then
        (.between, [.text (String.ofList content.reverse)])
      else if character = '\\' then (.escape content, [])
      else if character < ' ' then (.failed, [])
      else (.text (character :: content), [])
  | .escape content =>
      if character = 'u' then (.unit content none 0 0, [])
      else
        match shortEscape? character with
        | some plain => (.text (plain :: content), [])
        | none => (.failed, [])
  | .unit content leading value digits =>
      match hexValue? character with
      | some digit =>
          if digits = 3 then
            (finishUnit content leading (value * 16 + digit), [])
          else (.unit content leading (value * 16 + digit) (digits + 1), [])
      | none => (.failed, [])
  | .trailing content leading =>
      if character = '\\' then (.trailingMark content leading, [])
      else (.failed, [])
  | .trailingMark content leading =>
      if character = 'u' then (.unit content (some leading) 0 0, [])
      else (.failed, [])
  | .failed => (.failed, [])

/-- The tokens that are still owed at the end of the text. -/
def finish : Mode → List Token
  | .between => []
  | .number phase numeral =>
      match Numeral.mayEnd phase none, numeral.value? with
      | true, some value => [.scalar value]
      | _, _ => [.bad]
  | _ => [.bad]

/-- The tokens of a text from a given state on. -/
def scanFrom (mode : Mode) : List Char → List Token
  | [] => finish mode
  | character :: rest =>
      match advance mode character with
      | (.failed, tokens) => tokens ++ [.bad]
      | (next, tokens) => tokens ++ scanFrom next rest

def scan (text : String) : List Token :=
  scanFrom .between text.toList

end WhereClause.Json
