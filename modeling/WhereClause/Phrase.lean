import WhereClause.Connective

/-!
# Phrases of SQL

Boolean SQL as a list of symbols. Conditions are atoms; parentheses and connectives are symbols of
their own. Main statement: the text of a phrase is the concatenation of the texts of its parts.
-/

namespace WhereClause

inductive Symbol where
  | atom (text : String)
  | tautology
  | opening
  | closing
  | junction (connective : Connective)
  | negation
  deriving DecidableEq, Repr

/-- The symbol as it is written, with the blanks around a connective. -/
def Symbol.text : Symbol → String
  | .atom text => text
  | .tautology => "(1=1)"
  | .opening => "("
  | .closing => ")"
  | .junction connective => " " ++ connective.sql ++ " "
  | .negation => "not "

abbrev Phrase :=
  List Symbol

namespace Phrase

def text : Phrase → String
  | [] => ""
  | symbol :: rest => symbol.text ++ text rest

theorem text_append (left right : Phrase) :
    text (left ++ right) = text left ++ text right := by
  induction left with
  | nil => simp [text]
  | cons symbol rest inductionHypothesis =>
      simp [text, inductionHypothesis, String.append_assoc]

/-- The phrase of a condition. -/
def atom (condition : String) : Phrase :=
  [.atom condition]

def tautology : Phrase :=
  [.tautology]

/-- A phrase in parentheses. -/
def enclosed (phrase : Phrase) : Phrase :=
  .opening :: phrase ++ [.closing]

/-- The parts with a connective between them. -/
def joined (connective : Connective) : List Phrase → Phrase
  | [] => []
  | [part] => part
  | part :: rest => part ++ .junction connective :: joined connective rest

/-- The parts as one unit: nothing for none, the part itself for one, and several
between parentheses. -/
def united? (connective : Connective) : List Phrase → Option Phrase
  | [] => none
  | [part] => some part
  | parts => some (enclosed (joined connective parts))

/-- The parts as one unit, which always holds if there are none. -/
def united (connective : Connective) (parts : List Phrase) : Phrase :=
  (united? connective parts).getD tautology

end Phrase

end WhereClause
