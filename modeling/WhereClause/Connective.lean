import WhereClause.Comparator
import WhereClause.Text.Blank

/-!
# Connectives

The connectives that combine filters, and the keys that name them.
-/

namespace WhereClause

/-- How a list of filters is combined. -/
inductive Connective where
  | conjunction
  | disjunction
  deriving DecidableEq, Repr

namespace Connective

/-- The comparator with the same symbol. -/
def comparator : Connective → Comparator
  | .conjunction => .conjoined
  | .disjunction => .disjoined

/-- The connective in SQL, which is also how it is written. -/
def sql (connective : Connective) : String :=
  connective.comparator.sql false

/-- The connective that a key names: blanks around the key and the case of its letters
do not matter. -/
def ofKey? (key : String) : Option Connective :=
  let trimmed := String.ofList (Text.trim key.toList)
  if Text.sameUpToCase trimmed "and" then some .conjunction
  else if Text.sameUpToCase trimmed "or" then some .disjunction
  else none

end Connective

end WhereClause
