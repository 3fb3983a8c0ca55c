import WhereClause.Condition
import WhereClause.Filter
import WhereClause.Phrase
import WhereClause.Settings

/-!
# Compiling a filter for one table

The phrase of a filter is made clause by clause; an empty filter inside another adds what the
settings say.
-/

namespace WhereClause

/-- A table to compile for. -/
structure Target where
  scope : Scope
  settings : Settings

/-- The phrase of an empty filter. -/
def EmptyRule.phrase? : EmptyRule → Option Phrase
  | .skip => none
  | .tautology => some Phrase.tautology

/-- The clauses of one filter beside each other, without parentheses. -/
def Phrase.sideBySide? : List Phrase → Option Phrase
  | [] => none
  | parts => some (Phrase.joined .conjunction parts)

/-- The negation of a phrase, in parentheses; the negation of nothing never holds. -/
def Phrase.negated (phrase : Option Phrase) : Phrase :=
  Phrase.enclosed (.negation :: phrase.getD Phrase.tautology)

namespace Filter

/-- Compiles a condition on a field of the table. -/
def leafPhrase (target : Target) (key : String) (condition : Json) :
    Compilation Phrase :=
  match target.scope.field? key with
  | none => throw (.unknownField key)
  | some field => do
      let text ← field.condition condition
      return Phrase.atom text

mutual

/-- Compiles a filter; a filter without a contributing clause has no phrase. -/
def phrase? (target : Target) : Filter → Compilation (Option Phrase)
  | .rejected cause => throw cause
  | .all [] => return target.settings.emptyRule.phrase?
  | .all (clause :: rest) => do
      let parts ← clausePhrases target (clause :: rest)
      return Phrase.sideBySide? parts

def clausePhrase? (target : Target) : Clause → Compilation (Option Phrase)
  | .set connective children => do
      let parts ← phrases target children
      return Phrase.united? connective parts
  | .negation child => do
      let phrase ← phrase? target child
      return some (Phrase.negated phrase)
  | .leaf key condition => do
      let phrase ← leafPhrase target key condition
      return some phrase

/-- Compiles clauses in order and keeps those that contribute. -/
def clausePhrases (target : Target) : List Clause → Compilation (List Phrase)
  | [] => return []
  | clause :: rest => do
      let phrase ← clausePhrase? target clause
      let phrases ← clausePhrases target rest
      return phrase.toList ++ phrases

/-- Compiles filters in order and keeps those that contribute. -/
def phrases (target : Target) : List Filter → Compilation (List Phrase)
  | [] => return []
  | filter :: rest => do
      let phrase ← phrase? target filter
      let others ← phrases target rest
      return phrase.toList ++ others

end

/-- Compiles a whole filter; one that contributes nothing always holds. -/
def phrase (target : Target) (filter : Filter) : Compilation Phrase := do
  let phrase ← filter.phrase? target
  return phrase.getD Phrase.tautology

end Filter

/-- Compiles the JSON of a filter to SQL, from the given parameters on. -/
def compile (target : Target) (json : Json) (parameters : Parameters) :
    Except Rejection String × Parameters :=
  let (result, bound) := ((Filter.ofJson json).phrase target).runFrom parameters
  (result.map Phrase.text, bound)

end WhereClause
