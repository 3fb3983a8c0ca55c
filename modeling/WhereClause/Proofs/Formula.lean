import Mathlib.Data.List.Forall2
import WhereClause.Filter
import WhereClause.Proofs.Compilation
import WhereClause.Proofs.Truth
import WhereClause.Settings

/-!
# Formulas of filters

A formula is a filter whose conditions have been replaced by labels, such as the texts they are
compiled to. What a filter means is said of its formula, without regard to how the formula is
written. Main statement: the labels of a formula are those of its filter's conditions, made one
after the other in the order of the document.
-/

namespace WhereClause

mutual

/-- A formula: the conjunction of its conjuncts, one for each entry of a filter. -/
inductive Formula (α : Type) where
  | all (conjuncts : List (Conjunct α))

/-- A conjunct of a formula. -/
inductive Conjunct (α : Type) where
  | set (connective : Connective) (children : List (Formula α))
  | negation (child : Formula α)
  | leaf (label : α)

end

namespace Formula

variable {α : Type}

mutual

/-- The labels of a formula from left to right. -/
def leaves : Formula α → List α
  | .all conjuncts => leavesOfConjuncts conjuncts

def leavesOfConjunct : Conjunct α → List α
  | .set _ children => leavesOfAll children
  | .negation child => leaves child
  | .leaf label => [label]

def leavesOfConjuncts : List (Conjunct α) → List α
  | [] => []
  | conjunct :: rest => leavesOfConjunct conjunct ++ leavesOfConjuncts rest

def leavesOfAll : List (Formula α) → List α
  | [] => []
  | formula :: rest => leaves formula ++ leavesOfAll rest

end

mutual

/-- Whether no part of the formula has more than one conjunct. -/
def isNarrow : Formula α → Bool
  | .all conjuncts => conjuncts.length ≤ 1 && areNarrowConjuncts conjuncts

def isNarrowConjunct : Conjunct α → Bool
  | .set _ children => areNarrow children
  | .negation child => isNarrow child
  | .leaf _ => true

def areNarrowConjuncts : List (Conjunct α) → Bool
  | [] => true
  | conjunct :: rest => isNarrowConjunct conjunct && areNarrowConjuncts rest

def areNarrow : List (Formula α) → Bool
  | [] => true
  | formula :: rest => isNarrow formula && areNarrow rest

end

mutual

/-- Whether no part of the formula that stands below a negation has more than one
conjunct. -/
def isNarrowBelowNegation : Formula α → Bool
  | .all conjuncts => areNarrowBelowNegationConjuncts conjuncts

def isNarrowBelowNegationConjunct : Conjunct α → Bool
  | .set _ children => areNarrowBelowNegation children
  | .negation child => isNarrow child
  | .leaf _ => true

def areNarrowBelowNegationConjuncts : List (Conjunct α) → Bool
  | [] => true
  | conjunct :: rest =>
      isNarrowBelowNegationConjunct conjunct && areNarrowBelowNegationConjuncts rest

def areNarrowBelowNegation : List (Formula α) → Bool
  | [] => true
  | formula :: rest => isNarrowBelowNegation formula && areNarrowBelowNegation rest

end

end Formula

/-- The value of an empty filter inside another. -/
def EmptyRule.truth? : EmptyRule → Option Truth
  | .skip => none
  | .tautology => some .true

namespace Formula

variable {α : Type} (rule : EmptyRule) (truth : α → Truth)

mutual

/-- The value of a formula, if some part of it contributes one. A negation always does:
what is negated holds if nothing contributes to it. -/
def meaning : Formula α → Option Truth
  | .all [] => rule.truth?
  | .all (conjunct :: rest) =>
      Connective.conjunction.combine? (meaningsOfConjuncts (conjunct :: rest))

def meaningOfConjunct : Conjunct α → Option Truth
  | .set connective children => connective.combine? (meanings children)
  | .negation child => some ((meaning child).getD .true).not
  | .leaf label => some (truth label)

def meaningsOfConjuncts : List (Conjunct α) → List Truth
  | [] => []
  | conjunct :: rest =>
      (meaningOfConjunct conjunct).toList ++ meaningsOfConjuncts rest

def meanings : List (Formula α) → List Truth
  | [] => []
  | formula :: rest => (meaning formula).toList ++ meanings rest

end

end Formula

/-! ## Outlines -/

namespace Filter

variable {α : Type}

mutual

/-- The conditions of a filter with their fields, in the order of the document. -/
def leaves : Filter → List (String × Json)
  | .rejected _ => []
  | .all clauses => leavesOfClauses clauses

def leavesOfClause : Clause → List (String × Json)
  | .set _ children => leavesOfAll children
  | .negation child => leaves child
  | .leaf key condition => [(key, condition)]

def leavesOfClauses : List Clause → List (String × Json)
  | [] => []
  | clause :: rest => leavesOfClause clause ++ leavesOfClauses rest

def leavesOfAll : List Filter → List (String × Json)
  | [] => []
  | filter :: rest => leaves filter ++ leavesOfAll rest

end

section Outline

variable (label : String → Json → Compilation α)

mutual

/-- The formula of a filter, with a label for each condition. -/
def outline : Filter → Compilation (Formula α)
  | .rejected cause => throw cause
  | .all clauses => do
      let conjuncts ← outlineClauses clauses
      return .all conjuncts

def outlineClause : Clause → Compilation (Conjunct α)
  | .set connective children => do
      let formulas ← outlineAll children
      return .set connective formulas
  | .negation child => do
      let formula ← outline child
      return .negation formula
  | .leaf key condition => do
      let made ← label key condition
      return .leaf made

def outlineClauses : List Clause → Compilation (List (Conjunct α))
  | [] => return []
  | clause :: rest => do
      let conjunct ← outlineClause clause
      let conjuncts ← outlineClauses rest
      return conjunct :: conjuncts

def outlineAll : List Filter → Compilation (List (Formula α))
  | [] => return []
  | filter :: rest => do
      let formula ← outline filter
      let formulas ← outlineAll rest
      return formula :: formulas

end

end Outline

/-- Makes the labels of conditions, in order. -/
def labelAll (label : String → Json → Compilation α)
    (conditions : List (String × Json)) : Compilation (List α) :=
  conditions.mapM fun condition => label condition.1 condition.2

variable {label : String → Json → Compilation α}

theorem runFrom_labelAll_append
    {left right : List (String × Json)} {first second : List α}
    {parameters bound final : Parameters}
    (leftRun : (labelAll label left).runFrom parameters = (.ok first, bound))
    (rightRun : (labelAll label right).runFrom bound = (.ok second, final)) :
    (labelAll label (left ++ right)).runFrom parameters =
      (.ok (first ++ second), final) := by
  simp only [labelAll] at leftRun rightRun ⊢
  rw [List.mapM_append, Compilation.runFrom_bind, leftRun]
  simp only [Compilation.runFrom_bind, rightRun]
  rfl

/-- What holds of every label that is made holds of all labels, each with its condition. -/
theorem forall₂_of_labelAll
    {Relates : String × Json → α → Prop} {conditions : List (String × Json)} {labels : List α}
    {parameters final : Parameters}
    (each : ∀ condition made before after,
      (label condition.1 condition.2).runFrom before = (.ok made, after) →
        Relates condition made)
    (run : (labelAll label conditions).runFrom parameters = (.ok labels, final)) :
    List.Forall₂ Relates conditions labels := by
  induction conditions generalizing parameters labels with
  | nil =>
      cases run
      exact .nil
  | cons condition rest inductionHypothesis =>
      simp only [labelAll, List.mapM_cons, Compilation.runFrom_bind_eq_ok_iff] at run
      obtain ⟨made, bound, conditionRun, others, _, restRun, done⟩ := run
      cases done
      exact .cons (each condition made _ _ conditionRun) (inductionHypothesis restRun)

mutual

/-- An outline makes the labels of the conditions in the order of the document, and binds
nothing else. -/
theorem labelAll_leaves_of_outline
    {filter : Filter} {formula : Formula α} {parameters final : Parameters}
    (run : (filter.outline label).runFrom parameters = (.ok formula, final)) :
    (labelAll label filter.leaves).runFrom parameters =
      (.ok formula.leaves, final) := by
  cases filter with
  | rejected cause =>
      simp [outline] at run
  | all clauses =>
      rw [outline, Compilation.runFrom_bind_eq_ok_iff] at run
      obtain ⟨conjuncts, bound, clausesRun, done⟩ := run
      cases done
      exact labelAll_leavesOfClauses_of_outline clausesRun

theorem labelAll_leavesOfClause_of_outline
    {clause : Clause} {conjunct : Conjunct α} {parameters final : Parameters}
    (run : (outlineClause label clause).runFrom parameters = (.ok conjunct, final)) :
    (labelAll label (leavesOfClause clause)).runFrom parameters =
      (.ok (Formula.leavesOfConjunct conjunct), final) := by
  cases clause with
  | set connective children =>
      rw [outlineClause, Compilation.runFrom_bind_eq_ok_iff] at run
      obtain ⟨formulas, bound, childrenRun, done⟩ := run
      cases done
      exact labelAll_leavesOfAll_of_outline childrenRun
  | negation child =>
      rw [outlineClause, Compilation.runFrom_bind_eq_ok_iff] at run
      obtain ⟨formula, bound, childRun, done⟩ := run
      cases done
      exact labelAll_leaves_of_outline childRun
  | leaf key condition =>
      rw [outlineClause, Compilation.runFrom_bind_eq_ok_iff] at run
      obtain ⟨made, bound, labelRun, done⟩ := run
      cases done
      simp [labelAll, leavesOfClause, Formula.leavesOfConjunct, labelRun, Except.map]

theorem labelAll_leavesOfClauses_of_outline
    {clauses : List Clause} {conjuncts : List (Conjunct α)}
    {parameters final : Parameters}
    (run : (outlineClauses label clauses).runFrom parameters =
      (.ok conjuncts, final)) :
    (labelAll label (leavesOfClauses clauses)).runFrom parameters =
      (.ok (Formula.leavesOfConjuncts conjuncts), final) := by
  cases clauses with
  | nil =>
      cases run
      rfl
  | cons clause rest =>
      simp only [outlineClauses, Compilation.runFrom_bind_eq_ok_iff] at run
      obtain ⟨conjunct, bound, headRun, others, _, restRun, done⟩ := run
      cases done
      exact runFrom_labelAll_append (labelAll_leavesOfClause_of_outline headRun)
        (labelAll_leavesOfClauses_of_outline restRun)

theorem labelAll_leavesOfAll_of_outline
    {filters : List Filter} {formulas : List (Formula α)}
    {parameters final : Parameters}
    (run : (outlineAll label filters).runFrom parameters = (.ok formulas, final)) :
    (labelAll label (leavesOfAll filters)).runFrom parameters =
      (.ok (Formula.leavesOfAll formulas), final) := by
  cases filters with
  | nil =>
      cases run
      rfl
  | cons filter rest =>
      simp only [outlineAll, Compilation.runFrom_bind_eq_ok_iff] at run
      obtain ⟨formula, bound, headRun, others, _, restRun, done⟩ := run
      cases done
      exact runFrom_labelAll_append (labelAll_leaves_of_outline headRun)
        (labelAll_leavesOfAll_of_outline restRun)

end

end Filter

end WhereClause
