import WhereClause.Proofs.Roles
import WhereClause.Proofs.SingleTable.Failure
import WhereClause.Proofs.SingleTable.Meaning

/-!
# Empty filters inside others

An empty filter inside another contributes nothing, or a condition that always holds. Main
statement: both rules accept the same filters with the same parameters; without empty filters
below the root the texts are the same; and without negations the text where they contribute
nothing holds only where the other does, and wherever it does if there are no disjunctions either.
-/

namespace WhereClause

/-- A connective that keeps a relation between values, also where a true operand is added on the
right. -/
structure Connective.Keeps (connective : Connective) (Related : Truth → Truth → Prop) : Prop where
  apply {first second third fourth : Truth} (left : Related first second)
    (right : Related third fourth) :
    Related (connective.apply first third) (connective.apply second fourth)
  addTrue {low high : Truth} (related : Related low high) :
    Related low (connective.apply .true high)

theorem Connective.keeps_le (connective : Connective) : connective.Keeps (· ≤ ·) where
  apply := connective.apply_le_apply
  addTrue {low high} related := by
    cases connective with
    | conjunction =>
        rw [apply, Truth.true_and]
        exact related
    | disjunction =>
        rw [apply, Truth.or_eq_max]
        exact related.trans (le_max_right Truth.true high)

theorem Connective.conjunction_keeps_eq : Connective.conjunction.Keeps (· = ·) where
  apply left right := by
    rw [left, right]
  addTrue related := by
    rw [related]
    exact (Truth.true_and _).symm

/-- The values of a part without and with the empty filters in it. A part that contributes nothing
without them is true with them, if they make it contribute. -/
inductive Truth.Filled (Related : Truth → Truth → Prop) : Option Truth → Option Truth → Prop
  | absent : Filled Related none none
  | added : Filled Related none (some .true)
  | changed {low high : Truth} (related : Related low high) :
      Filled Related (some low) (some high)

namespace Truth.Filled

variable {Related : Truth → Truth → Prop} {first second third fourth : Option Truth}

theorem merge
    {connective : Connective} (keeps : connective.Keeps Related)
    (left : Filled Related first second) (right : Filled Related third fourth) :
    Filled Related (Option.merge connective.apply first third)
      (Option.merge connective.apply second fourth) := by
  cases left with
  | absent =>
      simpa using right
  | added =>
      cases right with
      | absent =>
          exact .added
      | added =>
          have idempotent : connective.apply .true .true = .true := by
            cases connective <;> rfl
          simpa [idempotent] using Filled.added
      | changed related =>
          exact .changed (keeps.addTrue related)
  | changed leftRelated =>
      cases right with
      | absent =>
          exact .changed leftRelated
      | added =>
          rw [Option.merge_none_right, Option.merge_some_some, connective.apply_comm]
          exact .changed (keeps.addTrue leftRelated)
      | changed rightRelated =>
          exact .changed (keeps.apply leftRelated rightRelated)

/-- A part that contributes nothing counts as true at the root. -/
theorem getD_true
    (ofTrue : Related .true .true) (filled : Filled Related first second) :
    Related (first.getD .true) (second.getD .true) := by
  cases filled with
  | absent | added =>
      exact ofTrue
  | changed related =>
      exact related

end Truth.Filled

namespace KeyRole

/-- A role whose conjuncts keep a relation between values; a negation does not. -/
def Keeps (Related : Truth → Truth → Prop) : KeyRole → Prop
  | .set connective => connective.Keeps Related
  | .negation => False
  | .field => ∀ value, Related value value

theorem keeps_le {role : KeyRole} (positive : role ≠ .negation) : role.Keeps (· ≤ ·) := by
  cases role with
  | set connective =>
      exact connective.keeps_le
  | negation =>
      exact absurd rfl positive
  | field =>
      exact le_refl

theorem keeps_eq
    {role : KeyRole} (positive : role ≠ .negation) (conjunctive : role ≠ .set .disjunction) :
    role.Keeps (· = ·) := by
  cases role with
  | set connective =>
      cases connective with
      | conjunction =>
          exact Connective.conjunction_keeps_eq
      | disjunction =>
          exact absurd rfl conjunctive
  | negation =>
      exact absurd rfl positive
  | field =>
      exact Eq.refl

end KeyRole

namespace Formula

variable {α : Type}

mutual

theorem isNarrowBelowNegation_of_positive
    {formula : Formula α} (positive : .negation ∉ formula.roles.flatten) :
    formula.isNarrowBelowNegation := by
  cases formula with
  | all conjuncts =>
      rw [roles, List.flatten_cons, List.mem_append, not_or] at positive
      exact areNarrowBelowNegationConjuncts_of_positive positive.1 positive.2

theorem isNarrowBelowNegationConjunct_of_positive
    {conjunct : Conjunct α} (notNegation : roleOfConjunct conjunct ≠ .negation)
    (positive : .negation ∉ (rolesOfConjunct conjunct).flatten) :
    isNarrowBelowNegationConjunct conjunct := by
  cases conjunct with
  | set connective children =>
      exact areNarrowBelowNegation_of_positive positive
  | negation child =>
      exact absurd rfl notNegation
  | leaf label =>
      rfl

theorem areNarrowBelowNegationConjuncts_of_positive
    {conjuncts : List (Conjunct α)} (own : .negation ∉ conjuncts.map roleOfConjunct)
    (positive : .negation ∉ (rolesOfConjuncts conjuncts).flatten) :
    areNarrowBelowNegationConjuncts conjuncts := by
  cases conjuncts with
  | nil =>
      rfl
  | cons conjunct rest =>
      rw [List.map_cons, List.mem_cons, not_or] at own
      rw [rolesOfConjuncts, List.flatten_append, List.mem_append, not_or] at positive
      have head := isNarrowBelowNegationConjunct_of_positive (Ne.symm own.1) positive.1
      have tail := areNarrowBelowNegationConjuncts_of_positive own.2 positive.2
      rw [areNarrowBelowNegationConjuncts, head, tail]
      rfl

theorem areNarrowBelowNegation_of_positive
    {formulas : List (Formula α)} (positive : .negation ∉ (rolesOfAll formulas).flatten) :
    areNarrowBelowNegation formulas := by
  cases formulas with
  | nil =>
      rfl
  | cons formula rest =>
      rw [rolesOfAll, List.flatten_append, List.mem_append, not_or] at positive
      have head := isNarrowBelowNegation_of_positive positive.1
      have tail := areNarrowBelowNegation_of_positive positive.2
      rw [areNarrowBelowNegation, head, tail]
      rfl

end

variable {truth : α → Truth} {Related : Truth → Truth → Prop}

mutual

/-- What the empty filters in a formula change is within any relation that its connectives keep. -/
theorem filled_meaning
    (conjoins : Connective.conjunction.Keeps Related) {formula : Formula α}
    (keeps : ∀ role ∈ formula.roles.flatten, role.Keeps Related) :
    Truth.Filled Related (formula.meaning .skip truth) (formula.meaning .tautology truth) := by
  cases formula with
  | all conjuncts =>
      cases conjuncts with
      | nil =>
          exact .added
      | cons conjunct rest =>
          rw [roles, List.flatten_cons, List.forall_mem_append] at keeps
          exact filled_meaningsOfConjuncts conjoins keeps.1 keeps.2

theorem filled_meaningOfConjunct
    (conjoins : Connective.conjunction.Keeps Related) {conjunct : Conjunct α}
    (own : (roleOfConjunct conjunct).Keeps Related)
    (keeps : ∀ role ∈ (rolesOfConjunct conjunct).flatten, role.Keeps Related) :
    Truth.Filled Related (meaningOfConjunct .skip truth conjunct)
      (meaningOfConjunct .tautology truth conjunct) := by
  cases conjunct with
  | set connective children =>
      exact filled_meanings conjoins own keeps
  | negation child =>
      exact own.elim
  | leaf label =>
      exact .changed (own (truth label))

theorem filled_meaningsOfConjuncts
    (conjoins : Connective.conjunction.Keeps Related) {conjuncts : List (Conjunct α)}
    (own : ∀ role ∈ conjuncts.map roleOfConjunct, role.Keeps Related)
    (keeps : ∀ role ∈ (rolesOfConjuncts conjuncts).flatten, role.Keeps Related) :
    Truth.Filled Related
      (Connective.conjunction.combine? (meaningsOfConjuncts .skip truth conjuncts))
      (Connective.conjunction.combine? (meaningsOfConjuncts .tautology truth conjuncts)) := by
  cases conjuncts with
  | nil =>
      exact .absent
  | cons conjunct rest =>
      rw [List.map_cons, List.forall_mem_cons] at own
      rw [rolesOfConjuncts, List.flatten_append, List.forall_mem_append] at keeps
      have head := filled_meaningOfConjunct conjoins own.1 keeps.1
      have tail := filled_meaningsOfConjuncts conjoins own.2 keeps.2
      simp only [meaningsOfConjuncts, Connective.combine?_append, Connective.combine?_toList]
      exact head.merge conjoins tail

theorem filled_meanings
    (conjoins : Connective.conjunction.Keeps Related) {connective : Connective}
    (combines : connective.Keeps Related) {formulas : List (Formula α)}
    (keeps : ∀ role ∈ (rolesOfAll formulas).flatten, role.Keeps Related) :
    Truth.Filled Related (connective.combine? (meanings .skip truth formulas))
      (connective.combine? (meanings .tautology truth formulas)) := by
  cases formulas with
  | nil =>
      exact .absent
  | cons formula rest =>
      rw [rolesOfAll, List.flatten_append, List.forall_mem_append] at keeps
      have head := filled_meaning conjoins keeps.1
      have tail := filled_meanings conjoins combines keeps.2
      simp only [meanings, Connective.combine?_append, Connective.combine?_toList]
      exact head.merge combines tail

end

/-- Without negations, a phrase reads as the meaning of its formula. -/
theorem value?_phrase_of_positive
    {formula : Formula String} (positive : .negation ∉ formula.roles.flatten)
    (rule : EmptyRule) (truth : String → Truth) :
    (formula.phrase rule).value? truth = some ((formula.meaning rule truth).getD .true) := by
  have narrow := isNarrowBelowNegation_of_positive positive
  rw [value?_phrase, ← Connective.getD_combine?_conjunction, combine?_row narrow]

/-- Without negations, a formula is at most as true where empty filters contribute nothing. -/
theorem meaning_skip_le
    {formula : Formula α} (positive : .negation ∉ formula.roles.flatten) (truth : α → Truth) :
    (formula.meaning .skip truth).getD .true ≤ (formula.meaning .tautology truth).getD .true := by
  have keeps : ∀ role ∈ formula.roles.flatten, role.Keeps (· ≤ ·) := fun role member =>
    KeyRole.keeps_le (ne_of_mem_of_not_mem member positive)
  have filled : Truth.Filled (· ≤ ·) (formula.meaning .skip truth)
      (formula.meaning .tautology truth) :=
    filled_meaning (Connective.keeps_le .conjunction) keeps
  exact filled.getD_true (le_refl _)

/-- Without negations and disjunctions, empty filters make no difference. -/
theorem meaning_skip_eq
    {formula : Formula α} (positive : .negation ∉ formula.roles.flatten)
    (conjunctive : .set .disjunction ∉ formula.roles.flatten) (truth : α → Truth) :
    (formula.meaning .skip truth).getD .true = (formula.meaning .tautology truth).getD .true := by
  have keeps : ∀ role ∈ formula.roles.flatten, role.Keeps (· = ·) := fun role member =>
    KeyRole.keeps_eq (ne_of_mem_of_not_mem member positive)
      (ne_of_mem_of_not_mem member conjunctive)
  have filled : Truth.Filled (· = ·) (formula.meaning .skip truth)
      (formula.meaning .tautology truth) :=
    filled_meaning Connective.conjunction_keeps_eq keeps
  exact filled.getD_true rfl

mutual

theorem phrase?_skip_eq
    {formula : Formula String} (nonempty : [] ∉ formula.roles) :
    formula.phrase? .skip = formula.phrase? .tautology := by
  cases formula with
  | all conjuncts =>
      rw [roles, List.mem_cons, not_or] at nonempty
      cases conjuncts with
      | nil =>
          exact absurd rfl nonempty.1
      | cons conjunct rest =>
          rw [phrase?, phrase?, phrasesOfConjuncts_skip_eq nonempty.2]

theorem phraseOfConjunct?_skip_eq
    {conjunct : Conjunct String} (nonempty : [] ∉ rolesOfConjunct conjunct) :
    phraseOfConjunct? .skip conjunct = phraseOfConjunct? .tautology conjunct := by
  cases conjunct with
  | set connective children =>
      rw [phraseOfConjunct?, phraseOfConjunct?, phrases_skip_eq nonempty]
  | negation child =>
      rw [phraseOfConjunct?, phraseOfConjunct?, phrase?_skip_eq nonempty]
  | leaf text =>
      rfl

theorem phrasesOfConjuncts_skip_eq
    {conjuncts : List (Conjunct String)} (nonempty : [] ∉ rolesOfConjuncts conjuncts) :
    phrasesOfConjuncts .skip conjuncts = phrasesOfConjuncts .tautology conjuncts := by
  cases conjuncts with
  | nil =>
      rfl
  | cons conjunct rest =>
      rw [rolesOfConjuncts, List.mem_append, not_or] at nonempty
      rw [phrasesOfConjuncts, phrasesOfConjuncts, phraseOfConjunct?_skip_eq nonempty.1,
        phrasesOfConjuncts_skip_eq nonempty.2]

theorem phrases_skip_eq
    {formulas : List (Formula String)} (nonempty : [] ∉ rolesOfAll formulas) :
    phrases .skip formulas = phrases .tautology formulas := by
  cases formulas with
  | nil =>
      rfl
  | cons formula rest =>
      rw [rolesOfAll, List.mem_append, not_or] at nonempty
      rw [phrases, phrases, phrase?_skip_eq nonempty.1, phrases_skip_eq nonempty.2]

end

/-- An empty root always holds under both rules, so only what is below it matters. -/
theorem phrase_skip_eq
    {formula : Formula String} (nonempty : [] ∉ formula.roles.tail) :
    formula.phrase .skip = formula.phrase .tautology := by
  cases formula with
  | all conjuncts =>
      rw [roles, List.tail_cons] at nonempty
      cases conjuncts with
      | nil =>
          rfl
      | cons conjunct rest =>
          rw [phrase, phrase, phrase?, phrase?, phrasesOfConjuncts_skip_eq nonempty]

end Formula

/-! ## Both rules -/

namespace Target

/-- Whether empty filters inside a filter are skipped or kept as conditions that always hold, the
filter is rejected for the same reason or compiled in both cases, to the same parameters. The
texts are the same if no empty object stands below the root in the place of a filter. If no key in
the place of a filter negates, what is compiled without them is at most as true, and equally true
if no key disjoins either. -/
theorem compile_emptyRules_agree (scope : Scope) (json : Json) (parameters : Parameters) :
    ∃ bound : Parameters,
      (∃ cause, ∀ rule : EmptyRule,
        compile ⟨scope, ⟨rule⟩⟩ json parameters = (.error cause, bound)) ∨
      ∃ skipped kept : Phrase,
        phrase ⟨scope, ⟨.skip⟩⟩ json parameters = (.ok skipped, bound) ∧
        compile ⟨scope, ⟨.skip⟩⟩ json parameters = (.ok skipped.text, bound) ∧
        phrase ⟨scope, ⟨.tautology⟩⟩ json parameters = (.ok kept, bound) ∧
        compile ⟨scope, ⟨.tautology⟩⟩ json parameters = (.ok kept.text, bound) ∧
        ([] ∉ json.roles.tail → skipped.text = kept.text) ∧
        (.negation ∉ json.roles.flatten → ∀ truth : String → Truth, ∃ low high : Truth,
          skipped.value? truth = some low ∧ kept.value? truth = some high ∧ low ≤ high ∧
          (.set .disjunction ∉ json.roles.flatten → low = high)) := by
  cases run : outline ⟨scope, ⟨.skip⟩⟩ json parameters with
  | mk result bound =>
      -- The rule plays no part before the conditions are laid out.
      have outlined : ∀ rule : EmptyRule,
          outline ⟨scope, ⟨rule⟩⟩ json parameters = (result, bound) := fun _ => run
      refine ⟨bound, ?_⟩
      cases result with
      | error cause =>
          exact Or.inl ⟨cause, fun rule =>
            compile_eq_error_iff_outline.2 (outlined rule)⟩
      | ok formula =>
          have skipRun := phrase_of_outline (outlined .skip)
          have keepRun := phrase_of_outline (outlined .tautology)
          have sameRoles : formula.roles = json.roles := Filter.roles_of_outline run
          rw [← sameRoles]
          refine Or.inr ⟨_, _, skipRun, compile_of_phrase skipRun, keepRun,
            compile_of_phrase keepRun, ?_, ?_⟩
          · intro nonempty
            exact congrArg Phrase.text (Formula.phrase_skip_eq nonempty)
          · intro positive truth
            exact ⟨_, _, Formula.value?_phrase_of_positive positive .skip truth,
              Formula.value?_phrase_of_positive positive .tautology truth,
              Formula.meaning_skip_le positive truth,
              fun conjunctive => Formula.meaning_skip_eq positive conjunctive truth⟩

/-- One of two alternatives is empty. -/
def scoreOrAnything : Json :=
  .obj
    [("or", .arr [.obj [("score", .obj [("gt", .int 1)])], .obj []]),
      ("isBot", .obj [("eq", .bool true)])]

/-- Empty filters in conjunctions, one of them on its own. -/
def scoreOfBotAndNothing : Json :=
  .obj [("and", .arr [scoreOfBot, .obj [], .obj [("And", .arr [.obj []])]])]

/-- An empty alternative turns the disjunction into its other operand, or into one that always
holds; in a conjunction it makes no difference. -/
theorem compile_emptyRules_agree_of_scores :
    (∃ skipped kept : Phrase,
      skipped.text = "(m.score > :score_1) and (m.bot = :isBot_1)" ∧
      kept.text = "((m.score > :score_1) or (1=1)) and (m.bot = :isBot_1)" ∧
      ∀ truth : String → Truth, ∃ low high : Truth,
        skipped.value? truth = some low ∧ kept.value? truth = some high ∧ low ≤ high) ∧
    (∃ skipped kept : Phrase,
      skipped.text = "(m.score > :score_1) and (m.bot = :isBot_1)" ∧
      kept.text = "((m.score > :score_1) and (m.bot = :isBot_1) and (1=1) and (1=1))" ∧
      ∀ truth : String → Truth, ∃ value : Truth,
        skipped.value? truth = some value ∧ kept.value? truth = some value) ∧
    ∃ skipped kept : Phrase,
      skipped.text = "((m.score > :score_1) and (m.bot = :isBot_1) or (m.bot = :isBot_2))" ∧
      skipped.text = kept.text := by
  refine ⟨?_, ?_, ?_⟩
  · obtain ⟨bound, ⟨cause, rejected⟩ | ⟨skipped, kept, skipRun, _, keepRun, _, _, grows⟩⟩ :=
      compile_emptyRules_agree memberTable.scope scoreOrAnything Dict.empty
    · cases rejected .skip
    · refine ⟨skipped, kept, by cases skipRun; rfl, by cases keepRun; rfl, fun truth => ?_⟩
      obtain ⟨low, high, skipReads, keepReads, below, -⟩ := grows (by decide) truth
      exact ⟨low, high, skipReads, keepReads, below⟩
  · obtain ⟨bound, ⟨cause, rejected⟩ | ⟨skipped, kept, skipRun, _, keepRun, _, _, grows⟩⟩ :=
      compile_emptyRules_agree memberTable.scope scoreOfBotAndNothing Dict.empty
    · cases rejected .skip
    · refine ⟨skipped, kept, by cases skipRun; rfl, by cases keepRun; rfl, fun truth => ?_⟩
      obtain ⟨low, high, skipReads, keepReads, -, same⟩ := grows (by decide) truth
      cases same (by decide)
      exact ⟨low, skipReads, keepReads⟩
  · obtain ⟨bound, ⟨cause, rejected⟩ | ⟨skipped, kept, skipRun, _, _, _, same, _⟩⟩ :=
      compile_emptyRules_agree memberTable.scope
        (.obj [("or", .arr [scoreOfBot, .obj [("isBot", .obj [("eq", .bool false)])]])]) Dict.empty
    · cases rejected .skip
    · exact ⟨skipped, kept, by cases skipRun; rfl, same (by decide)⟩

end Target

end WhereClause
