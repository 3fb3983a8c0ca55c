import WhereClause.Proofs.Reading
import WhereClause.Proofs.SingleTable.Layout

/-!
# Rows of units

A row holds the units that stand beside each other in the phrase of a formula, without parentheses
around them. A set with one operand adds none, so a row may come from deep within, and a negation
before it reaches its first unit only. Main statements: a phrase reads as its row, for every
formula; and where no part below a negation has several conjuncts, the row combines to the
meaning.
-/

namespace WhereClause

/-- The row of a set whose contributing operands have the given rows. -/
def Connective.unite (connective : Connective) : List (List Truth) → List Truth
  | [] => []
  | [row] => row
  | rows => [connective.combine (rows.map Connective.conjunction.combine)]

/-- The value of a negation before a row. -/
def Truth.negateFirst : List Truth → Truth
  | [] => .false
  | first :: rest => first.not.and (Connective.conjunction.combine rest)

/-- When a negation that reaches the first unit of a row only has the value of the whole
row negated. -/
def Truth.NegatesWhole : List Truth → Prop
  | [] | [_] => True
  | first :: rest =>
      Connective.conjunction.combine rest = .true ∨
        (first = .unknown ∧ Connective.conjunction.combine rest = .unknown)

theorem Truth.negateFirst_eq_iff (row : List Truth) :
    Truth.negateFirst row = (Connective.conjunction.combine row).not ↔
      Truth.NegatesWhole row := by
  rcases row with _ | ⟨first, _ | ⟨second, rest⟩⟩
  · simp [negateFirst, NegatesWhole, Connective.neutral, Truth.not]
  · simp [negateFirst, NegatesWhole, Connective.neutral, Connective.apply]
  · exact Truth.not_and_eq_not_and_iff first _

namespace Formula

variable {α : Type} (rule : EmptyRule) (truth : α → Truth)

mutual

/-- The values of the units of a formula. -/
def row : Formula α → List Truth
  | .all [] => rule.truth?.toList
  | .all (conjunct :: rest) => rowOfConjuncts (conjunct :: rest)

def rowOfConjunct : Conjunct α → List Truth
  | .set connective children => connective.unite (rows children)
  | .negation child => [Truth.negateFirst (row child)]
  | .leaf label => [truth label]

def rowOfConjuncts : List (Conjunct α) → List Truth
  | [] => []
  | conjunct :: rest => rowOfConjunct conjunct ++ rowOfConjuncts rest

/-- The rows of the formulas that contribute. -/
def rows : List (Formula α) → List (List Truth)
  | [] => []
  | formula :: rest => if row formula = [] then rows rest else row formula :: rows rest

end

end Formula

namespace Phrase

/-- The phrases that stand beside each other are made of units with the given values. -/
def Spells (truth : String → Truth) (parts : List Phrase) (row : List Truth) : Prop :=
  ∃ units, List.Forall₂ (Reads truth .unit) units row ∧
    sideBySide? parts = sideBySide? units

theorem sideBySide?_toList (phrase : Option Phrase) :
    sideBySide? phrase.toList = phrase := by
  cases phrase <;> rfl

theorem sideBySide?_eq_none_iff {parts : List Phrase} :
    sideBySide? parts = none ↔ parts = [] := by
  cases parts <;> simp [sideBySide?]

theorem joined_append
    (connective : Connective) {left right : List Phrase}
    (leftSome : left ≠ []) (rightSome : right ≠ []) :
    joined connective (left ++ right) =
      joined connective left ++ .junction connective :: joined connective right := by
  induction left with
  | nil =>
      exact absurd rfl leftSome
  | cons part rest inductionHypothesis =>
      cases rest with
      | nil =>
          cases right with
          | nil =>
              exact absurd rfl rightSome
          | cons next others =>
              simp [joined]
      | cons next others =>
          have tail := inductionHypothesis (List.cons_ne_nil next others)
          simp only [List.cons_append] at tail
          simp [joined, tail]

theorem sideBySide?_append (left right : List Phrase) :
    sideBySide? (left ++ right) =
      Option.merge (fun first second => first ++ .junction .conjunction :: second)
        (sideBySide? left) (sideBySide? right) := by
  cases left with
  | nil =>
      rw [List.nil_append, sideBySide?, Option.merge_none_left]
  | cons part rest =>
      cases right with
      | nil =>
          simp [sideBySide?]
      | cons next others =>
          have joint :=
            joined_append .conjunction (List.cons_ne_nil part rest)
              (List.cons_ne_nil next others)
          simpa [sideBySide?] using joint

namespace Spells

variable {truth : String → Truth}

theorem nil : Spells truth [] [] :=
  ⟨[], .nil, rfl⟩

theorem unit {phrase : Phrase} {value : Truth}
    (reading : Reads truth .unit phrase value) : Spells truth [phrase] [value] :=
  ⟨[phrase], .cons reading .nil, rfl⟩

theorem append
    {left right : List Phrase} {first second : List Truth}
    (leftSpells : Spells truth left first) (rightSpells : Spells truth right second) :
    Spells truth (left ++ right) (first ++ second) := by
  obtain ⟨leftUnits, leftReads, leftSame⟩ := leftSpells
  obtain ⟨rightUnits, rightReads, rightSame⟩ := rightSpells
  refine ⟨leftUnits ++ rightUnits, List.rel_append leftReads rightReads, ?_⟩
  rw [sideBySide?_append, sideBySide?_append, leftSame, rightSame]

theorem sideBySide
    {parts : List Phrase} {row : List Truth} (spells : Spells truth parts row) :
    Spells truth (sideBySide? parts).toList row := by
  obtain ⟨units, readings, same⟩ := spells
  exact ⟨units, readings, by rw [sideBySide?_toList, same]⟩

theorem eq_nil_iff
    {parts : List Phrase} {row : List Truth} (spells : Spells truth parts row) :
    parts = [] ↔ row = [] := by
  obtain ⟨units, readings, same⟩ := spells
  rw [← sideBySide?_eq_none_iff, same, sideBySide?_eq_none_iff,
    ← List.length_eq_zero_iff, readings.length_eq, List.length_eq_zero_iff]

/-- The units of a phrase, joined by `and`. -/
theorem exists_units
    {phrase : Phrase} {row : List Truth} (spells : Spells truth [phrase] row) :
    ∃ units, List.Forall₂ (Reads truth .unit) units row ∧ units ≠ [] ∧
      phrase = joined .conjunction units := by
  obtain ⟨units, readings, same⟩ := spells
  cases units with
  | nil =>
      simp [sideBySide?] at same
  | cons unit rest =>
      exact ⟨unit :: rest, readings, List.cons_ne_nil unit rest,
        by simpa [sideBySide?, joined] using same⟩

theorem reads
    {phrase : Phrase} {row : List Truth} (spells : Spells truth [phrase] row) :
    Reads truth .product phrase (Connective.conjunction.combine row) := by
  obtain ⟨units, readings, nonempty, rfl⟩ := spells.exists_units
  exact .conjunction (readings.imp fun _ _ => Reads.ofUnit) nonempty

/-- A negation before a row. -/
theorem negated
    {phrase : Option Phrase} {row : List Truth}
    (spells : Spells truth phrase.toList row) :
    Reads truth .unit (Phrase.negated phrase) (Truth.negateFirst row) := by
  cases phrase with
  | none =>
      have rowEmpty : row = [] := spells.eq_nil_iff.1 rfl
      subst rowEmpty
      exact Reads.tautology.unit.negated.toSum.enclosed
  | some phrase =>
      obtain ⟨units, readings, nonempty, rfl⟩ := spells.exists_units
      cases readings with
      | nil =>
          exact absurd rfl nonempty
      | @cons unit first units rest unitReads readings =>
          cases readings with
          | nil =>
              simpa [Truth.negateFirst, Connective.neutral, Phrase.negated, joined]
                using unitReads.unit.negated.toSum.enclosed
          | @cons next second units rest nextReads readings =>
              -- the row is split after its first unit, which alone is negated
              have others :=
                Reads.conjunction
                  ((List.Forall₂.cons nextReads readings).imp fun _ _ => Reads.ofUnit)
                  (List.cons_ne_nil _ _)
              have whole := unitReads.unit.negated.factor.conjoin others
              simpa [Truth.negateFirst, Phrase.negated, joined] using
                whole.toSum.enclosed

/-- The operands of a set. -/
theorem united
    (connective : Connective) {parts : List Phrase} {rows : List (List Truth)}
    (spells : List.Forall₂ (fun part row => Spells truth [part] row) parts rows) :
    Spells truth (united? connective parts).toList (connective.unite rows) := by
  cases spells with
  | nil =>
      exact .nil
  | @cons part row parts rows partSpells spells =>
      cases spells with
      | nil =>
          exact partSpells
      | @cons next second parts rows nextSpells spells =>
          have readings :
              List.Forall₂ (Reads truth .product) (part :: next :: parts)
                ((row :: second :: rows).map Connective.conjunction.combine) := by
            rw [List.forall₂_map_right_iff]
            have operands :
                List.Forall₂ (fun part row => Spells truth [part] row)
                  (part :: next :: parts) (row :: second :: rows) :=
              .cons partSpells (.cons nextSpells spells)
            exact operands.imp fun _ _ => Spells.reads
          exact .unit
            (Reads.joined connective readings (List.cons_ne_nil _ _)).enclosed

end Spells

end Phrase

/-! ## The row of a phrase -/

namespace Formula

variable {truth : String → Truth} {rule : EmptyRule}

theorem spells_emptyRule :
    Phrase.Spells truth rule.phrase?.toList rule.truth?.toList := by
  cases rule
  · exact .nil
  · exact .unit .tautology

mutual

/-- The phrase of a formula is its row. -/
theorem spells_phrase? (formula : Formula String) :
    Phrase.Spells truth (formula.phrase? rule).toList (formula.row rule truth) := by
  cases formula with
  | all conjuncts =>
      cases conjuncts with
      | nil =>
          exact spells_emptyRule
      | cons conjunct rest =>
          exact (spells_phrasesOfConjuncts (conjunct :: rest)).sideBySide

theorem spells_phraseOfConjunct? (conjunct : Conjunct String) :
    Phrase.Spells truth (phraseOfConjunct? rule conjunct).toList
      (rowOfConjunct rule truth conjunct) := by
  cases conjunct with
  | set connective children =>
      exact .united connective (spells_phrases children)
  | negation child =>
      exact .unit (spells_phrase? child).negated
  | leaf text =>
      exact .unit (.atom text)

theorem spells_phrasesOfConjuncts (conjuncts : List (Conjunct String)) :
    Phrase.Spells truth (phrasesOfConjuncts rule conjuncts)
      (rowOfConjuncts rule truth conjuncts) := by
  cases conjuncts with
  | nil =>
      exact .nil
  | cons conjunct rest =>
      exact (spells_phraseOfConjunct? conjunct).append (spells_phrasesOfConjuncts rest)

theorem spells_phrases (formulas : List (Formula String)) :
    List.Forall₂ (fun part row => Phrase.Spells truth [part] row)
      (phrases rule formulas) (rows rule truth formulas) := by
  cases formulas with
  | nil =>
      exact .nil
  | cons formula rest =>
      have head := spells_phrase? formula
      have tail := spells_phrases rest
      rw [phrases, rows]
      cases found : formula.phrase? rule with
      | none =>
          rw [found] at head
          rw [if_pos (head.eq_nil_iff.1 rfl)]
          exact tail
      | some phrase =>
          rw [found] at head
          have contributes : formula.row rule truth ≠ [] := fun rowEmpty =>
            List.cons_ne_nil phrase [] (head.eq_nil_iff.2 rowEmpty)
          rw [if_neg contributes]
          exact .cons head tail

end

end Formula

namespace Formula

variable {truth : String → Truth} {rule : EmptyRule}

/-- A phrase reads as the conjunction of its row, which is true where it is empty. -/
theorem value?_phrase (formula : Formula String) :
    (formula.phrase rule).value? truth =
      some (Connective.conjunction.combine (formula.row rule truth)) := by
  have spells : Phrase.Spells truth (formula.phrase? rule).toList (formula.row rule truth) :=
    spells_phrase? formula
  rw [phrase]
  cases found : formula.phrase? rule with
  | none =>
      rw [found] at spells
      rw [spells.eq_nil_iff.1 rfl]
      exact Reads.tautology.toSum.value?_eq
  | some phrase =>
      rw [found] at spells
      exact spells.reads.toSum.value?_eq

/-- A phrase is one unit exactly when its row has no more than one. -/
theorem reads_unit_phrase_iff (formula : Formula String) :
    (∃ value, Reads truth .unit (formula.phrase rule) value) ↔
      (formula.row rule truth).length ≤ 1 := by
  have spells : Phrase.Spells truth (formula.phrase? rule).toList (formula.row rule truth) :=
    spells_phrase? formula
  rw [phrase]
  cases found : formula.phrase? rule with
  | none =>
      rw [found] at spells
      rw [spells.eq_nil_iff.1 rfl]
      exact iff_of_true ⟨.true, .tautology⟩ (Nat.zero_le 1)
  | some phrase =>
      rw [found] at spells
      obtain ⟨units, readings, nonempty, rfl⟩ := spells.exists_units
      rw [← readings.length_eq, Option.getD_some]
      generalize formula.row rule truth = row at readings
      cases readings with
      | nil =>
          exact absurd rfl nonempty
      | cons unitReads readings =>
          cases readings with
          | nil =>
              exact iff_of_true ⟨_, unitReads⟩ (Nat.le_refl 1)
          | cons _ _ =>
              refine iff_of_false ?_ (by simp)
              rintro ⟨value, reading⟩
              exact unitReads.not_unit_of_append reading

/-- A negation before a phrase reaches the first unit of its row. -/
theorem value?_enclosed_negation (formula : Formula String) :
    (Phrase.enclosed (.negation :: formula.phrase rule)).value? truth =
      some (Truth.negateFirst (formula.row rule truth)) := by
  have spells : Phrase.Spells truth (formula.phrase? rule).toList (formula.row rule truth) :=
    spells_phrase? formula
  have reading := spells.negated
  have same :
      Phrase.negated (formula.phrase? rule) =
        Phrase.enclosed (.negation :: formula.phrase rule) := rfl
  rw [same] at reading
  exact reading.toSum.value?_eq

end Formula

end WhereClause
