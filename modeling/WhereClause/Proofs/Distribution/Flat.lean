import Mathlib.Data.List.Nodup
import WhereClause.Proofs.Distribution.ReadTwice

/-!
# Formulas whose disjunctions are flat

Main statement: if no leaf occurs twice, splicing the filters of a formula makes no difference for
any truth values of the leaves exactly where every part of a disjunction has at most one conjunct
with leaves.
-/

namespace WhereClause

namespace Formula

variable {α : Type}

/-- Whether at most one conjunct of a formula has leaves. -/
def contributesOnce : Formula α → Bool
  | .all conjuncts =>
      (conjuncts.filter fun conjunct => !(leavesOfConjunct conjunct).isEmpty).length ≤ 1

mutual

/-- Whether in every disjunction each part has at most one conjunct with leaves. There is no
disjunction in what is negated. -/
def isFlat : Formula α → Bool
  | .all conjuncts => areFlatConjuncts conjuncts

def isFlatConjunct : Conjunct α → Bool
  | .set connective children =>
      (connective = .conjunction || children.all contributesOnce) && areFlat children
  | .negation _ => true
  | .leaf _ => true

def areFlatConjuncts : List (Conjunct α) → Bool
  | [] => true
  | conjunct :: rest => isFlatConjunct conjunct && areFlatConjuncts rest

def areFlat : List (Formula α) → Bool
  | [] => true
  | formula :: rest => isFlat formula && areFlat rest

end

/-- As many conjuncts have a meaning as have leaves. -/
theorem length_meaningsOfConjuncts
    (truth : α → Truth) {conjuncts : List (Conjunct α)}
    (literals : conjunctsNegateLiterals conjuncts) :
    (meaningsOfConjuncts .skip truth conjuncts).length =
      (conjuncts.filter fun conjunct => !(leavesOfConjunct conjunct).isEmpty).length := by
  induction conjuncts with
  | nil =>
      rfl
  | cons conjunct rest inductionHypothesis =>
      rw [conjunctsNegateLiterals, Bool.and_eq_true] at literals
      have present := (readTwiceOfConjunct literals.1).meant_eq_nil_iff truth
      have tail := inductionHypothesis literals.2
      rw [meaningsOfConjuncts, List.length_append, tail]
      by_cases bare : leavesOfConjunct conjunct = []
      · have absent := present.2 bare
        simp [bare, absent]
      · have single : (meaningOfConjunct .skip truth conjunct).toList.length = 1 := by
          cases found : meaningOfConjunct .skip truth conjunct with
          | none =>
              exact absurd (present.1 (congrArg Option.toList found)) bare
          | some value =>
              rfl
        simp [bare, single, Nat.add_comm]

theorem length_meaningsOfConjuncts_of_contributesOnce
    (truth : α → Truth) {conjuncts : List (Conjunct α)}
    (literals : conjunctsNegateLiterals conjuncts)
    (once : contributesOnce (.all conjuncts)) :
    (meaningsOfConjuncts .skip truth conjuncts).length ≤ 1 := by
  rw [contributesOnce, decide_eq_true_eq] at once
  rw [length_meaningsOfConjuncts truth literals]
  exact once

theorem meaning_all (truth : α → Truth) (conjuncts : List (Conjunct α)) :
    (Formula.all conjuncts).meaning .skip truth =
      Connective.conjunction.combine? (meaningsOfConjuncts .skip truth conjuncts) := by
  cases conjuncts <;> rfl

/-- In a conjunction, or if only one of them has leaves, conjuncts need not be combined before
the set around them is. -/
theorem combine?_meaning
    (truth : α → Truth) {connective : Connective} {conjuncts : List (Conjunct α)}
    (literals : conjunctsNegateLiterals conjuncts)
    (once : connective = .conjunction ∨ contributesOnce (.all conjuncts)) :
    connective.combine? ((Formula.all conjuncts).meaning .skip truth).toList =
      connective.combine? (meaningsOfConjuncts .skip truth conjuncts) := by
  rw [meaning_all]
  rcases once with conjunction | single
  · rw [conjunction, Connective.combine?_toList]
  · have short := length_meaningsOfConjuncts_of_contributesOnce truth literals single
    rw [Connective.toList_combine?_of_length_le_one short]

mutual

/-- The readings of a flat formula combine to the same value. -/
theorem combine?_spliced_of_isFlat
    (truth : α → Truth) {connective : Connective} {formula : Formula α}
    (literals : formula.negatesLiterals) (flat : formula.isFlat)
    (once : connective = .conjunction ∨ formula.contributesOnce) :
    connective.combine? (formula.spliced truth) =
      connective.combine? (formula.meaning .skip truth).toList := by
  cases formula with
  | all conjuncts =>
      have same := splicedConjuncts_of_areFlat truth literals flat
      rw [combine?_meaning truth literals once, spliced, same]

theorem splicedConjunct_of_isFlat
    (truth : α → Truth) {conjunct : Conjunct α}
    (literals : conjunctNegatesLiterals conjunct) (flat : isFlatConjunct conjunct) :
    splicedConjunct truth conjunct = (meaningOfConjunct .skip truth conjunct).toList := by
  cases conjunct with
  | set connective children =>
      rw [isFlatConjunct, Bool.and_eq_true, Bool.or_eq_true, decide_eq_true_eq] at flat
      have same := combine?_splicedAll_of_areFlat truth literals flat.2 flat.1
      rw [splicedConjunct, same, meaningOfConjunct]
  | negation child =>
      have negated : isLiteralConjunct (.negation child) := by
        rw [conjunctNegatesLiterals, Bool.and_eq_true] at literals
        exact literals.1
      obtain ⟨value, added, means⟩ := exists_meaningOfConjunct_of_isLiteral truth negated
      rw [added, means]
      rfl
  | leaf label =>
      rfl

theorem splicedConjuncts_of_areFlat
    (truth : α → Truth) {conjuncts : List (Conjunct α)}
    (literals : conjunctsNegateLiterals conjuncts) (flat : areFlatConjuncts conjuncts) :
    splicedConjuncts truth conjuncts = meaningsOfConjuncts .skip truth conjuncts := by
  cases conjuncts with
  | nil =>
      rfl
  | cons conjunct rest =>
      rw [conjunctsNegateLiterals, Bool.and_eq_true] at literals
      rw [areFlatConjuncts, Bool.and_eq_true] at flat
      have head := splicedConjunct_of_isFlat truth literals.1 flat.1
      have tail := splicedConjuncts_of_areFlat truth literals.2 flat.2
      rw [splicedConjuncts, head, tail, meaningsOfConjuncts]

theorem combine?_splicedAll_of_areFlat
    (truth : α → Truth) {connective : Connective} {formulas : List (Formula α)}
    (literals : allNegateLiterals formulas) (flat : areFlat formulas)
    (once : connective = .conjunction ∨ formulas.all contributesOnce) :
    connective.combine? (splicedAll truth formulas) =
      connective.combine? (meanings .skip truth formulas) := by
  cases formulas with
  | nil =>
      rfl
  | cons formula rest =>
      rw [allNegateLiterals, Bool.and_eq_true] at literals
      rw [areFlat, Bool.and_eq_true] at flat
      rw [List.all_cons, Bool.and_eq_true] at once
      have head :=
        combine?_spliced_of_isFlat truth literals.1 flat.1 (once.imp_right And.left)
      have tail :=
        combine?_splicedAll_of_areFlat truth literals.2 flat.2 (once.imp_right And.right)
      rw [splicedAll, meanings, Connective.combine?_append, Connective.combine?_append, head,
        tail]

end

/-! ## Where the readings differ -/

theorem toList_meaning_of_mem_false
    {truth : α → Truth} {conjuncts : List (Conjunct α)}
    (fails : .false ∈ meaningsOfConjuncts .skip truth conjuncts) :
    ((Formula.all conjuncts).meaning .skip truth).toList = [.false] := by
  have isFalse :
      Connective.conjunction.combine (meaningsOfConjuncts .skip truth conjuncts) = .false :=
    Connective.combine_of_mem_decisive fails
  rw [meaning_all, Connective.combine?_eq, if_neg (List.ne_nil_of_mem fails), isFalse]
  rfl

theorem leavesOfConjuncts_ne_nil_of_filter
    {conjuncts : List (Conjunct α)}
    (contribute : conjuncts.filter (fun conjunct => !(leavesOfConjunct conjunct).isEmpty) ≠ []) :
    leavesOfConjuncts conjuncts ≠ [] := by
  induction conjuncts with
  | nil =>
      exact absurd rfl contribute
  | cons conjunct rest inductionHypothesis =>
      intro bare
      rw [leavesOfConjuncts, List.append_eq_nil_iff] at bare
      obtain ⟨headBare, restBare⟩ := bare
      rw [List.filter_cons, headBare] at contribute
      exact inductionHypothesis contribute restBare

/-- Several conjuncts with leaves: one can be true and another false. -/
theorem exists_true_and_false_of_conjuncts
    {conjuncts : List (Conjunct α)} (literals : conjunctsNegateLiterals conjuncts)
    (nodup : (leavesOfConjuncts conjuncts).Nodup)
    (several : ¬contributesOnce (.all conjuncts)) :
    ∃ truth, .true ∈ splicedConjuncts truth conjuncts ∧
      .false ∈ meaningsOfConjuncts .skip truth conjuncts := by
  induction conjuncts with
  | nil =>
      exact absurd rfl several
  | cons conjunct rest inductionHypothesis =>
      rw [conjunctsNegateLiterals, Bool.and_eq_true] at literals
      rw [leavesOfConjuncts] at nodup
      rw [contributesOnce, decide_eq_true_eq, List.filter_cons] at several
      have head := readTwiceOfConjunct literals.1
      have tail := readTwiceOfConjuncts literals.2
      by_cases bare : leavesOfConjunct conjunct = []
      · rw [bare, List.nil_append] at nodup
        have severalInRest : ¬contributesOnce (.all rest) := by
          rw [contributesOnce, decide_eq_true_eq]
          simpa [bare] using several
        obtain ⟨truth, holds, fails⟩ := inductionHypothesis literals.2 nodup severalInRest
        exact ⟨truth, List.mem_append_right _ holds, List.mem_append_right _ fails⟩
      · have restSome : leavesOfConjuncts rest ≠ [] := by
          apply leavesOfConjuncts_ne_nil_of_filter
          intro restBare
          simp [bare, restBare] at several
        exact head.exists_true_and_false tail nodup bare restSome

theorem contrast_of_not_contributesOnce
    {formula : Formula α} (literals : formula.negatesLiterals) (nodup : formula.leaves.Nodup)
    (several : ¬formula.contributesOnce) :
    Contrast (fun truth => formula.spliced truth)
      fun truth => (formula.meaning .skip truth).toList := by
  obtain ⟨conjuncts⟩ := formula
  obtain ⟨truth, holds, fails⟩ := exists_true_and_false_of_conjuncts literals nodup several
  have means := toList_meaning_of_mem_false fails
  refine ⟨truth, holds, fun operand member => ?_⟩
  exact List.mem_singleton.1 (means ▸ member)

theorem contrast_of_not_all_contributesOnce
    {formulas : List (Formula α)} (literals : allNegateLiterals formulas)
    (nodup : (leavesOfAll formulas).Nodup) (several : ¬formulas.all contributesOnce) :
    Contrast (fun truth => splicedAll truth formulas)
      fun truth => meanings .skip truth formulas := by
  induction formulas with
  | nil =>
      exact absurd rfl several
  | cons formula rest inductionHypothesis =>
      rw [allNegateLiterals, Bool.and_eq_true] at literals
      rw [leavesOfAll] at nodup
      have head := readTwice literals.1
      have tail := readTwiceOfAll literals.2
      obtain ⟨headNodup, restNodup, -⟩ := List.nodup_append.1 nodup
      by_cases once : formula.contributesOnce
      · have severalInRest : ¬rest.all contributesOnce := by
          simpa [once] using several
        have contrast := inductionHypothesis literals.2 restNodup severalInRest
        exact head.contrast_right tail nodup contrast
      · have contrast := contrast_of_not_contributesOnce literals.1 headNodup once
        exact head.contrast_left tail nodup contrast

mutual

/-- In a conjunction, or if only one conjunct has leaves, a formula differs if it is not
flat. -/
theorem differ_of_not_isFlat
    {connective : Connective} {formula : Formula α} (literals : formula.negatesLiterals)
    (nodup : formula.leaves.Nodup) (notFlat : ¬formula.isFlat)
    (once : connective = .conjunction ∨ formula.contributesOnce) :
    Differ connective (fun truth => formula.spliced truth)
      fun truth => (formula.meaning .skip truth).toList := by
  cases formula with
  | all conjuncts =>
      obtain ⟨truth, different⟩ :=
        differ_of_not_areFlatConjuncts literals nodup notFlat connective
      have same := combine?_meaning truth literals once
      refine ⟨truth, ?_⟩
      rw [Connective.combine_eq_getD (Option.toList _), same, ← Connective.combine_eq_getD]
      exact different

theorem differ_of_not_isFlatConjunct
    {conjunct : Conjunct α} (literals : conjunctNegatesLiterals conjunct)
    (nodup : (leavesOfConjunct conjunct).Nodup) (notFlat : ¬isFlatConjunct conjunct)
    (outer : Connective) :
    Differ outer (fun truth => splicedConjunct truth conjunct)
      fun truth => (meaningOfConjunct .skip truth conjunct).toList := by
  cases conjunct with
  | set connective children =>
      have readings := readTwiceOfAll literals
      have differ : Differ connective (fun truth => splicedAll truth children)
          fun truth => meanings .skip truth children := by
        rw [isFlatConjunct, Bool.and_eq_true, Bool.or_eq_true, decide_eq_true_eq] at notFlat
        -- either something within the set is not flat, or the set is a disjunction itself with
        -- a part of several conjuncts, one of which is made true and the others false
        by_cases once : connective = .conjunction ∨ children.all contributesOnce
        · have childrenNotFlat : ¬areFlat children := fun flat => notFlat ⟨once, flat⟩
          exact differ_of_not_areFlat literals nodup childrenNotFlat once
        · obtain ⟨notConjunction, several⟩ := not_or.1 once
          have disjunction : connective = .disjunction := by
            cases connective
            · exact absurd rfl notConjunction
            · rfl
          have contrast := contrast_of_not_all_contributesOnce literals nodup several
          rw [disjunction]
          exact contrast.differ
      exact readings.differ_combine? outer differ
  | negation child =>
      exact absurd rfl notFlat
  | leaf label =>
      exact absurd rfl notFlat

theorem differ_of_not_areFlatConjuncts
    {conjuncts : List (Conjunct α)} (literals : conjunctsNegateLiterals conjuncts)
    (nodup : (leavesOfConjuncts conjuncts).Nodup) (notFlat : ¬areFlatConjuncts conjuncts)
    (connective : Connective) :
    Differ connective (fun truth => splicedConjuncts truth conjuncts)
      fun truth => meaningsOfConjuncts .skip truth conjuncts := by
  cases conjuncts with
  | nil =>
      exact absurd rfl notFlat
  | cons conjunct rest =>
      rw [conjunctsNegateLiterals, Bool.and_eq_true] at literals
      rw [leavesOfConjuncts] at nodup
      rw [areFlatConjuncts, Bool.and_eq_true] at notFlat
      have head := readTwiceOfConjunct literals.1
      have tail := readTwiceOfConjuncts literals.2
      obtain ⟨headNodup, restNodup, -⟩ := List.nodup_append.1 nodup
      by_cases headFlat : isFlatConjunct conjunct
      · have restNotFlat : ¬areFlatConjuncts rest := fun restFlat =>
          notFlat ⟨headFlat, restFlat⟩
        have differ := differ_of_not_areFlatConjuncts literals.2 restNodup restNotFlat connective
        exact head.differ_right tail nodup differ
      · have differ := differ_of_not_isFlatConjunct literals.1 headNodup headFlat connective
        exact head.differ_left tail nodup differ

theorem differ_of_not_areFlat
    {connective : Connective} {formulas : List (Formula α)}
    (literals : allNegateLiterals formulas) (nodup : (leavesOfAll formulas).Nodup)
    (notFlat : ¬areFlat formulas)
    (once : connective = .conjunction ∨ formulas.all contributesOnce) :
    Differ connective (fun truth => splicedAll truth formulas)
      fun truth => meanings .skip truth formulas := by
  cases formulas with
  | nil =>
      exact absurd rfl notFlat
  | cons formula rest =>
      rw [allNegateLiterals, Bool.and_eq_true] at literals
      rw [leavesOfAll] at nodup
      rw [areFlat, Bool.and_eq_true] at notFlat
      rw [List.all_cons, Bool.and_eq_true] at once
      have head := readTwice literals.1
      have tail := readTwiceOfAll literals.2
      obtain ⟨headNodup, restNodup, -⟩ := List.nodup_append.1 nodup
      by_cases headFlat : formula.isFlat
      · have restNotFlat : ¬areFlat rest := fun restFlat => notFlat ⟨headFlat, restFlat⟩
        have differ :=
          differ_of_not_areFlat literals.2 restNodup restNotFlat (once.imp_right And.right)
        exact head.differ_right tail nodup differ
      · have differ :=
          differ_of_not_isFlat literals.1 headNodup headFlat (once.imp_right And.left)
        exact head.differ_left tail nodup differ

end

/-- Truth values of leaves that have distinct texts are truth values of the texts. -/
theorem exists_truth_of_nodup_map
    {β : Type} {text : α → β} {leaves : List α} (nodup : (leaves.map text).Nodup)
    (ofLeaf : α → Truth) :
    ∃ truth : β → Truth, ∀ leaf ∈ leaves, truth (text leaf) = ofLeaf leaf := by
  classical
  induction leaves with
  | nil =>
      exact ⟨fun _ => .true, by simp⟩
  | cons leaf rest inductionHypothesis =>
      rw [List.map_cons, List.nodup_cons] at nodup
      obtain ⟨fresh, restNodup⟩ := nodup
      obtain ⟨truth, ofRest⟩ := inductionHypothesis restNodup
      refine ⟨fun held => if held = text leaf then ofLeaf leaf else truth held, ?_⟩
      refine List.forall_mem_cons.2 ⟨if_pos rfl, fun other member => ?_⟩
      have different : text other ≠ text leaf := by
        intro same
        apply fresh
        rw [← same]
        exact List.mem_map_of_mem member
      exact (if_neg different).trans (ofRest other member)

theorem combine_spliced_of_isFlat
    {formula : Formula α} (literals : formula.negatesLiterals) (flat : formula.isFlat)
    (truth : α → Truth) :
    Connective.conjunction.combine (formula.spliced truth) =
      (formula.meaning .skip truth).getD .true := by
  have same :=
    combine?_spliced_of_isFlat truth literals flat (Or.inl (Eq.refl Connective.conjunction))
  rw [Connective.combine_eq_getD, same, Connective.combine?_toList]
  rfl

/-- The readings of a formula agree only if it is flat, provided that its leaves have distinct
texts. -/
theorem isFlat_of_forall_combine_spliced
    {β : Type} {text : α → β} {formula : Formula α} (literals : formula.negatesLiterals)
    (nodup : (formula.leaves.map text).Nodup)
    (agree : ∀ truth : β → Truth,
      Connective.conjunction.combine (formula.spliced fun leaf => truth (text leaf)) =
        (formula.meaning .skip fun leaf => truth (text leaf)).getD .true) :
    formula.isFlat := by
  by_contra notFlat
  have readings := readTwice literals
  have leavesNodup : formula.leaves.Nodup := nodup.of_map text
  obtain ⟨ofLeaf, different⟩ :=
    differ_of_not_isFlat literals leavesNodup notFlat (Or.inl (Eq.refl Connective.conjunction))
  obtain ⟨truth, ofTexts⟩ := exists_truth_of_nodup_map nodup ofLeaf
  obtain ⟨sameAdded, sameMeant⟩ :=
    readings.congr (fun leaf => truth (text leaf)) ofLeaf ofTexts
  have means :
      Connective.conjunction.combine
          (formula.meaning .skip fun leaf => truth (text leaf)).toList =
        (formula.meaning .skip fun leaf => truth (text leaf)).getD .true := by
    rw [Connective.combine_eq_getD, Connective.combine?_toList]
    rfl
  apply different
  calc
    Connective.conjunction.combine (formula.spliced ofLeaf)
      = Connective.conjunction.combine (formula.spliced fun leaf => truth (text leaf)) :=
        congrArg _ sameAdded.symm
    _ = (formula.meaning .skip fun leaf => truth (text leaf)).getD .true := agree truth
    _ = Connective.conjunction.combine
          (formula.meaning .skip fun leaf => truth (text leaf)).toList := means.symm
    _ = Connective.conjunction.combine (formula.meaning .skip ofLeaf).toList :=
        congrArg _ sameMeant

end Formula

end WhereClause
