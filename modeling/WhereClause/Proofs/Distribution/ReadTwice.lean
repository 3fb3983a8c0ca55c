import WhereClause.Proofs.Distribution.Meaning

/-!
# Two readings of a formula

The conjuncts of a formula are combined with each other before the set around it sees them, or
they are spliced into that set. Main statements: both readings depend on the leaves of a part
only, and can be set to any value if no leaf occurs twice; so where parts beside each other have
their own leaves, a difference in one of them shows in the whole.
-/

namespace WhereClause

namespace Formula

variable {α : Type}

/-- The truth values of one assignment at some leaves, and those of another elsewhere. -/
noncomputable def joint (leaves : List α) (first second : α → Truth) (leaf : α) : Truth :=
  open Classical in if leaf ∈ leaves then first leaf else second leaf

theorem joint_of_mem {leaves : List α} {leaf : α} (first second : α → Truth)
    (member : leaf ∈ leaves) : joint leaves first second leaf = first leaf :=
  if_pos member

theorem joint_of_not_mem {leaves : List α} {leaf : α} (first second : α → Truth)
    (absent : leaf ∉ leaves) : joint leaves first second leaf = second leaf :=
  if_neg absent

/-- What two readings of a part have in common: they depend on the leaves only, they are empty
together, and a value that both consist of can be attained if no leaf occurs twice. -/
structure ReadTwice (leaves : List α) (added meant : (α → Truth) → List Truth) : Prop where
  congr : ∀ first second : α → Truth, (∀ leaf ∈ leaves, first leaf = second leaf) →
    added first = added second ∧ meant first = meant second
  added_eq_nil_iff : ∀ truth, added truth = [] ↔ leaves = []
  meant_eq_nil_iff : ∀ truth, meant truth = [] ↔ leaves = []
  attains : leaves.Nodup → ∀ value, ∃ truth,
    (∀ operand ∈ added truth, operand = value) ∧ ∀ operand ∈ meant truth, operand = value

/-- Whether the values that a list turns into are those of the list, changed. -/
structure Turns (change : Truth → Truth) (turn : List Truth → List Truth) : Prop where
  eq_nil_iff : ∀ values, turn values = [] ↔ values = []
  uniform : ∀ values value, (∀ operand ∈ values, operand = value) →
    ∀ operand ∈ turn values, operand = change value

theorem turns_id : Turns id id :=
  ⟨fun _ => Iff.rfl, fun _ _ uniform => uniform⟩

theorem turns_combine? (connective : Connective) :
    Turns id fun values => (connective.combine? values).toList := by
  refine ⟨fun _ => Connective.toList_combine?_eq_nil_iff, ?_⟩
  intro values value uniform operand member
  exact Connective.forall_mem_combine? uniform operand (Option.mem_toList.1 member)

theorem turns_not : Turns Truth.not (List.map Truth.not) := by
  refine ⟨fun _ => List.map_eq_nil_iff, ?_⟩
  intro values value uniform
  exact List.forall_mem_map.2 fun operand member => congrArg Truth.not (uniform operand member)

namespace ReadTwice

variable {leaves others : List α}
variable {added meant addedThere meantThere : (α → Truth) → List Truth}

theorem nil : ReadTwice ([] : List α) (fun _ => []) (fun _ => []) := by
  refine ⟨?_, ?_, ?_, ?_⟩
  · intro _ _ _
    exact ⟨rfl, rfl⟩
  · intro _
    exact iff_of_true rfl rfl
  · intro _
    exact iff_of_true rfl rfl
  · intro _ value
    exact ⟨fun _ => value, by simp, by simp⟩

theorem leaf (label : α) :
    ReadTwice [label] (fun truth => [truth label]) (fun truth => [truth label]) := by
  refine ⟨?_, ?_, ?_, ?_⟩
  · intro first second agree
    have same : first label = second label := agree label (List.mem_singleton_self label)
    exact ⟨congrArg (fun value => [value]) same, congrArg (fun value => [value]) same⟩
  · intro truth
    simp
  · intro truth
    simp
  · intro _ value
    exact ⟨fun _ => value, by simp, by simp⟩

/-- The readings of two parts beside each other, which have their own leaves. -/
theorem exists_joint
    (here : ReadTwice leaves added meant) (there : ReadTwice others addedThere meantThere)
    (apart : (leaves ++ others).Nodup) (first second : α → Truth) :
    ∃ truth, added truth = added first ∧ meant truth = meant first ∧
      addedThere truth = addedThere second ∧ meantThere truth = meantThere second := by
  obtain ⟨-, -, separate⟩ := List.nodup_append.1 apart
  have ofHere : ∀ leaf ∈ leaves, joint leaves first second leaf = first leaf :=
    fun leaf member => joint_of_mem first second member
  have ofThere : ∀ leaf ∈ others, joint leaves first second leaf = second leaf := by
    intro leaf member
    have absent : leaf ∉ leaves := fun also => separate leaf also leaf member rfl
    exact joint_of_not_mem first second absent
  obtain ⟨sameAdded, sameMeant⟩ := here.congr _ _ ofHere
  obtain ⟨sameAddedThere, sameMeantThere⟩ := there.congr _ _ ofThere
  exact ⟨_, sameAdded, sameMeant, sameAddedThere, sameMeantThere⟩

theorem append
    (here : ReadTwice leaves added meant) (there : ReadTwice others addedThere meantThere) :
    ReadTwice (leaves ++ others) (fun truth => added truth ++ addedThere truth)
      (fun truth => meant truth ++ meantThere truth) := by
  refine ⟨?_, ?_, ?_, ?_⟩
  · intro first second agree
    obtain ⟨agreeHere, agreeThere⟩ := List.forall_mem_append.1 agree
    obtain ⟨sameAdded, sameMeant⟩ := here.congr first second agreeHere
    obtain ⟨sameAddedThere, sameMeantThere⟩ := there.congr first second agreeThere
    exact ⟨congrArg₂ _ sameAdded sameAddedThere, congrArg₂ _ sameMeant sameMeantThere⟩
  · intro truth
    rw [List.append_eq_nil_iff, here.added_eq_nil_iff, there.added_eq_nil_iff,
      List.append_eq_nil_iff]
  · intro truth
    rw [List.append_eq_nil_iff, here.meant_eq_nil_iff, there.meant_eq_nil_iff,
      List.append_eq_nil_iff]
  · intro apart value
    obtain ⟨nodupHere, nodupThere, -⟩ := List.nodup_append.1 apart
    obtain ⟨first, addedHere, meantHere⟩ := here.attains nodupHere value
    obtain ⟨second, addedBeside, meantBeside⟩ := there.attains nodupThere value
    obtain ⟨truth, sameAdded, sameMeant, sameAddedThere, sameMeantThere⟩ :=
      here.exists_joint there apart first second
    refine ⟨truth, ?_, ?_⟩
    · rw [sameAdded, sameAddedThere]
      exact List.forall_mem_append.2 ⟨addedHere, addedBeside⟩
    · rw [sameMeant, sameMeantThere]
      exact List.forall_mem_append.2 ⟨meantHere, meantBeside⟩

/-- Both readings may be turned, as long as this changes their values in the same way. -/
theorem turned
    {change : Truth → Truth} {turn turnThere : List Truth → List Truth}
    (readings : ReadTwice leaves added meant) (turns : Turns change turn)
    (turnsThere : Turns change turnThere) (involutive : ∀ value, change (change value) = value) :
    ReadTwice leaves (fun truth => turn (added truth))
      (fun truth => turnThere (meant truth)) := by
  refine ⟨?_, ?_, ?_, ?_⟩
  · intro first second agree
    obtain ⟨sameAdded, sameMeant⟩ := readings.congr first second agree
    exact ⟨congrArg turn sameAdded, congrArg turnThere sameMeant⟩
  · intro truth
    rw [turns.eq_nil_iff, readings.added_eq_nil_iff]
  · intro truth
    rw [turnsThere.eq_nil_iff, readings.meant_eq_nil_iff]
  · intro nodup value
    obtain ⟨truth, ofAdded, ofMeant⟩ := readings.attains nodup (change value)
    refine ⟨truth, ?_, ?_⟩
    · have changed := turns.uniform _ _ ofAdded
      rwa [involutive] at changed
    · have changed := turnsThere.uniform _ _ ofMeant
      rwa [involutive] at changed

end ReadTwice

mutual

/-- A formula that negates literals only is read twice. -/
theorem readTwice {formula : Formula α} (literals : formula.negatesLiterals) :
    ReadTwice formula.leaves (fun truth => formula.spliced truth)
      fun truth => (formula.meaning .skip truth).toList := by
  match formula with
  | .all [] =>
      exact .nil
  | .all (conjunct :: rest) =>
      have readings := readTwiceOfConjuncts literals
      have involutive : ∀ value : Truth, id (id value) = value := fun _ => rfl
      exact readings.turned turns_id (turns_combine? .conjunction) involutive

theorem readTwiceOfConjunct
    {conjunct : Conjunct α} (literals : conjunctNegatesLiterals conjunct) :
    ReadTwice (leavesOfConjunct conjunct) (fun truth => splicedConjunct truth conjunct)
      fun truth => (meaningOfConjunct .skip truth conjunct).toList := by
  cases conjunct with
  | set connective children =>
      have readings := readTwiceOfAll literals
      have involutive : ∀ value : Truth, id (id value) = value := fun _ => rfl
      exact readings.turned (turns_combine? connective) (turns_combine? connective) involutive
  | negation child =>
      rw [conjunctNegatesLiterals, Bool.and_eq_true] at literals
      have readings := readTwice literals.2
      have negated := readings.turned turns_not turns_not Truth.not_not
      have means (truth : α → Truth) :
          (meaningOfConjunct .skip truth (.negation child)).toList =
            (child.meaning .skip truth).toList.map Truth.not := by
        obtain ⟨value, -, found⟩ := exists_meaning_of_isLiteral truth literals.1
        rw [meaningOfConjunct, found]
        rfl
      rw [funext means]
      exact negated
  | leaf label =>
      exact .leaf label

theorem readTwiceOfConjuncts
    {conjuncts : List (Conjunct α)} (literals : conjunctsNegateLiterals conjuncts) :
    ReadTwice (leavesOfConjuncts conjuncts) (fun truth => splicedConjuncts truth conjuncts)
      fun truth => meaningsOfConjuncts .skip truth conjuncts := by
  cases conjuncts with
  | nil =>
      exact .nil
  | cons conjunct rest =>
      rw [conjunctsNegateLiterals, Bool.and_eq_true] at literals
      exact (readTwiceOfConjunct literals.1).append (readTwiceOfConjuncts literals.2)

theorem readTwiceOfAll
    {formulas : List (Formula α)} (literals : allNegateLiterals formulas) :
    ReadTwice (leavesOfAll formulas) (fun truth => splicedAll truth formulas)
      fun truth => meanings .skip truth formulas := by
  cases formulas with
  | nil =>
      exact .nil
  | cons formula rest =>
      rw [allNegateLiterals, Bool.and_eq_true] at literals
      exact (readTwice literals.1).append (readTwiceOfAll literals.2)

end

/-! ## Where the readings differ -/

/-- Whether two readings combine to different values for some truth values of the leaves. -/
def Differ (connective : Connective) (added meant : (α → Truth) → List Truth) : Prop :=
  ∃ truth, connective.combine (added truth) ≠ connective.combine (meant truth)

/-- Whether some truth values of the leaves make one value of the first reading true, and all
values of the second one false. -/
def Contrast (added meant : (α → Truth) → List Truth) : Prop :=
  ∃ truth, .true ∈ added truth ∧ ∀ operand ∈ meant truth, operand = .false

/-- What contrasts differs in a disjunction. -/
theorem Contrast.differ
    {added meant : (α → Truth) → List Truth} (contrast : Contrast added meant) :
    Differ .disjunction added meant := by
  obtain ⟨truth, holds, fails⟩ := contrast
  have isTrue : Connective.disjunction.combine (added truth) = .true :=
    Connective.combine_of_mem_decisive holds
  have isFalse : Connective.disjunction.combine (meant truth) = .false :=
    Connective.combine_of_forall_neutral fails
  refine ⟨truth, ?_⟩
  rw [isTrue, isFalse]
  decide

namespace ReadTwice

variable {leaves others : List α}
variable {added meant addedThere meantThere : (α → Truth) → List Truth}

/-- One part may be read anyhow while everything beside it has one value. -/
theorem exists_beside
    (here : ReadTwice leaves added meant) (there : ReadTwice others addedThere meantThere)
    (apart : (leaves ++ others).Nodup) (first : α → Truth) (value : Truth) :
    ∃ truth, added truth = added first ∧ meant truth = meant first ∧
      (∀ operand ∈ addedThere truth, operand = value) ∧
      ∀ operand ∈ meantThere truth, operand = value := by
  obtain ⟨-, nodup, -⟩ := List.nodup_append.1 apart
  obtain ⟨second, ofAdded, ofMeant⟩ := there.attains nodup value
  obtain ⟨truth, sameAdded, sameMeant, sameAddedThere, sameMeantThere⟩ :=
    here.exists_joint there apart first second
  rw [← sameAddedThere] at ofAdded
  rw [← sameMeantThere] at ofMeant
  exact ⟨truth, sameAdded, sameMeant, ofAdded, ofMeant⟩

theorem differ_left
    (here : ReadTwice leaves added meant) (there : ReadTwice others addedThere meantThere)
    (apart : (leaves ++ others).Nodup) {connective : Connective}
    (differ : Differ connective added meant) :
    Differ connective (fun truth => added truth ++ addedThere truth)
      fun truth => meant truth ++ meantThere truth := by
  obtain ⟨first, different⟩ := differ
  -- what stands beside the difference is made neutral, so that it shows in the whole
  obtain ⟨truth, sameAdded, sameMeant, ofAdded, ofMeant⟩ :=
    here.exists_beside there apart first connective.neutral
  have neutralAdded := Connective.combine_of_forall_neutral ofAdded
  have neutralMeant := Connective.combine_of_forall_neutral ofMeant
  refine ⟨truth, ?_⟩
  rw [Connective.combine_append, Connective.combine_append, sameAdded, sameMeant,
    neutralAdded, neutralMeant, Connective.apply_neutral, Connective.apply_neutral]
  exact different

theorem differ_right
    (here : ReadTwice leaves added meant) (there : ReadTwice others addedThere meantThere)
    (apart : (leaves ++ others).Nodup) {connective : Connective}
    (differ : Differ connective addedThere meantThere) :
    Differ connective (fun truth => added truth ++ addedThere truth)
      fun truth => meant truth ++ meantThere truth := by
  obtain ⟨second, different⟩ := differ
  obtain ⟨truth, sameAdded, sameMeant, ofAdded, ofMeant⟩ :=
    there.exists_beside here (List.perm_append_comm.nodup_iff.1 apart) second connective.neutral
  have neutralAdded := Connective.combine_of_forall_neutral ofAdded
  have neutralMeant := Connective.combine_of_forall_neutral ofMeant
  refine ⟨truth, ?_⟩
  rw [Connective.combine_append, Connective.combine_append, sameAdded, sameMeant,
    neutralAdded, neutralMeant, Connective.neutral_apply, Connective.neutral_apply]
  exact different

theorem contrast_left
    (here : ReadTwice leaves added meant) (there : ReadTwice others addedThere meantThere)
    (apart : (leaves ++ others).Nodup) (contrast : Contrast added meant) :
    Contrast (fun truth => added truth ++ addedThere truth)
      fun truth => meant truth ++ meantThere truth := by
  obtain ⟨first, holds, fails⟩ := contrast
  obtain ⟨truth, sameAdded, sameMeant, -, failsThere⟩ :=
    here.exists_beside there apart first .false
  rw [← sameAdded] at holds
  rw [← sameMeant] at fails
  exact ⟨truth, List.mem_append_left _ holds, List.forall_mem_append.2 ⟨fails, failsThere⟩⟩

theorem contrast_right
    (here : ReadTwice leaves added meant) (there : ReadTwice others addedThere meantThere)
    (apart : (leaves ++ others).Nodup) (contrast : Contrast addedThere meantThere) :
    Contrast (fun truth => added truth ++ addedThere truth)
      fun truth => meant truth ++ meantThere truth := by
  obtain ⟨second, holds, fails⟩ := contrast
  obtain ⟨truth, sameAdded, sameMeant, -, failsHere⟩ :=
    there.exists_beside here (List.perm_append_comm.nodup_iff.1 apart) second .false
  rw [← sameAdded] at holds
  rw [← sameMeant] at fails
  exact ⟨truth, List.mem_append_right _ holds, List.forall_mem_append.2 ⟨failsHere, fails⟩⟩

/-- Two parts with leaves, beside each other: one can be true and the other false. -/
theorem exists_true_and_false
    (here : ReadTwice leaves added meant) (there : ReadTwice others addedThere meantThere)
    (apart : (leaves ++ others).Nodup) (inhabited : leaves ≠ [])
    (inhabitedThere : others ≠ []) :
    ∃ truth, .true ∈ added truth ++ addedThere truth ∧
      .false ∈ meant truth ++ meantThere truth := by
  obtain ⟨nodup, nodupThere, -⟩ := List.nodup_append.1 apart
  obtain ⟨first, holds, -⟩ := here.attains nodup .true
  obtain ⟨second, -, fails⟩ := there.attains nodupThere .false
  obtain ⟨truth, sameAdded, -, -, sameMeantThere⟩ :=
    here.exists_joint there apart first second
  have addedSome : added first ≠ [] := fun empty =>
    inhabited ((here.added_eq_nil_iff first).1 empty)
  have meantSome : meantThere second ≠ [] := fun empty =>
    inhabitedThere ((there.meant_eq_nil_iff second).1 empty)
  obtain ⟨value, valueAdded⟩ := List.exists_mem_of_ne_nil _ addedSome
  obtain ⟨other, otherMeant⟩ := List.exists_mem_of_ne_nil _ meantSome
  have isTrue := holds value valueAdded
  have isFalse := fails other otherMeant
  subst isTrue isFalse
  refine ⟨truth, ?_, ?_⟩
  · rw [sameAdded]
    exact List.mem_append_left _ valueAdded
  · rw [sameMeantThere]
    exact List.mem_append_right _ otherMeant

/-- A set of parts differs where its parts do, whatever it stands in. -/
theorem differ_combine?
    (readings : ReadTwice leaves added meant) {inner : Connective} (outer : Connective)
    (differ : Differ inner added meant) :
    Differ outer (fun truth => (inner.combine? (added truth)).toList)
      fun truth => (inner.combine? (meant truth)).toList := by
  obtain ⟨truth, different⟩ := differ
  -- without leaves both readings are empty, and combine to the same
  have inhabited : leaves ≠ [] := by
    intro bare
    have addedNone := (readings.added_eq_nil_iff truth).2 bare
    have meantNone := (readings.meant_eq_nil_iff truth).2 bare
    rw [addedNone, meantNone] at different
    exact different rfl
  have addedSome : added truth ≠ [] := fun empty =>
    inhabited ((readings.added_eq_nil_iff truth).1 empty)
  have meantSome : meant truth ≠ [] := fun empty =>
    inhabited ((readings.meant_eq_nil_iff truth).1 empty)
  refine ⟨truth, ?_⟩
  rw [Connective.combine_toList_combine? outer inner addedSome,
    Connective.combine_toList_combine? outer inner meantSome]
  exact different

end ReadTwice

end Formula

end WhereClause
