import WhereClause.Proofs.Compilation

/-!
# The names of parameters

Main statements: a fresh name is not taken, it has the least number that is free, and binding
values appends them to the parameters under distinct new names.
-/

namespace WhereClause

theorem Entries.insert_of_not_mem
    {α : Type} {name : String} {entries : List (String × α)} (value : α)
    (absent : name ∉ Entries.names entries) :
    Entries.insert name value entries = entries ++ [(name, value)] := by
  induction entries with
  | nil =>
      rfl
  | cons head tail inductionHypothesis =>
      obtain ⟨other, held⟩ := head
      simp only [Entries.names, List.map_cons, List.mem_cons, not_or] at absent
      obtain ⟨different, tailAbsent⟩ := absent
      rw [Entries.insert, if_neg (Ne.symm different), inductionHypothesis tailAbsent]
      rfl

theorem Entries.get?_eq_none_iff
    {α : Type} {name : String} {entries : List (String × α)} :
    Entries.get? name entries = none ↔ name ∉ Entries.names entries := by
  induction entries with
  | nil =>
      simp [Entries.get?, Entries.names]
  | cons head tail inductionHypothesis =>
      obtain ⟨other, held⟩ := head
      simp only [Entries.names] at inductionHypothesis
      by_cases same : other = name
      · simp [Entries.get?, Entries.names, same]
      · simp [Entries.get?, Entries.names, same, Ne.symm same, inductionHypothesis]

namespace Parameters

theorem toList_numbered (stem : String) (number : Nat) :
    (numbered stem number).toList =
      stem.toList ++ '_' :: Nat.toDigits 10 number := by
  simp [numbered, opening]

theorem numbered_injective {stem : String} {left right : Nat}
    (same : numbered stem left = numbered stem right) : left = right := by
  have lists := congrArg String.toList same
  rw [toList_numbered, toList_numbered] at lists
  have digits : Nat.toDigits 10 left = Nat.toDigits 10 right := by
    simpa using lists
  have numbers := congrArg (fun characters => Nat.ofDigitChars 10 characters 0) digits
  simpa using numbers

theorem mem_candidates_iff
    {parameters : Parameters} {stem : String} {number : Nat} :
    numbered stem number ∈ parameters.candidates stem ↔
      numbered stem number ∈ Entries.names parameters.entries := by
  simp [candidates, numbered]

/-- The search ends at a free name, and every name before it is taken. -/
theorem leastFree_spec
    (stem : String) {bound : Nat} (number : Nat) {names : List String}
    (enough : names.length ≤ bound) :
    number ≤ leastFree stem bound number names ∧
      numbered stem (leastFree stem bound number names) ∉ names ∧
      ∀ between, number ≤ between → between < leastFree stem bound number names →
        numbered stem between ∈ names := by
  induction bound generalizing number names with
  | zero =>
      have none : names = [] := List.eq_nil_of_length_eq_zero (Nat.le_zero.1 enough)
      refine ⟨Nat.le_refl number, by simp [none], ?_⟩
      intro between atLeast below
      exact absurd below (Nat.not_lt.2 atLeast)
  | succ bound inductionHypothesis =>
      rw [leastFree]
      by_cases taken : numbered stem number ∈ names
      · rw [if_pos taken]
        have shorter : (names.erase (numbered stem number)).length ≤ bound := by
          rw [List.length_erase_of_mem taken]
          omega
        obtain ⟨atLeast, free, before⟩ := inductionHypothesis (number + 1) shorter
        refine ⟨by omega, ?_, ?_⟩
        · -- a later number gives another name than the one that was dropped
          have different :
              numbered stem
                  (leastFree stem bound (number + 1)
                    (names.erase (numbered stem number))) ≠
                numbered stem number := by
            intro same
            have := numbered_injective same
            omega
          rwa [List.mem_erase_of_ne different] at free
        · intro between lower upper
          rcases Nat.eq_or_lt_of_le lower with rfl | above
          · exact taken
          · exact List.mem_of_mem_erase (before between above upper)
      · rw [if_neg taken]
        refine ⟨Nat.le_refl number, taken, ?_⟩
        intro between atLeast below
        exact absurd below (Nat.not_lt.2 atLeast)

theorem fresh_not_mem (parameters : Parameters) (stem : String) :
    parameters.fresh stem ∉ Entries.names parameters.entries := by
  rw [fresh, ← mem_candidates_iff]
  exact (leastFree_spec stem 1 (Nat.le_refl _)).2.1

theorem entries_bind (parameters : Parameters) (stem : String) (value : Json) :
    (parameters.bind stem value).2.entries =
      parameters.entries ++ [((parameters.bind stem value).1, value)] :=
  Entries.insert_of_not_mem value (fresh_not_mem parameters stem)

/-- One state of the parameters is another with values appended under names, in order. -/
structure Binds (parameters : Parameters) (names : List String) (values : List Json)
    (final : Parameters) : Prop where
  sameLength : names.length = values.length
  appended : final.entries = parameters.entries ++ names.zip values

namespace Binds

theorem refl (parameters : Parameters) : Binds parameters [] [] parameters :=
  ⟨rfl, by simp⟩

theorem trans
    {parameters bound final : Parameters} {names others : List String}
    {values rest : List Json}
    (first : Binds parameters names values bound)
    (second : Binds bound others rest final) :
    Binds parameters (names ++ others) (values ++ rest) final := by
  refine ⟨by simp [first.sameLength, second.sameLength], ?_⟩
  rw [second.appended, first.appended, List.append_assoc,
    List.zip_append first.sameLength]

variable {parameters final : Parameters} {names : List String} {values : List Json}

theorem names_eq (binds : Binds parameters names values final) :
    Entries.names final.entries = Entries.names parameters.entries ++ names := by
  rw [binds.appended, Entries.names, List.map_append,
    List.map_fst_zip (Nat.le_of_eq binds.sameLength)]
  rfl

/-- The names are distinct, since the parameters hold each name once. -/
theorem nodup (binds : Binds parameters names values final) : names.Nodup := by
  have distinct := final.distinct
  rw [binds.names_eq] at distinct
  exact (List.nodup_append.1 distinct).2.1

theorem get?_eq_none
    (binds : Binds parameters names values final) {name : String}
    (member : name ∈ names) : parameters.get? name = none := by
  have distinct := final.distinct
  rw [binds.names_eq] at distinct
  refine Entries.get?_eq_none_iff.2 fun held => ?_
  exact (List.nodup_append.1 distinct).2.2 name held name member rfl

end Binds

theorem binds_bindAll (stem : String) (values : List Json) (parameters : Parameters) :
    Binds parameters (bindAll stem values parameters).1 values
      (bindAll stem values parameters).2 := by
  induction values generalizing parameters with
  | nil =>
      exact Binds.refl parameters
  | cons value rest inductionHypothesis =>
      have first : Binds parameters [(parameters.bind stem value).1] [value]
          (parameters.bind stem value).2 :=
        ⟨rfl, entries_bind parameters stem value⟩
      exact first.trans (inductionHypothesis (parameters.bind stem value).2)

/-- Every name that is bound is the stem with a number. -/
theorem exists_numbered_of_mem_bindAll
    {stem : String} {values : List Json} {parameters : Parameters} {name : String}
    (member : name ∈ (bindAll stem values parameters).1) :
    ∃ number, name = numbered stem number := by
  induction values generalizing parameters with
  | nil =>
      simp [bindAll] at member
  | cons value rest inductionHypothesis =>
      rw [bindAll] at member
      rcases List.mem_cons.1 member with rfl | later
      · exact ⟨_, rfl⟩
      · exact inductionHypothesis later

end Parameters

end WhereClause
