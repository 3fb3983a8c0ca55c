import Mathlib.Data.List.Induction
import WhereClause.Proofs.Course

/-!
# The numbers of parameters

The numbers of a stem are probed one after the other until a name is free. Main statement: the
search ends at the least free number, so that from no parameters on the values of a stem are
numbered in the order in which they are bound, whatever is bound under other stems between them.
-/

namespace WhereClause

theorem Dict.contains_iff_mem {α : Type} {dict : Dict α} {name : String} :
    dict.contains name = true ↔ name ∈ Entries.names dict.entries := by
  rw [contains, get?, Option.isSome_iff_ne_none, ne_eq, Entries.get?_eq_none_iff,
    Decidable.not_not]

namespace Parameters

theorem underscore_not_mem_toDigits (number : Nat) : '_' ∉ Nat.toDigits 10 number := by
  intro member
  have isDigit := Nat.isDigit_of_mem_toDigits (by decide) (Nat.le_refl 10) member
  exact absurd isDigit (by decide)

theorem eq_nil_of_digits {more : List Char} {left right : Nat}
    (same : '_' :: Nat.toDigits 10 left = more ++ '_' :: Nat.toDigits 10 right) :
    more = [] := by
  cases more with
  | nil =>
      rfl
  | cons first rest =>
      have digits : Nat.toDigits 10 left = rest ++ '_' :: Nat.toDigits 10 right :=
        (List.cons.inj same).2
      have member : '_' ∈ Nat.toDigits 10 left := by
        rw [digits]
        exact List.mem_append_right rest List.mem_cons_self
      exact absurd member (underscore_not_mem_toDigits left)

/-- The last underscore of a numbered name ends the stem, also if the stem looks like a numbered
name itself. -/
theorem stem_eq_of_numbered_eq {stem other : String} {left right : Nat}
    (same : numbered stem left = numbered other right) : stem = other := by
  have lists := congrArg String.toList same
  rw [toList_numbered, toList_numbered] at lists
  rw [← String.toList_inj]
  rcases List.append_eq_append_iff.1 lists with ⟨more, longer, digits⟩ | ⟨more, longer, digits⟩
  · have none : more = [] := eq_nil_of_digits digits
    rw [longer, none, List.append_nil]
  · have none : more = [] := eq_nil_of_digits digits
    rw [longer, none, List.append_nil]

/-- The search for a free number, from one number on, and where it ends: a number that is taken
leads to the next one. -/
inductive Probes (parameters : Parameters) (stem : String) : (first last : Nat) → Prop
  | stops {number : Nat} :
      parameters.contains (numbered stem number) = false →
      Probes parameters stem number number
  | goesOn {number last : Nat} :
      parameters.contains (numbered stem number) = true →
      Probes parameters stem (number + 1) last →
      Probes parameters stem number last

variable {parameters : Parameters} {stem : String}

/-- The search ends at the first number that is free. -/
theorem probes_iff {first last : Nat} :
    Probes parameters stem first last ↔
      first ≤ last ∧ parameters.contains (numbered stem last) = false ∧
        ∀ between, first ≤ between → between < last →
          parameters.contains (numbered stem between) = true := by
  constructor
  · intro probes
    induction probes with
    | stops free =>
        refine ⟨Nat.le_refl _, free, ?_⟩
        intro between atLeast below
        exact absurd below (Nat.not_lt.2 atLeast)
    | @goesOn number last taken _ inductionHypothesis =>
        obtain ⟨atLeast, free, before⟩ := inductionHypothesis
        refine ⟨by omega, free, ?_⟩
        intro between lower below
        by_cases isFirst : between = number
        · rw [isFirst]
          exact taken
        · exact before between (by omega) below
  · rintro ⟨atLeast, free, before⟩
    obtain ⟨steps, rfl⟩ := Nat.exists_eq_add_of_le atLeast
    clear atLeast
    induction steps generalizing first with
    | zero =>
        exact .stops free
    | succ steps inductionHypothesis =>
        have taken := before first (Nat.le_refl first) (by omega)
        have regrouped : first + (steps + 1) = first + 1 + steps := by omega
        rw [regrouped] at free before ⊢
        apply Probes.goesOn taken
        apply inductionHypothesis free
        intro between lower below
        exact before between (by omega) below

theorem Probes.unique {first last other : Nat}
    (left : Probes parameters stem first last) (right : Probes parameters stem first other) :
    last = other := by
  obtain ⟨leftAtLeast, leftFree, leftBefore⟩ := probes_iff.1 left
  obtain ⟨rightAtLeast, rightFree, rightBefore⟩ := probes_iff.1 right
  rcases Nat.lt_trichotomy last other with less | same | greater
  · have taken := rightBefore last leftAtLeast less
    rw [leftFree] at taken
    cases taken
  · exact same
  · have taken := leftBefore other rightAtLeast greater
    rw [rightFree] at taken
    cases taken

/-- The search from one on ends, whatever has been bound. -/
theorem probes_freeNumber (parameters : Parameters) (stem : String) :
    Probes parameters stem 1 (parameters.freeNumber stem) := by
  have spec := leastFree_spec stem 1 (Nat.le_refl (parameters.candidates stem).length)
  obtain ⟨positive, free, before⟩ := spec
  rw [probes_iff]
  refine ⟨positive, ?_, ?_⟩
  · rw [Bool.eq_false_iff, ne_eq, Dict.contains_iff_mem, ← mem_candidates_iff]
    exact free
  · intro between lower below
    rw [Dict.contains_iff_mem, ← mem_candidates_iff]
    exact before between lower below

theorem probes_one_iff {last : Nat} :
    Probes parameters stem 1 last ↔ last = parameters.freeNumber stem := by
  have ends := probes_freeNumber parameters stem
  constructor
  · intro probes
    exact probes.unique ends
  · intro same
    rw [same]
    exact ends

/-- Only the names of its own numbers matter to a stem. -/
theorem freeNumber_congr {left right : Parameters}
    (agree : ∀ number,
      left.contains (numbered stem number) = right.contains (numbered stem number)) :
    left.freeNumber stem = right.freeNumber stem := by
  have ends := probes_iff.1 (probes_freeNumber left stem)
  simp only [agree] at ends
  exact probes_one_iff.1 (probes_iff.2 ends)

/-! ## Values bound under stems -/

theorem contains_bind (parameters : Parameters) (other : String) (value : Json)
    (name : String) :
    (parameters.bind other value).2.contains name =
      (decide (parameters.fresh other = name) || parameters.contains name) := by
  rw [bind, Dict.contains, Dict.get?_insert, Dict.contains]
  by_cases same : parameters.fresh other = name
  · simp [same]
  · simp [same]

/-- A value bound under another stem takes no number of this one. -/
theorem contains_bind_of_ne {other : String} (different : other ≠ stem) (value : Json)
    (number : Nat) :
    (parameters.bind other value).2.contains (numbered stem number) =
      parameters.contains (numbered stem number) := by
  have apart : parameters.fresh other ≠ numbered stem number := by
    intro same
    exact different (stem_eq_of_numbered_eq same)
  rw [contains_bind, decide_eq_false apart, Bool.false_or]

/-- The names that the values of one stem are given, among all that are bound. -/
def received (stem : String) (calls : List (String × Json)) (parameters : Parameters) :
    List String :=
  (((calls.map Prod.fst).zip (parameters.bindEach calls).1).filter
    fun call => call.1 = stem).map Prod.snd

theorem received_cons (call : String × Json) (rest : List (String × Json)) :
    received stem (call :: rest) parameters =
      (if call.1 = stem then [parameters.fresh call.1] else []) ++
        received stem rest (parameters.bind call.1 call.2).2 := by
  rw [received, received, bindEach_cons, List.map_cons, List.zip_cons_cons, List.filter_cons]
  by_cases same : call.1 = stem
  · simp [same, bind]
  · simp [same]

/-- The values of a stem are given the names that they would be given alone. -/
theorem received_eq_bindEach_filter
    {left right : Parameters} (calls : List (String × Json))
    (agree : ∀ number,
      left.contains (numbered stem number) = right.contains (numbered stem number)) :
    received stem calls left =
      (right.bindEach (calls.filter fun call => call.1 = stem)).1 := by
  induction calls generalizing left right with
  | nil =>
      rfl
  | cons call rest inductionHypothesis =>
      obtain ⟨other, value⟩ := call
      rw [received_cons]
      by_cases same : other = stem
      · subst same
        have sameName : left.fresh other = right.fresh other := by
          rw [fresh, fresh, freeNumber_congr agree]
        have later : ∀ number,
            (left.bind other value).2.contains (numbered other number) =
              (right.bind other value).2.contains (numbered other number) := by
          intro number
          rw [contains_bind, contains_bind, sameName, agree]
        have tail := inductionHypothesis later
        rw [List.filter_cons_of_pos (by simp), bindEach_cons, if_pos rfl, tail, sameName]
        rfl
      · have later : ∀ number,
            (left.bind other value).2.contains (numbered stem number) =
              right.contains (numbered stem number) := by
          intro number
          rw [contains_bind_of_ne same, agree]
        have tail := inductionHypothesis later
        rw [List.filter_cons_of_neg (by simp [same]), if_neg same, tail]
        rfl

/-- A stem whose numbers are taken up to a count has the next one free. -/
theorem freeNumber_eq_succ {count : Nat}
    (taken : ∀ number, parameters.contains (numbered stem number) = true ↔
      0 < number ∧ number ≤ count) :
    parameters.freeNumber stem = count + 1 := by
  have probes : Probes parameters stem 1 (count + 1) := by
    rw [probes_iff]
    refine ⟨by omega, ?_, ?_⟩
    · rw [Bool.eq_false_iff, ne_eq, taken]
      omega
    · intro between lower below
      rw [taken]
      omega
  exact (probes_one_iff.1 probes).symm

/-- The numbers that are taken under a stem are those up to the number of its values. -/
theorem contains_bindEach_empty_iff (calls : List (String × Json)) (stem : String)
    (number : Nat) :
    (bindEach Dict.empty calls).2.contains (numbered stem number) = true ↔
      0 < number ∧ number ≤ (calls.map Prod.fst).count stem := by
  induction calls using List.reverseRecOn generalizing stem number with
  | nil =>
      have free : (bindEach Dict.empty []).2.contains (numbered stem number) =
          false := rfl
      rw [free, List.map_nil, List.count_nil]
      constructor
      · intro never
        cases never
      · omega
  | append_singleton initial last inductionHypothesis =>
      obtain ⟨other, value⟩ := last
      have next := freeNumber_eq_succ (inductionHypothesis other)
      rw [bindEach_append, bindEach_cons, List.map_append, List.count_append]
      generalize (bindEach Dict.empty initial).2 = bound at *
      have bindsLast : ((bound.bind other value).2.bindEach []).2 =
          (bound.bind other value).2 := rfl
      rw [bindsLast]
      by_cases same : other = stem
      · subst same
        have isFresh : bound.fresh other = numbered other number ↔
            bound.freeNumber other = number :=
          ⟨numbered_injective, fun equality => by rw [fresh, equality]⟩
        rw [contains_bind, Bool.or_eq_true, decide_eq_true_eq, isFresh, next,
          inductionHypothesis, List.map_singleton, List.count_singleton_self]
        omega
      · rw [contains_bind_of_ne same, inductionHypothesis, List.map_singleton,
          List.count_singleton, if_neg (by simpa using same), Nat.add_zero]

/-- A value is numbered by the values of its stem that have been bound. -/
theorem fresh_bindEach_empty (calls : List (String × Json)) (stem : String) :
    (bindEach Dict.empty calls).2.fresh stem =
      numbered stem ((calls.map Prod.fst).count stem + 1) := by
  rw [fresh, freeNumber_eq_succ (contains_bindEach_empty_iff calls stem)]

/-- The search for a free number ends for every parameters and every stem, at the least positive
number whose name is not taken. From no parameters on, each value is given its stem with the
number of the values of that stem up to it; and from any parameters on, the values of a stem are
given the same names whatever else is bound between them. -/
theorem bindEach_numbers_stems :
    (∀ (parameters : Parameters) (stem : String),
      parameters.fresh stem = stem ++ "_" ++ toString (parameters.freeNumber stem) ∧
      (∀ last, Probes parameters stem 1 last ↔ last = parameters.freeNumber stem) ∧
      0 < parameters.freeNumber stem ∧
      parameters.contains (parameters.fresh stem) = false ∧
      ∀ number, 0 < number → number < parameters.freeNumber stem →
        parameters.contains (stem ++ "_" ++ toString number) = true) ∧
    (∀ (before : List (String × Json)) (stem : String) (value : Json)
        (later : List (String × Json)),
      (bindEach Dict.empty (before ++ (stem, value) :: later)).1[before.length]? =
        some (stem ++ "_" ++ toString ((before.map Prod.fst).count stem + 1))) ∧
    ∀ (parameters : Parameters) (stem : String) (calls : List (String × Json)),
      received stem calls parameters =
        (parameters.bindEach (calls.filter fun call => call.1 = stem)).1 := by
  refine ⟨?_, ?_, ?_⟩
  · intro parameters stem
    have ends := probes_freeNumber parameters stem
    obtain ⟨positive, free, before⟩ := probes_iff.1 ends
    exact ⟨rfl, fun last => probes_one_iff, positive, free, before⟩
  · intro before stem value later
    have sameLength :=
      (binds_bindEach Dict.empty before).sameLength
    rw [List.length_map] at sameLength
    rw [bindEach_append, bindEach_cons, ← sameLength, List.getElem?_append_right (Nat.le_refl _),
      Nat.sub_self, List.getElem?_cons_zero]
    exact congrArg some (fresh_bindEach_empty before stem)
  · intro parameters stem calls
    exact received_eq_bindEach_filter calls fun number => rfl

/-- Stems that look like names of each other, and one that is empty. -/
def similarStems : List (String × Json) :=
  [("a", .int 1), ("a_1", .int 2), ("", .null), ("a", .int 3), ("a_1", .int 4), ("a", .int 5)]

/-- Parameters with a name that is free between others. -/
def gappedParameters : Parameters :=
  Dict.ofList [("a_1", .null), ("a_3", .null)]

/-- The number after a stem counts the values of that stem only, also where a name is taken. -/
theorem bindEach_numbers_stems_of_similarStems :
    (bindEach Dict.empty similarStems).1 =
        ["a_1", "a_1_1", "_1", "a_2", "a_1_2", "a_3"] ∧
      (bindEach Dict.empty similarStems).1[3]? =
        some ("a" ++ "_" ++ toString 2) ∧
      received "a" similarStems Dict.empty = ["a_1", "a_2", "a_3"] ∧
      freeNumber gappedParameters "a" = 2 ∧
      gappedParameters.contains ("a" ++ "_" ++ toString 1) = true := by
  obtain ⟨search, numbers, receives⟩ := bindEach_numbers_stems
  obtain ⟨-, -, -, -, taken⟩ := search gappedParameters "a"
  refine ⟨rfl, ?_, ?_, rfl, ?_⟩
  · exact numbers (similarStems.take 3) "a" (.int 3) (similarStems.drop 4)
  · exact (receives Dict.empty "a" similarStems).trans rfl
  · exact taken 1 (by decide) (by decide)

end Parameters

end WhereClause
