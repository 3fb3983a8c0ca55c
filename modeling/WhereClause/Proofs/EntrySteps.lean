import WhereClause.Proofs.Entries

/-!
# Entries built step by step

In a step an entry is touched, or a condition is pushed to it. Main statement: any run of steps
groups the conditions by name, each name where it is first touched, and steps on different entries
that are there may be exchanged.
-/

namespace WhereClause

universe u

variable {α : Type u}

/-- A step in the building of a node. -/
inductive EntryStep (α : Type u) where
  | touch (name : String)
  | push (name : String) (condition : α)
  deriving DecidableEq, Repr

namespace EntryStep

/-- The name of the entry that a step works on. -/
def name : EntryStep α → String
  | .touch name => name
  | .push name _ => name

/-- The conditions that a step adds to its entry. -/
def added : EntryStep α → List α
  | .touch _ => []
  | .push _ condition => [condition]

def perform (step : EntryStep α) (tree : GroupTree α) : GroupTree α :=
  match step with
  | .touch name => tree.touch name
  | .push name condition => tree.push name condition

/-- Every step extends the entry of its name. -/
theorem perform_eq_extend (step : EntryStep α) (tree : GroupTree α) :
    step.perform tree = tree.extend step.name step.added := by
  cases step with
  | touch name | push name condition =>
      rfl

end EntryStep

namespace GroupEntry

/-- Entries of different names can be extended in either order, unless both are new. -/
theorem extend_comm
    {left right : String} (different : left ≠ right) (leftAdded rightAdded : List α)
    {entries : List (GroupEntry α)} (known : left ∈ entries.map GroupEntry.name) :
    extend right rightAdded (extend left leftAdded entries) =
      extend left leftAdded (extend right rightAdded entries) := by
  induction entries with
  | nil =>
      cases known
  | cons entry rest inductionHypothesis =>
      by_cases isLeft : entry.name = left
      · simp [extend, isLeft, different]
      · have knownLater : left ∈ rest.map GroupEntry.name := by
          rw [List.map_cons, List.mem_cons] at known
          exact known.resolve_left (Ne.symm isLeft)
        by_cases isRight : entry.name = right
        · simp [extend, isRight, Ne.symm different]
        · simp [extend, isLeft, isRight, inductionHypothesis knownLater]

theorem find?_map
    (names : List String) (held : String → List α) (candidate : String) :
    find? candidate (names.map fun name => ⟨name, held name⟩) =
      if candidate ∈ names then some ⟨candidate, held candidate⟩ else none := by
  induction names with
  | nil =>
      rfl
  | cons name rest inductionHypothesis =>
      rw [List.map_cons, find?, inductionHypothesis]
      by_cases same : name = candidate
      · simp [same]
      · simp [same, Ne.symm same]

end GroupEntry

namespace EntryStep

/-- Performs steps one after the other. -/
def performAll (steps : List (EntryStep α)) (tree : GroupTree α) : GroupTree α :=
  steps.foldl (fun built step => step.perform built) tree

/-- The names of the entries that steps touch or push to, in order. -/
def touched (steps : List (EntryStep α)) : List String :=
  steps.map name

/-- The conditions that steps push under a name, in order. -/
def pushedUnder (candidate : String) : List (EntryStep α) → List α
  | [] => []
  | .touch _ :: rest => pushedUnder candidate rest
  | .push name condition :: rest =>
      if name = candidate then condition :: pushedUnder candidate rest
      else pushedUnder candidate rest

theorem performAll_cons
    (step : EntryStep α) (rest : List (EntryStep α)) (tree : GroupTree α) :
    performAll (step :: rest) tree = performAll rest (step.perform tree) :=
  rfl

theorem performAll_append (before later : List (EntryStep α)) (tree : GroupTree α) :
    performAll (before ++ later) tree = performAll later (performAll before tree) :=
  List.foldl_append

/-- What steps do is to extend entries; the connective and the children stay as they are. -/
theorem performAll_eq (steps : List (EntryStep α)) (tree : GroupTree α) :
    performAll steps tree =
      ⟨tree.connective,
        (steps.map fun step => (step.name, step.added)).foldl
          (fun entries addition => GroupEntry.extend addition.1 addition.2 entries) tree.entries,
        tree.children⟩ := by
  induction steps generalizing tree with
  | nil =>
      cases tree
      rfl
  | cons step rest inductionHypothesis =>
      rw [performAll_cons, step.perform_eq_extend, inductionHypothesis]
      rfl

theorem entries_performAll_bare (connective : Connective) (steps : List (EntryStep α)) :
    (performAll steps (GroupTree.bare connective)).entries =
      GroupEntry.collect (steps.map fun step => (step.name, step.added)) := by
  rw [performAll_eq, ← GroupEntry.foldl_extend]
  rfl

theorem addedUnder_eq_pushedUnder (candidate : String) (steps : List (EntryStep α)) :
    GroupEntry.addedUnder candidate (steps.map fun step => (step.name, step.added)) =
      pushedUnder candidate steps := by
  induction steps with
  | nil =>
      rfl
  | cons step rest inductionHypothesis =>
      rw [GroupEntry.addedUnder] at inductionHypothesis ⊢
      rw [List.map_cons, List.filter_cons]
      cases step with
      | touch other =>
          by_cases same : other = candidate <;>
            simpa [same, name, added, pushedUnder] using inductionHypothesis
      | push other condition =>
          by_cases same : other = candidate <;>
            simpa [same, name, added, pushedUnder] using inductionHypothesis

theorem map_name_performAll_bare (connective : Connective) (steps : List (EntryStep α)) :
    (performAll steps (GroupTree.bare connective)).entries.map GroupEntry.name =
      (touched steps).eraseDups := by
  rw [entries_performAll_bare, GroupEntry.map_name_collect, List.map_map]
  rfl

theorem entryNamed?_performAll_bare
    (connective : Connective) (steps : List (EntryStep α)) (candidate : String) :
    (performAll steps (GroupTree.bare connective)).entryNamed? candidate =
      if candidate ∈ touched steps then some ⟨candidate, pushedUnder candidate steps⟩
      else none := by
  rw [GroupTree.entryNamed?, entries_performAll_bare, GroupEntry.collect, GroupEntry.find?_map,
    addedUnder_eq_pushedUnder, List.map_map]
  simp only [List.mem_eraseDups]
  rfl

theorem perform_comm
    {first second : EntryStep α} (different : first.name ≠ second.name) {tree : GroupTree α}
    (known : first.name ∈ tree.entries.map GroupEntry.name) :
    second.perform (first.perform tree) = first.perform (second.perform tree) := by
  simp only [perform_eq_extend, GroupTree.extend]
  rw [GroupEntry.extend_comm different first.added second.added known]

/-- The node that any steps build from a bare one has an entry for each name that is touched,
in the order of first touches, with all conditions that are pushed under the name, in order. Its
connective stays and it has no children. Two steps on different names that have been touched
before may be exchanged. -/
theorem performAll_groups_conditions (connective : Connective) (steps : List (EntryStep α)) :
    (performAll steps (GroupTree.bare connective)).entries.map GroupEntry.name =
      (touched steps).eraseDups ∧
    ((performAll steps (GroupTree.bare connective)).entries.map GroupEntry.name).Nodup ∧
    (∀ name,
      (performAll steps (GroupTree.bare connective)).entryNamed? name =
        if name ∈ touched steps then some ⟨name, pushedUnder name steps⟩ else none) ∧
    (performAll steps (GroupTree.bare connective)).connective = connective ∧
    (performAll steps (GroupTree.bare connective)).children = [] ∧
    ∀ before first second later, steps = before ++ first :: second :: later →
      first.name ≠ second.name → first.name ∈ touched before → second.name ∈ touched before →
      performAll (before ++ second :: first :: later) (GroupTree.bare connective) =
        performAll steps (GroupTree.bare connective) := by
  have names := map_name_performAll_bare connective steps
  refine ⟨names, ?_, entryNamed?_performAll_bare connective steps, ?_, ?_, ?_⟩
  · rw [names]
    exact nodup_eraseDups _
  · rw [performAll_eq]
    rfl
  · rw [performAll_eq]
    rfl
  · rintro before first second later rfl different firstTouched -
    have known :
        first.name ∈
          (performAll before (GroupTree.bare connective)).entries.map GroupEntry.name := by
      rwa [map_name_performAll_bare, List.mem_eraseDups]
    simp only [performAll_append, performAll_cons]
    rw [perform_comm different known]

/-- Steps on three groups; the conditions of two of them come mixed. -/
def memberSteps : List (EntryStep String) :=
  [.touch "accounts", .push "members" "(m.bot = :isBot_1)",
    .push "accounts" "(a.plan = :plan_1)", .push "members" "(m.score > :score_1)",
    .touch "logs"]

/-- The third step and the fourth are on entries that are there, so either may come first. -/
theorem performAll_groups_conditions_of_memberSteps :
    ∃ node : GroupTree String,
      performAll memberSteps (GroupTree.bare .disjunction) = node ∧
      node.entries.map GroupEntry.name = ["accounts", "members", "logs"] ∧
      node.entryNamed? "members" =
        some ⟨"members", ["(m.bot = :isBot_1)", "(m.score > :score_1)"]⟩ ∧
      node.entryNamed? "logs" = some ⟨"logs", []⟩ ∧
      node.entryNamed? "orders" = none ∧
      performAll
        [.touch "accounts", .push "members" "(m.bot = :isBot_1)",
          .push "members" "(m.score > :score_1)", .push "accounts" "(a.plan = :plan_1)",
          .touch "logs"]
        (GroupTree.bare .disjunction) = node := by
  obtain ⟨names, -, held, -, -, exchange⟩ :=
    performAll_groups_conditions .disjunction memberSteps
  refine ⟨_, rfl, names, held "members", held "logs", held "orders", ?_⟩
  exact exchange (memberSteps.take 2) _ _ [.touch "logs"] rfl (by decide) (by decide) (by decide)

end EntryStep

end WhereClause
