import WhereClause.GroupTree
import WhereClause.Proofs.Reading

/-!
# The value of a tree of conditions

Each node combines the values of its entries and of its children. Main statement: a tree whose
conditions are closed or negated units renders to a phrase with its value.
-/

namespace WhereClause

universe u

/-- The value of a phrase; one that cannot be read counts as true. -/
def Phrase.valueOrTrue (truth : String → Truth) (phrase : Phrase) : Truth :=
  (phrase.value? truth).getD .true

/-- The value of an entry: all of its conditions have to hold. -/
def GroupEntry.value (truth : String → Truth) (entry : GroupEntry Phrase) : Truth :=
  Connective.conjunction.combine (entry.conditions.map (Phrase.valueOrTrue truth))

namespace GroupTree

variable {α : Type u}

mutual

/-- The value of a tree, given the values of its entries; a bare tree is true. -/
def value (ofEntry : GroupEntry α → Truth) : GroupTree α → Truth
  | ⟨connective, entries, children⟩ =>
      (connective.combine? (entries.map ofEntry ++ values ofEntry children)).getD .true

/-- The values of several trees. -/
def values (ofEntry : GroupEntry α → Truth) : List (GroupTree α) → List Truth
  | [] => []
  | tree :: rest => value ofEntry tree :: values ofEntry rest

end

mutual

/-- The entries of all nodes, those of a node before those of its children. -/
def allEntries : GroupTree α → List (GroupEntry α)
  | ⟨_, entries, children⟩ => entries ++ entriesOfAll children

def entriesOfAll : List (GroupTree α) → List (GroupEntry α)
  | [] => []
  | tree :: rest => allEntries tree ++ entriesOfAll rest

end

theorem values_append
    (ofEntry : GroupEntry α → Truth) (left right : List (GroupTree α)) :
    values ofEntry (left ++ right) = values ofEntry left ++ values ofEntry right := by
  induction left with
  | nil =>
      rfl
  | cons tree rest inductionHypothesis =>
      simp only [List.cons_append, values, inductionHypothesis]

theorem entriesOfAll_append (left right : List (GroupTree α)) :
    entriesOfAll (left ++ right) = entriesOfAll left ++ entriesOfAll right := by
  induction left with
  | nil =>
      rfl
  | cons tree rest inductionHypothesis =>
      simp only [List.cons_append, entriesOfAll, inductionHypothesis, List.append_assoc]

end GroupTree

namespace GroupEntry

variable {α : Type u} {name : String} {added : List α} {entries : List (GroupEntry α)}

theorem extend_of_not_mem (absent : name ∉ entries.map GroupEntry.name) :
    extend name added entries = entries ++ [⟨name, added⟩] := by
  induction entries with
  | nil =>
      rfl
  | cons entry rest inductionHypothesis =>
      simp only [List.map_cons, List.mem_cons, not_or] at absent
      obtain ⟨different, restAbsent⟩ := absent
      rw [extend, if_neg (Ne.symm different), inductionHypothesis restAbsent]
      rfl

theorem forall_conditions_extend
    {Holds : α → Prop}
    (before : ∀ entry ∈ entries, ∀ condition ∈ entry.conditions, Holds condition)
    (ofAdded : ∀ condition ∈ added, Holds condition) :
    ∀ entry ∈ extend name added entries, ∀ condition ∈ entry.conditions,
      Holds condition := by
  induction entries with
  | nil =>
      simpa [extend] using ofAdded
  | cons entry rest inductionHypothesis =>
      obtain ⟨ofEntry, ofRest⟩ := List.forall_mem_cons.1 before
      rw [extend]
      split
      · refine List.forall_mem_cons.2 ⟨?_, ofRest⟩
        exact List.forall_mem_append.2 ⟨ofEntry, ofAdded⟩
      · exact List.forall_mem_cons.2 ⟨ofEntry, inductionHypothesis ofRest⟩

/-- A condition that is added to an entry is one more conjunct of the whole. -/
theorem combine_extend
    (truth : String → Truth) (name : String) (phrase : Phrase)
    (entries : List (GroupEntry Phrase)) :
    Connective.conjunction.combine ((extend name [phrase] entries).map (value truth)) =
      (phrase.valueOrTrue truth).and
        (Connective.conjunction.combine (entries.map (value truth))) := by
  induction entries with
  | nil =>
      simp [extend, value, Connective.apply, Connective.neutral]
  | cons entry rest inductionHypothesis =>
      rw [extend]
      split
      · simp only [List.map_cons, Connective.combine_cons, value, List.map_append,
          Connective.combine_append, List.map_nil, Connective.combine_nil,
          Connective.apply_neutral]
        rw [Connective.apply_comm _ _ (phrase.valueOrTrue truth), Connective.apply_assoc]
        rfl
      · rw [List.map_cons, Connective.combine_cons, inductionHypothesis, List.map_cons,
          Connective.combine_cons]
        simp only [Connective.apply]
        rw [← Truth.and_assoc, Truth.and_comm _ (phrase.valueOrTrue truth),
          Truth.and_assoc]

end GroupEntry

/-- Operands that are united, where none are true. -/
theorem Reads.united
    {truth : String → Truth} (connective : Connective) {rank : Rank}
    (notSum : rank ≠ .sum) {parts : List Phrase} {values : List Truth}
    (readings : List.Forall₂ (Reads truth rank) parts values) :
    Reads truth rank (Phrase.united connective parts)
      ((connective.combine? values).getD .true) := by
  have related := Reads.united? connective notSum readings
  rw [Phrase.united]
  generalize Phrase.united? connective parts = phrase at related ⊢
  generalize connective.combine? values = value at related ⊢
  cases related with
  | none =>
      exact Reads.tautology.ofUnit
  | some reading =>
      exact reading

namespace GroupTree

variable {α : Type u} {truth : String → Truth}
variable {ofEntry : GroupEntry α → Phrase} {valueOf : GroupEntry α → Truth}

mutual

/-- A tree renders to its value, if its entries are rendered to theirs. -/
theorem reads_render
    (tree : GroupTree α)
    (readings : ∀ entry ∈ tree.allEntries,
      Reads truth .factor (ofEntry entry) (valueOf entry)) :
    Reads truth .factor (tree.render ofEntry) (tree.value valueOf) := by
  cases tree with
  | mk connective entries children =>
      rw [allEntries] at readings
      have ofEntries :
          List.Forall₂ (Reads truth .factor) (entries.map ofEntry)
            (entries.map valueOf) := by
        rw [List.forall₂_map_left_iff, List.forall₂_map_right_iff]
        exact List.forall₂_same.2 fun entry member =>
          readings entry (List.mem_append_left _ member)
      have ofChildren :=
        reads_renderAll children fun entry member =>
          readings entry (List.mem_append_right _ member)
      rw [render, value]
      exact Reads.united connective (by decide) (List.rel_append ofEntries ofChildren)

theorem reads_renderAll
    (trees : List (GroupTree α))
    (readings : ∀ entry ∈ entriesOfAll trees,
      Reads truth .factor (ofEntry entry) (valueOf entry)) :
    List.Forall₂ (Reads truth .factor) (renderAll ofEntry trees)
      (values valueOf trees) := by
  cases trees with
  | nil =>
      exact .nil
  | cons tree rest =>
      rw [entriesOfAll] at readings
      refine .cons (reads_render tree fun entry member => ?_)
        (reads_renderAll rest fun entry member => ?_)
      · exact readings entry (List.mem_append_left _ member)
      · exact readings entry (List.mem_append_right _ member)

end

end GroupTree

/-- Whether a phrase is one closed unit, or such a unit negated. -/
def Phrase.IsFactor (phrase : Phrase) : Prop :=
  ∀ truth, ∃ value, Reads truth .factor phrase value

theorem Phrase.IsFactor.reads
    {phrase : Phrase} (factor : phrase.IsFactor) (truth : String → Truth) :
    Reads truth .factor phrase (phrase.valueOrTrue truth) := by
  obtain ⟨value, reading⟩ := factor truth
  rw [Phrase.valueOrTrue, reading.toSum.value?_eq]
  exact reading

theorem GroupEntry.reads_joined
    (truth : String → Truth) {entry : GroupEntry Phrase}
    (factors : ∀ condition ∈ entry.conditions, condition.IsFactor) :
    Reads truth .factor entry.joined (entry.value truth) := by
  have readings :
      List.Forall₂ (Reads truth .factor) entry.conditions
        (entry.conditions.map (Phrase.valueOrTrue truth)) := by
    rw [List.forall₂_map_right_iff]
    exact List.forall₂_same.2 fun condition member =>
      (factors condition member).reads truth
  have united := Reads.united .conjunction (by decide) readings
  rw [Connective.getD_combine?_conjunction] at united
  exact united

/-- A tree of conditions that are units, negated or not, has the value that its rendering
is read to. -/
theorem GroupTree.value?_render
    {tree : GroupTree Phrase}
    (factors : ∀ entry ∈ tree.allEntries, ∀ condition ∈ entry.conditions,
      condition.IsFactor)
    (truth : String → Truth) :
    (tree.render GroupEntry.joined).value? truth =
      some (tree.value (GroupEntry.value truth)) := by
  have reading :=
    reads_render tree fun entry member =>
      GroupEntry.reads_joined truth (factors entry member)
  exact reading.toSum.value?_eq

end WhereClause
