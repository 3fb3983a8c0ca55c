import WhereClause.Proofs.Distribution.Assembly
import WhereClause.Proofs.GroupTree

/-!
# The value of an assembled tree

Main statements: a node has the value of its items combined, as long as it is a conjunction or no
two of its conditions have the same group; and every condition of the tree is a unit, negated or
not.
-/

namespace WhereClause

namespace Item

/-- The value of an item. -/
def value (truth : String → Truth) : Item → Truth
  | .condition _ phrase => phrase.valueOrTrue truth
  | .subtree tree => tree.value (GroupEntry.value truth)

/-- The group of a condition. -/
def owner? : Item → Option String
  | .condition owner _ => some owner
  | .subtree _ => none

theorem owner?_denied (item : Item) : item.denied.owner? = item.owner? := by
  cases item <;> rfl

end Item

/-- The values that a node combines. -/
def GroupTree.operands (truth : String → Truth) (tree : PhraseTree) : List Truth :=
  tree.entries.map (GroupEntry.value truth) ++
    GroupTree.values (GroupEntry.value truth) tree.children

theorem GroupTree.value_eq (truth : String → Truth) (tree : PhraseTree) :
    tree.value (GroupEntry.value truth) =
      (tree.connective.combine? (tree.operands truth)).getD .true := by
  cases tree
  rfl

theorem GroupTree.operands_eq_nil_iff (truth : String → Truth) (tree : PhraseTree) :
    tree.operands truth = [] ↔ tree.isBare := by
  rcases tree with ⟨connective, _ | ⟨entry, entries⟩, _ | ⟨child, children⟩⟩ <;>
    simp [operands, values, isBare]

namespace Item

/-- An item is one more operand, unless it joins the entry of a group in a disjunction. -/
theorem combine_place
    (truth : String → Truth) {tree : PhraseTree} {item : Item}
    (apart : tree.connective = .conjunction ∨
      ∀ owner, item.owner? = some owner → owner ∉ tree.entries.map GroupEntry.name) :
    tree.connective.combine ((place tree item).operands truth) =
      tree.connective.apply (item.value truth)
        (tree.connective.combine (tree.operands truth)) := by
  cases item with
  | condition owner phrase =>
      rcases apart with conjunction | fresh
      · simp only [GroupTree.operands, place, GroupTree.push, GroupTree.extend,
          Connective.combine_append, conjunction, GroupEntry.combine_extend]
        exact Truth.and_assoc _ _ _
      · have absent := fresh owner rfl
        have single : GroupEntry.value truth ⟨owner, [phrase]⟩ = phrase.valueOrTrue truth := by
          simp [GroupEntry.value]
        simp only [GroupTree.operands, place, GroupTree.push, GroupTree.extend,
          GroupEntry.extend_of_not_mem absent, List.map_append, List.append_assoc,
          List.map_singleton, List.singleton_append, Connective.combine_append,
          Connective.combine_cons, single]
        rw [← Connective.apply_assoc, Connective.apply_comm _ _ (phrase.valueOrTrue truth),
          Connective.apply_assoc]
        rfl
  | subtree child =>
      simp only [GroupTree.operands, place, GroupTree.withChild, GroupTree.values_append,
        ← List.append_assoc, Connective.combine_append]
      rw [Connective.apply_comm _ (value truth (.subtree child))]
      simp [GroupTree.values, value]

theorem names_place
    {tree : PhraseTree} {item : Item}
    (fresh : ∀ owner, item.owner? = some owner →
      owner ∉ tree.entries.map GroupEntry.name) :
    (place tree item).entries.map GroupEntry.name =
      tree.entries.map GroupEntry.name ++ item.owner?.toList := by
  cases item with
  | condition owner phrase =>
      simp [place, GroupTree.push, GroupTree.extend,
        GroupEntry.extend_of_not_mem (fresh owner rfl), owner?]
  | subtree child =>
      simp [place, GroupTree.withChild, owner?]

theorem isBare_place (tree : PhraseTree) (item : Item) : (place tree item).isBare = false := by
  cases item with
  | condition owner phrase =>
      cases found : tree.entries with
      | nil =>
          simp [place, GroupTree.push, GroupTree.extend, GroupTree.isBare, found,
            GroupEntry.extend]
      | cons entry rest =>
          simp only [place, GroupTree.push, GroupTree.extend, GroupTree.isBare, found,
            GroupEntry.extend]
          split <;> rfl
  | subtree child =>
      simp [place, GroupTree.withChild, GroupTree.isBare]

theorem connective_place (tree : PhraseTree) (item : Item) :
    (place tree item).connective = tree.connective := by
  cases item <;> rfl

theorem connective_foldl_place (items : List Item) (tree : PhraseTree) :
    (items.foldl place tree).connective = tree.connective := by
  induction items generalizing tree with
  | nil =>
      rfl
  | cons item rest inductionHypothesis =>
      rw [List.foldl_cons, inductionHypothesis, connective_place]

theorem isBare_foldl_place (items : List Item) (tree : PhraseTree) :
    (items.foldl place tree).isBare = (items.isEmpty && tree.isBare) := by
  induction items generalizing tree with
  | nil =>
      rfl
  | cons item rest inductionHypothesis =>
      rw [List.foldl_cons, inductionHypothesis, isBare_place, Bool.and_false]
      rfl

theorem filterMap_owner?_cons (item : Item) (rest : List Item) :
    (item :: rest).filterMap owner? = item.owner?.toList ++ rest.filterMap owner? := by
  cases item <;> rfl

/-- The items that are placed are combined with what the node holds. -/
theorem combine_foldl_place
    (truth : String → Truth) {items : List Item} {tree : PhraseTree}
    (apart : tree.connective = .conjunction ∨
      (tree.entries.map GroupEntry.name ++ items.filterMap owner?).Nodup) :
    tree.connective.combine ((items.foldl place tree).operands truth) =
      tree.connective.apply (tree.connective.combine (items.map (value truth)))
        (tree.connective.combine (tree.operands truth)) := by
  induction items generalizing tree with
  | nil =>
      simp
  | cons item rest inductionHypothesis =>
      rw [filterMap_owner?_cons] at apart
      have fresh :
          tree.connective = .conjunction ∨
            ∀ owner, item.owner? = some owner →
              owner ∉ tree.entries.map GroupEntry.name := by
        refine apart.imp_right fun nodup owner isOwner member => ?_
        have own : owner ∈ item.owner?.toList ++ rest.filterMap owner? := by
          simp [isOwner]
        exact (List.nodup_append.1 nodup).2.2 owner member owner own rfl
      have later :
          (place tree item).connective = .conjunction ∨
            ((place tree item).entries.map GroupEntry.name ++
              rest.filterMap owner?).Nodup := by
        rw [connective_place]
        rcases apart with conjunction | nodup
        · exact Or.inl conjunction
        · rcases fresh with conjunction | absent
          · exact Or.inl conjunction
          · rw [names_place absent, List.append_assoc]
            exact Or.inr nodup
      have tail := inductionHypothesis later
      rw [connective_place] at tail
      rw [List.foldl_cons, tail, combine_place truth fresh, List.map_cons,
        Connective.combine_cons, ← Connective.apply_assoc,
        Connective.apply_comm _ (tree.connective.combine (rest.map (value truth)))]

theorem isBare_assemble (connective : Connective) (items : List Item) :
    (assemble connective items).isBare = items.isEmpty := by
  rw [assemble, isBare_foldl_place]
  exact Bool.and_true _

/-- A node combines the values of its items. -/
theorem value_assemble
    (truth : String → Truth) {connective : Connective} {items : List Item}
    (apart : connective = .conjunction ∨ (items.filterMap owner?).Nodup) :
    (assemble connective items).value (GroupEntry.value truth) =
      (connective.combine? (items.map (value truth))).getD .true := by
  have same : (assemble connective items).connective = connective :=
    connective_foldl_place items (GroupTree.bare connective)
  have bare : (assemble connective items).operands truth = [] ↔ items = [] := by
    rw [GroupTree.operands_eq_nil_iff, isBare_assemble, List.isEmpty_iff]
  have combined :
      connective.combine ((assemble connective items).operands truth) =
        connective.apply (connective.combine (items.map (value truth)))
          (connective.combine []) :=
    combine_foldl_place truth (show (GroupTree.bare connective).connective = _ ∨ _ from apart)
  rw [GroupTree.value_eq, same, Connective.combine?_eq, Connective.combine?_eq, combined]
  by_cases empty : items = []
  · rw [if_pos (bare.2 empty)]
    simp [empty]
  · rw [if_neg (mt bare.1 empty)]
    simp [empty]

end Item

namespace Phrase.IsFactor

theorem atom (text : String) : (Phrase.atom text).IsFactor := fun truth =>
  ⟨truth text, (Reads.atom text).unit⟩

theorem denied {phrase : Phrase} (factor : phrase.IsFactor) : phrase.denied.IsFactor := by
  intro truth
  obtain ⟨value, reading⟩ := factor truth
  exact ⟨value.not, reading.toSum.enclosed.unit.negated⟩

theorem valueOrTrue_atom (text : String) (truth : String → Truth) :
    (Phrase.atom text).valueOrTrue truth = truth text :=
  ((atom text).reads truth).unique (Reads.atom text).unit

theorem valueOrTrue_denied
    {phrase : Phrase} (factor : phrase.IsFactor) (truth : String → Truth) :
    phrase.denied.valueOrTrue truth = (phrase.valueOrTrue truth).not := by
  have negated := (factor.reads truth).toSum.enclosed.unit.negated
  exact (factor.denied.reads truth).unique negated

end Phrase.IsFactor

/-- Whether every condition of a tree is a unit, negated or not. -/
def GroupTree.HasFactors (tree : PhraseTree) : Prop :=
  ∀ entry ∈ tree.allEntries, ∀ condition ∈ entry.conditions, condition.IsFactor

namespace Item

/-- Whether every condition of an item is a unit, negated or not. -/
def HasFactors : Item → Prop
  | .condition _ phrase => phrase.IsFactor
  | .subtree tree => tree.HasFactors

theorem hasFactors_place
    {tree : PhraseTree} {item : Item} (before : tree.HasFactors) (added : item.HasFactors) :
    (place tree item).HasFactors := by
  obtain ⟨connective, entries, children⟩ := tree
  rw [GroupTree.HasFactors, GroupTree.allEntries, List.forall_mem_append] at before
  obtain ⟨ofEntries, ofChildren⟩ := before
  cases item with
  | condition owner phrase =>
      rw [place, GroupTree.push, GroupTree.extend, GroupTree.HasFactors,
        GroupTree.allEntries, List.forall_mem_append]
      refine ⟨GroupEntry.forall_conditions_extend ofEntries ?_, ofChildren⟩
      exact List.forall_mem_singleton.2 added
  | subtree child =>
      rw [place, GroupTree.withChild, GroupTree.HasFactors, GroupTree.allEntries,
        GroupTree.entriesOfAll_append, List.forall_mem_append, List.forall_mem_append]
      refine ⟨ofEntries, ofChildren, ?_⟩
      rw [GroupTree.entriesOfAll, GroupTree.entriesOfAll, List.append_nil]
      exact added

theorem hasFactors_assemble
    (connective : Connective) {items : List Item}
    (each : ∀ item ∈ items, item.HasFactors) : (assemble connective items).HasFactors := by
  have bare : (GroupTree.bare connective : PhraseTree).HasFactors := by
    simp [GroupTree.HasFactors, GroupTree.bare, GroupTree.allEntries,
      GroupTree.entriesOfAll]
  rw [assemble]
  generalize (GroupTree.bare connective : PhraseTree) = tree at bare
  induction items generalizing tree with
  | nil =>
      exact bare
  | cons item rest inductionHypothesis =>
      obtain ⟨ofItem, ofRest⟩ := List.forall_mem_cons.1 each
      exact inductionHypothesis ofRest _ (hasFactors_place bare ofItem)

theorem HasFactors.denied {item : Item} (factors : item.HasFactors) :
    item.denied.HasFactors := by
  cases item with
  | condition owner phrase =>
      exact Phrase.IsFactor.denied factors
  | subtree tree =>
      exact factors

end Item

theorem Item.isKept_hasFactors : Item.IsKept Item.HasFactors fun _ => True where
  leaf owned _ := Phrase.IsFactor.atom owned.text
  denied _ factors := factors.denied
  assembled connective _ _ each := Item.hasFactors_assemble connective each

namespace Formula

/-- Every condition that a formula adds is a unit, negated or not. -/
theorem hasFactors_items (formula : Formula Owned) :
    ∀ item ∈ formula.items, item.HasFactors :=
  forall_items Item.isKept_hasFactors formula fun _ _ => trivial

theorem hasFactors_itemsOfAll (formulas : List (Formula Owned)) :
    ∀ item ∈ itemsOfAll formulas, item.HasFactors :=
  forall_itemsOfAll Item.isKept_hasFactors formulas fun _ _ => trivial

end Formula

end WhereClause
