import WhereClause.Proofs.Condition
import WhereClause.Proofs.Distribution.Node
import WhereClause.Proofs.GroupNames
import WhereClause.Proofs.Rendering

/-!
# What a split filter leaves in its tree

A filter without conditions adds nothing, so that no part of the tree is vacuous. Main statement:
the tree names the groups that own the conditions of the filter, it is written as a tautology
exactly if there are none, and no node within it has an entry or a child without conditions.
-/

namespace WhereClause

/-- Whether there is a blank in the text, as there is none in a tautology. -/
def Phrase.HasBlank (phrase : Phrase) : Prop :=
  ' ' ∈ phrase.text.toList

namespace Phrase

theorem HasBlank.ne_tautology {phrase : Phrase} (blank : phrase.HasBlank) :
    phrase.text ≠ "(1=1)" := by
  intro same
  rw [HasBlank, same] at blank
  exact absurd blank (by decide)

theorem HasBlank.denied {phrase : Phrase} (blank : phrase.HasBlank) :
    phrase.denied.HasBlank := by
  rw [HasBlank, text_denied, String.toList_append, String.toList_append]
  exact List.mem_append_left _ (List.mem_append_right _ blank)

/-- Several operands have the blanks around their connective between them. -/
theorem hasBlank_united
    (connective : Connective) {parts : List Phrase} (nonempty : parts ≠ [])
    (blanks : ∀ part ∈ parts, part.HasBlank) : (united connective parts).HasBlank := by
  rcases parts with _ | ⟨part, _ | ⟨next, others⟩⟩
  · exact absurd rfl nonempty
  · exact blanks part (List.mem_singleton_self part)
  · have partBlank : ' ' ∈ part.text.toList := blanks part List.mem_cons_self
    have several :
        united connective (part :: next :: others) =
          enclosed (part ++ .junction connective :: joined connective (next :: others)) := rfl
    rw [HasBlank, several, text_enclosed, text_append]
    simp [partBlank]

end Phrase

/-- The field and the comparator of a condition are written with a blank between them. -/
theorem Condition.blank_mem_text
    (condition : Condition) (document : Bool) (column : String) (names : List String) :
    ' ' ∈ (condition.text document column names).toList := by
  simp [text]

namespace GroupTree

variable {α : Type}

mutual

/-- The nodes of a tree, each before those within it. -/
def subtrees : GroupTree α → List (GroupTree α)
  | ⟨connective, entries, children⟩ =>
      ⟨connective, entries, children⟩ :: subtreesOfAll children

def subtreesOfAll : List (GroupTree α) → List (GroupTree α)
  | [] => []
  | tree :: rest => subtrees tree ++ subtreesOfAll rest

end

theorem self_mem_subtrees (tree : GroupTree α) : tree ∈ tree.subtrees := by
  cases tree
  exact List.mem_cons_self

theorem mem_subtreesOfAll_iff {trees : List (GroupTree α)} {node : GroupTree α} :
    node ∈ subtreesOfAll trees ↔ ∃ tree ∈ trees, node ∈ tree.subtrees := by
  induction trees with
  | nil =>
      simp [subtreesOfAll]
  | cons tree rest inductionHypothesis =>
      simp [subtreesOfAll, inductionHypothesis]

/-- Whether a node has each name once and no part without conditions, and is not written as a
tautology. -/
structure IsTidy (node : PhraseTree) : Prop where
  notBare : node.isBare = false
  distinct : (node.entries.map GroupEntry.name).Nodup
  filled : ∀ entry ∈ node.entries, entry.conditions ≠ []
  contributing : ∀ child ∈ node.children, child.isBare = false
  blank : (node.render GroupEntry.joined).HasBlank

end GroupTree

namespace GroupEntry

variable {α : Type} {additions : List (String × List α)}

theorem mem_addedUnder_iff {name : String} {condition : α} :
    condition ∈ addedUnder name additions ↔
      ∃ added, (name, added) ∈ additions ∧ condition ∈ added := by
  simp only [addedUnder, List.mem_flatMap, List.mem_filter, decide_eq_true_eq]
  constructor
  · rintro ⟨⟨other, added⟩, ⟨member, rfl⟩, held⟩
    exact ⟨added, member, held⟩
  · rintro ⟨added, member, held⟩
    exact ⟨(name, added), ⟨member, rfl⟩, held⟩

/-- What is added condition by condition is held by entries that are not empty. -/
theorem conditions_collect
    {conditions : List (String × α)} {entry : GroupEntry α}
    (member : entry ∈ collect (conditions.map fun condition => (condition.1, [condition.2]))) :
    entry.conditions ≠ [] ∧
      ∀ condition ∈ entry.conditions, (entry.name, condition) ∈ conditions := by
  rw [collect, List.mem_map] at member
  obtain ⟨name, named, rfl⟩ := member
  have held (condition : α) :
      condition ∈ addedUnder name (conditions.map fun condition => (condition.1, [condition.2])) ↔
        (name, condition) ∈ conditions := by
    rw [mem_addedUnder_iff]
    constructor
    · rintro ⟨added, given, isAdded⟩
      obtain ⟨⟨other, only⟩, isGiven, same⟩ := List.mem_map.1 given
      cases same
      rw [List.mem_singleton.1 isAdded]
      exact isGiven
    · intro given
      exact ⟨[condition], List.mem_map_of_mem given, List.mem_singleton_self condition⟩
  refine ⟨?_, fun condition isHeld => (held condition).1 isHeld⟩
  rw [List.mem_eraseDups, List.map_map, List.mem_map] at named
  obtain ⟨⟨other, condition⟩, given, rfl⟩ := named
  exact List.ne_nil_of_mem ((held condition).2 given)

end GroupEntry

namespace Item

/-! ## Tidy items -/

/-- Whether the condition of an item has a blank, and the nodes of its tree are tidy. -/
def IsTidy : Item → Prop
  | .condition _ phrase => phrase.HasBlank
  | .subtree tree => ∀ node ∈ tree.subtrees, node.IsTidy

variable {connective : Connective} {items : List Item}

theorem mem_filterMap_condition? {owner : String} {phrase : Phrase} :
    (owner, phrase) ∈ items.filterMap condition? ↔ .condition owner phrase ∈ items := by
  rw [List.mem_filterMap]
  constructor
  · rintro ⟨item, member, found⟩
    cases item with
    | condition _ _ =>
        cases found
        exact member
    | subtree _ =>
        cases found
  · intro member
    exact ⟨.condition owner phrase, member, rfl⟩

theorem mem_filterMap_subtree? {tree : PhraseTree} :
    tree ∈ items.filterMap subtree? ↔ .subtree tree ∈ items := by
  rw [List.mem_filterMap]
  constructor
  · rintro ⟨item, member, found⟩
    cases item with
    | condition _ _ =>
        cases found
    | subtree _ =>
        cases found
        exact member
  · intro member
    exact ⟨.subtree tree, member, rfl⟩

/-- A node of tidy items is tidy, unless it is bare. -/
theorem isTidy_assemble
    (notBare : (assemble connective items).isBare = false)
    (each : ∀ item ∈ items, item.IsTidy) : (assemble connective items).IsTidy := by
  have entryTidy : ∀ entry ∈ (assemble connective items).entries,
      entry.conditions ≠ [] ∧ ∀ condition ∈ entry.conditions, condition.HasBlank := by
    intro entry member
    rw [assemble_eq] at member
    obtain ⟨filled, given⟩ := GroupEntry.conditions_collect member
    refine ⟨filled, fun condition held => ?_⟩
    exact each _ (mem_filterMap_condition?.1 (given condition held))
  have childTidy : ∀ child ∈ (assemble connective items).children, child.IsTidy := by
    intro child member
    rw [assemble_eq] at member
    have childTidies := each _ (mem_filterMap_subtree?.1 member)
    exact childTidies child child.self_mem_subtrees
  refine ⟨notBare, ?_, fun entry member => (entryTidy entry member).1,
    fun child member => (childTidy child member).notBare, ?_⟩
  · rw [assemble_eq, GroupEntry.map_name_collect]
    exact nodup_eraseDups _
  · generalize assemble connective items = node at notBare entryTidy childTidy
    obtain ⟨nodeConnective, entries, children⟩ := node
    rw [GroupTree.render, GroupTree.renderAll_eq_map]
    apply Phrase.hasBlank_united
    · intro none
      simp [GroupTree.isBare] at none notBare
      exact notBare none.1 none.2
    · rw [List.forall_mem_append, List.forall_mem_map, List.forall_mem_map]
      refine ⟨fun entry member => ?_, fun child member => (childTidy child member).blank⟩
      obtain ⟨filled, blanks⟩ := entryTidy entry member
      exact Phrase.hasBlank_united .conjunction filled blanks

theorem forall_subtrees_assemble
    (notBare : (assemble connective items).isBare = false)
    (each : ∀ item ∈ items, item.IsTidy) :
    ∀ node ∈ (assemble connective items).subtrees, node.IsTidy := by
  have root := isTidy_assemble notBare each
  rw [assemble_eq] at root ⊢
  intro node member
  rcases List.mem_cons.1 member with isRoot | isWithin
  · rw [isRoot]
    exact root
  · obtain ⟨child, isChild, within⟩ := GroupTree.mem_subtreesOfAll_iff.1 isWithin
    have childTidies := each _ (mem_filterMap_subtree?.1 isChild)
    exact childTidies node within

theorem isKept_isTidy : IsKept IsTidy fun owned => ' ' ∈ owned.text.toList where
  leaf owned blank := by
    have same : (Phrase.atom owned.text).text = owned.text := String.append_empty
    rw [IsTidy, Phrase.HasBlank, same]
    exact blank
  denied item tidy := by
    cases item with
    | condition owner phrase =>
        exact Phrase.HasBlank.denied tidy
    | subtree tree =>
        exact tidy
  assembled connective items notBare each := forall_subtrees_assemble notBare each

/-- The groups that an item names. -/
def names : Item → List String
  | .condition owner _ => [owner]
  | .subtree tree => tree.allEntries.map GroupEntry.name

theorem names_denied (item : Item) : item.denied.names = item.names := by
  cases item <;> rfl

theorem mem_names_assemble_iff (name : String) (connective : Connective) (items : List Item) :
    name ∈ (assemble connective items).allEntries.map GroupEntry.name ↔
      ∃ item ∈ items, name ∈ item.names := by
  rw [assemble_eq, GroupTree.allEntries, List.map_append, List.mem_append,
    GroupEntry.map_name_collect, List.mem_eraseDups, List.map_map]
  induction items with
  | nil =>
      simp [GroupTree.entriesOfAll]
  | cons item rest inductionHypothesis =>
      rw [List.exists_mem_cons_iff, ← inductionHypothesis]
      cases item with
      | condition owner phrase =>
          have conditions : (Item.condition owner phrase :: rest).filterMap condition? =
              (owner, phrase) :: rest.filterMap condition? := rfl
          have subtrees : (Item.condition owner phrase :: rest).filterMap subtree? =
              rest.filterMap subtree? := rfl
          rw [conditions, subtrees, List.map_cons, List.mem_cons, or_assoc, names,
            List.mem_singleton]
          rfl
      | subtree tree =>
          have conditions : (Item.subtree tree :: rest).filterMap condition? =
              rest.filterMap condition? := rfl
          have subtrees : (Item.subtree tree :: rest).filterMap subtree? =
              tree :: rest.filterMap subtree? := rfl
          rw [conditions, subtrees, GroupTree.entriesOfAll, List.map_append, List.mem_append,
            or_left_comm, names]

theorem isKept_names : IsKept (fun item => item.names ≠ []) fun _ => True where
  leaf owned _ := List.cons_ne_nil owned.owner []
  denied item named := by
    rw [names_denied]
    exact named
  assembled connective items notBare each := by
    cases items with
    | nil =>
        cases notBare
    | cons item rest =>
        have named := each item List.mem_cons_self
        obtain ⟨name, others, names⟩ := List.exists_cons_of_ne_nil named
        have member := (mem_names_assemble_iff name connective (item :: rest)).2
          ⟨item, List.mem_cons_self, by simp [names]⟩
        exact List.ne_nil_of_mem member

end Item

namespace Formula

mutual

/-- The items that a formula adds name the owners of its leaves. -/
theorem mem_names_items_iff (name : String) (formula : Formula Owned) :
    (∃ item ∈ formula.items, name ∈ item.names) ↔
      ∃ owned ∈ formula.leaves, owned.owner = name := by
  cases formula with
  | all conjuncts =>
      exact mem_names_itemsOfConjuncts_iff name conjuncts

theorem mem_names_itemsOfConjunct_iff (name : String) (conjunct : Conjunct Owned) :
    (∃ item ∈ itemsOfConjunct conjunct, name ∈ item.names) ↔
      ∃ owned ∈ leavesOfConjunct conjunct, owned.owner = name := by
  cases conjunct with
  | set connective children =>
      have ofChildren := mem_names_itemsOfAll_iff name children
      rw [itemsOfConjunct, leavesOfConjunct, ← ofChildren]
      by_cases bare : (Item.assemble connective (itemsOfAll children)).isBare
      · have none := bare
        rw [Item.isBare_assemble, List.isEmpty_iff] at none
        rw [if_pos bare, none]
      · rw [if_neg bare, ← Item.mem_names_assemble_iff name connective (itemsOfAll children)]
        simp only [List.mem_singleton, exists_eq_left, Item.names]
  | negation child =>
      have ofChild := mem_names_items_iff name child
      rw [itemsOfConjunct, leavesOfConjunct, ← ofChild]
      simp [Item.names_denied]
  | leaf owned =>
      simp [itemsOfConjunct, leavesOfConjunct, Item.names, eq_comm]

theorem mem_names_itemsOfConjuncts_iff (name : String) (conjuncts : List (Conjunct Owned)) :
    (∃ item ∈ itemsOfConjuncts conjuncts, name ∈ item.names) ↔
      ∃ owned ∈ leavesOfConjuncts conjuncts, owned.owner = name := by
  cases conjuncts with
  | nil =>
      simp [itemsOfConjuncts, leavesOfConjuncts]
  | cons conjunct rest =>
      have head := mem_names_itemsOfConjunct_iff name conjunct
      have tail := mem_names_itemsOfConjuncts_iff name rest
      simp only [itemsOfConjuncts, leavesOfConjuncts, List.mem_append, or_and_right, exists_or,
        head, tail]

theorem mem_names_itemsOfAll_iff (name : String) (formulas : List (Formula Owned)) :
    (∃ item ∈ itemsOfAll formulas, name ∈ item.names) ↔
      ∃ owned ∈ leavesOfAll formulas, owned.owner = name := by
  cases formulas with
  | nil =>
      simp [itemsOfAll, leavesOfAll]
  | cons formula rest =>
      have head := mem_names_items_iff name formula
      have tail := mem_names_itemsOfAll_iff name rest
      simp only [itemsOfAll, leavesOfAll, List.mem_append, or_and_right, exists_or, head, tail]

end

/-- A formula adds no items exactly if it has no leaves. -/
theorem itemsOfAll_eq_nil_iff (formulas : List (Formula Owned)) :
    itemsOfAll formulas = [] ↔ leavesOfAll formulas = [] := by
  constructor
  · intro none
    rw [List.eq_nil_iff_forall_not_mem]
    intro owned member
    have named := (mem_names_itemsOfAll_iff owned.owner formulas).2 ⟨owned, member, rfl⟩
    rw [none] at named
    obtain ⟨_, never, _⟩ := named
    cases never
  · intro none
    rw [List.eq_nil_iff_forall_not_mem]
    intro item member
    have named := forall_itemsOfAll Item.isKept_names formulas (fun _ _ => trivial) item member
    obtain ⟨name, rest, names⟩ := List.exists_cons_of_ne_nil named
    have owns := (mem_names_itemsOfAll_iff name formulas).1 ⟨item, member, by simp [names]⟩
    rw [none] at owns
    obtain ⟨_, never, _⟩ := owns
    cases never

/-- The node of formulas names the owners of their leaves. -/
theorem mem_groupNames_assemble_iff
    (name : String) (connective : Connective) (formulas : List (Formula Owned)) :
    name ∈ (Item.assemble connective (itemsOfAll formulas)).groupNames ↔
      ∃ owned ∈ leavesOfAll formulas, owned.owner = name := by
  rw [GroupTree.groupNames_eq, List.mem_eraseDups, Item.mem_names_assemble_iff,
    mem_names_itemsOfAll_iff]

theorem assemble_of_leaves_eq_nil
    (connective : Connective) {formulas : List (Formula Owned)}
    (none : leavesOfAll formulas = []) :
    Item.assemble connective (itemsOfAll formulas) = GroupTree.bare connective := by
  rw [(itemsOfAll_eq_nil_iff formulas).2 none]
  rfl

/-- Where there are leaves, every node of their formulas is tidy. -/
theorem isTidy_of_leaves_ne_nil
    (connective : Connective) {formulas : List (Formula Owned)}
    (some : leavesOfAll formulas ≠ [])
    (blanks : ∀ owned ∈ leavesOfAll formulas, ' ' ∈ owned.text.toList) :
    ∀ node ∈ (Item.assemble connective (itemsOfAll formulas)).subtrees, node.IsTidy := by
  have items : itemsOfAll formulas ≠ [] := mt (itemsOfAll_eq_nil_iff formulas).1 some
  have notBare : (Item.assemble connective (itemsOfAll formulas)).isBare = false := by
    rw [Item.isBare_assemble]
    simpa using items
  have tidy := forall_itemsOfAll Item.isKept_isTidy formulas blanks
  exact Item.forall_subtrees_assemble notBare tidy

end Formula

/-! ## The tree of a split filter -/

/-- Whether a label is made of a condition on a field of the group that it names. -/
def Owned.IsOf (groups : List Group) (leaf : String × Json) (owned : Owned) : Prop :=
  ∃ group field, Group.owner? groups leaf.1 = some (group, field) ∧ group.name = owned.owner

theorem Owned.IsOf.exists_owner_iff
    {groups : List Group} {leaf : String × Json} {owned : Owned}
    (isOf : owned.IsOf groups leaf) (name : String) :
    (∃ group field, Group.owner? groups leaf.1 = some (group, field) ∧ group.name = name) ↔
      owned.owner = name := by
  obtain ⟨group, field, owns, isOwner⟩ := isOf
  rw [owns, ← isOwner]
  constructor
  · rintro ⟨_, _, same, hasName⟩
    cases same
    exact hasName
  · intro hasName
    exact ⟨group, field, rfl, hasName⟩

/-- A label names the group that owns its field, and its text has a blank. -/
theorem Group.isOf_of_ownedText
    {groups : List Group} {key : String} {json : Json} {owned : Owned}
    {parameters final : Parameters}
    (run : (ownedText groups key json).runFrom parameters = (.ok owned, final)) :
    owned.IsOf groups (key, json) ∧ ' ' ∈ owned.text.toList := by
  rw [ownedText] at run
  cases found : owner? groups key with
  | none =>
      rw [found] at run
      cases run
  | some owner =>
      obtain ⟨group, field⟩ := owner
      rw [found, Compilation.runFrom_bind_eq_ok_iff] at run
      obtain ⟨text, bound, textRun, done⟩ := run
      cases done
      obtain ⟨condition, column, values, -, -, -, textIs, -⟩ := Field.exists_of_condition textRun
      refine ⟨⟨group, field, found, rfl⟩, ?_⟩
      rw [textIs]
      exact condition.blank_mem_text _ column _

theorem exists_mem_iff_of_forall₂
    {α β : Type} {Relates : α → β → Prop} {First : α → Prop} {Second : β → Prop}
    {left : List α} {right : List β} (related : List.Forall₂ Relates left right)
    (same : ∀ first second, Relates first second → (First first ↔ Second second)) :
    (∃ first ∈ left, First first) ↔ ∃ second ∈ right, Second second := by
  induction related with
  | nil =>
      simp
  | cons relates _ inductionHypothesis =>
      rw [List.exists_mem_cons_iff, List.exists_mem_cons_iff, inductionHypothesis,
        same _ _ relates]

/-- The tree of a split filter is the node of formulas whose leaves are the labels of the
conditions of the filter; if there are none, nothing is bound. -/
theorem exists_labels_of_splitAmong
    {groups : List Group} {json : Json} {result : GroupedFilter Phrase}
    (split : splitAmong groups json = .ok result) :
    ∃ connective formulas,
      result.tree = Item.assemble connective (Formula.itemsOfAll formulas) ∧
      List.Forall₂ (fun leaf owned => owned.IsOf groups leaf ∧ ' ' ∈ owned.text.toList)
        (Filter.ofJson json).leaves (Formula.leavesOfAll formulas) ∧
      ((Filter.ofJson json).leaves = [] → result.parameters = Dict.empty) := by
  obtain ⟨connective, formulas, outlined, -, treeIs⟩ := exists_outline_of_splitAmong split
  have labelled := Filter.labelAll_leaves_of_outline outlined
  have sameLeaves : Formula.leaves (.all [.set connective formulas]) =
      Formula.leavesOfAll formulas := by
    simp [Formula.leaves, Formula.leavesOfConjuncts, Formula.leavesOfConjunct]
  rw [sameLeaves] at labelled
  refine ⟨connective, formulas, treeIs, ?_, fun none => ?_⟩
  · exact Filter.forall₂_of_labelAll (fun _ _ _ _ run => Group.isOf_of_ownedText run) labelled
  · rw [none] at labelled
    have untouched : Dict.empty = result.parameters := congrArg Prod.snd labelled
    exact untouched.symm

/-- The tree of a split filter names the groups that own a condition of the filter, each once,
at whatever depth the condition is and also below negations. It is written as `(1=1)` exactly if
the filter has no condition, and then it is bare and binds nothing; otherwise no node in it is
written as that. Each node has every name once, and no entry and no child without conditions. -/
theorem splitAmong_names_owners
    {groups : List Group} {json : Json} {result : GroupedFilter Phrase}
    (split : splitAmong groups json = .ok result) :
    result.tree.groupNames.Nodup ∧
    (∀ name, name ∈ result.tree.groupNames ↔
      ∃ leaf ∈ (Filter.ofJson json).leaves, ∃ group field,
        Group.owner? groups leaf.1 = some (group, field) ∧ group.name = name) ∧
    ((result.tree.render GroupEntry.joined).text = "(1=1)" ↔
      (Filter.ofJson json).leaves = []) ∧
    ((Filter.ofJson json).leaves = [] →
      result.tree.entries = [] ∧ result.tree.children = [] ∧
        result.parameters = Dict.empty) ∧
    ((Filter.ofJson json).leaves ≠ [] → ∀ node ∈ result.tree.subtrees,
      (node.render GroupEntry.joined).text ≠ "(1=1)") ∧
    ∀ node ∈ result.tree.subtrees,
      (node.entries.map GroupEntry.name).Nodup ∧
      (∀ entry ∈ node.entries, entry.conditions ≠ []) ∧
      ∀ child ∈ node.children, child.isBare = false := by
  obtain ⟨connective, formulas, treeIs, related, untouched⟩ := exists_labels_of_splitAmong split
  have noLeaves : (Filter.ofJson json).leaves = [] ↔ Formula.leavesOfAll formulas = [] := by
    rw [← List.length_eq_zero_iff, related.length_eq, List.length_eq_zero_iff]
  have bare : (Filter.ofJson json).leaves = [] → result.tree = GroupTree.bare connective := by
    intro none
    rw [treeIs]
    exact Formula.assemble_of_leaves_eq_nil connective (noLeaves.1 none)
  have tidy : (Filter.ofJson json).leaves ≠ [] →
      ∀ node ∈ result.tree.subtrees, node.IsTidy := by
    intro some
    have swapped :
        List.Forall₂ (fun owned leaf => ' ' ∈ owned.text.toList ∧ owned.IsOf groups leaf)
          (Formula.leavesOfAll formulas) (Filter.ofJson json).leaves :=
      List.Forall₂.flip (related.imp fun _ _ relates => relates.symm)
    have blanks := ((List.forall₂_and_left _ _).1 swapped).1
    rw [treeIs]
    exact Formula.isTidy_of_leaves_ne_nil connective (mt noLeaves.2 some) blanks
  refine ⟨?_, ?_, ?_, ?_, ?_, ?_⟩
  · rw [GroupTree.groupNames_eq]
    exact nodup_eraseDups _
  · intro name
    rw [treeIs, Formula.mem_groupNames_assemble_iff]
    have sameNames := exists_mem_iff_of_forall₂ related fun _ _ relates =>
      relates.1.exists_owner_iff name
    exact sameNames.symm
  · constructor
    · intro vacuous
      by_contra some
      exact (tidy some _ result.tree.self_mem_subtrees).blank.ne_tautology vacuous
    · intro none
      rw [bare none]
      rfl
  · intro none
    rw [bare none, untouched none]
    exact ⟨rfl, rfl, rfl⟩
  · intro some node member
    exact (tidy some node member).blank.ne_tautology
  · intro node member
    by_cases none : (Filter.ofJson json).leaves = []
    · rw [bare none] at member
      cases List.mem_singleton.1 member
      exact ⟨List.nodup_nil, by simp, by simp⟩
    · have nodeTidy := tidy none node member
      exact ⟨nodeTidy.distinct, nodeTidy.filled, nodeTidy.contributing⟩

/-- Sets of nothing, within and beside each other. -/
def hollowSets : Json :=
  .obj [("or", .arr
    [.obj [], .obj [("and", .arr [.obj [("or", .arr [.obj [], .obj []])]])],
      .obj [("and", .arr []), ("or", .arr [])]])]

/-- Of a filter with conditions every part is kept that has one; of hollow sets nothing is. -/
theorem splitAmong_names_owners_of_hollowSets :
    (∃ result : GroupedFilter Phrase,
      splitAmong [memberGroup, accountGroup] nestedNegations = .ok result ∧
      result.tree.groupNames = ["members", "accounts"] ∧
      result.tree.subtrees.length = 2 ∧
      ∀ node ∈ result.tree.subtrees, (node.render GroupEntry.joined).text ≠ "(1=1)" ∧
        (node.entries.map GroupEntry.name).Nodup) ∧
    ∃ result : GroupedFilter Phrase,
      splitAmong [memberGroup, accountGroup] hollowSets = .ok result ∧
      (result.tree.render GroupEntry.joined).text = "(1=1)" ∧
      result.tree.entries = [] ∧ result.tree.children = [] ∧ result.parameters = Dict.empty := by
  constructor
  · have split : splitAmong [memberGroup, accountGroup] nestedNegations = .ok _ := rfl
    obtain ⟨-, -, -, -, written, tidy⟩ := splitAmong_names_owners split
    have some : (Filter.ofJson nestedNegations).leaves ≠ [] := List.cons_ne_nil _ _
    refine ⟨_, split, rfl, rfl, fun node member => ⟨written some node member, ?_⟩⟩
    exact (tidy node member).1
  · have split : splitAmong [memberGroup, accountGroup] hollowSets = .ok _ := rfl
    obtain ⟨-, -, vacuous, bare, -, -⟩ := splitAmong_names_owners split
    have none : (Filter.ofJson hollowSets).leaves = [] := rfl
    exact ⟨_, split, vacuous.2 none, bare none⟩

end WhereClause
