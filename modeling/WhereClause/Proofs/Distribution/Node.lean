import WhereClause.Proofs.Distribution.Meaning
import WhereClause.Proofs.Entries

/-!
# The tree of a split filter, said directly

A set opens the filters within it: their conditions are collected by group, negated or not, and
their sets become children. Main statement: what is split among groups is the node of its set.
-/

namespace WhereClause

namespace Formula

def conjuncts {α : Type} : Formula α → List (Conjunct α)
  | .all conjuncts => conjuncts

/-- The condition of a literal: its group and its text, negated. -/
def condition? (conjunct : Conjunct Owned) : Option (String × String) :=
  (literalOfConjunct? conjunct).map fun literal =>
    (literal.2.owner, deniedText literal.2.text literal.1)

/-- The conditions directly within a set, whose filters are opened in order. -/
def conditions (children : List (Formula Owned)) : List (String × String) :=
  (children.flatMap conjuncts).filterMap condition?

/-- The node of a set whose own sets have the given nodes. -/
def nodeOver (nodes : List (GroupTree String)) (connective : Connective)
    (children : List (Formula Owned)) : GroupTree String :=
  ⟨connective,
    GroupEntry.collect ((conditions children).map fun condition =>
      (condition.1, [condition.2])),
    nodes⟩

mutual

/-- The nodes of the sets directly within a filter, without those that are bare. -/
def nodes : Formula Owned → List (GroupTree String)
  | .all conjuncts => nodesOfConjuncts conjuncts

def nodesOfConjunct : Conjunct Owned → List (GroupTree String)
  | .set connective children =>
      if (nodeOver (nodesOfAll children) connective children).isBare then []
      else [nodeOver (nodesOfAll children) connective children]
  | .negation _ => []
  | .leaf _ => []

def nodesOfConjuncts : List (Conjunct Owned) → List (GroupTree String)
  | [] => []
  | conjunct :: rest => nodesOfConjunct conjunct ++ nodesOfConjuncts rest

def nodesOfAll : List (Formula Owned) → List (GroupTree String)
  | [] => []
  | formula :: rest => nodes formula ++ nodesOfAll rest

end

/-- The node of a set. -/
def node (connective : Connective) (children : List (Formula Owned)) : GroupTree String :=
  nodeOver (nodesOfAll children) connective children

end Formula

namespace GroupTree

variable {α β : Type}

theorem mapAll_eq_map (change : α → β) (trees : List (GroupTree α)) :
    mapAll change trees = trees.map (map change) := by
  induction trees with
  | nil =>
      rfl
  | cons tree rest inductionHypothesis =>
      rw [mapAll, inductionHypothesis, List.map_cons]

theorem isBare_map (change : α → β) (tree : GroupTree α) :
    (tree.map change).isBare = tree.isBare := by
  obtain ⟨connective, entries, children⟩ := tree
  rw [map, mapAll_eq_map]
  simp [isBare]

end GroupTree

namespace Item

def condition? : Item → Option (String × Phrase)
  | .condition owner phrase => some (owner, phrase)
  | .subtree _ => none

def subtree? : Item → Option PhraseTree
  | .condition _ _ => none
  | .subtree tree => some tree

theorem foldl_place (items : List Item) (tree : PhraseTree) :
    items.foldl place tree =
      ⟨tree.connective,
        ((items.filterMap condition?).map fun condition =>
          (condition.1, [condition.2])).foldl
          (fun entries addition => GroupEntry.extend addition.1 addition.2 entries)
          tree.entries,
        tree.children ++ items.filterMap subtree?⟩ := by
  induction items generalizing tree with
  | nil =>
      obtain ⟨connective, entries, children⟩ := tree
      simp
  | cons item rest inductionHypothesis =>
      rw [List.foldl_cons, inductionHypothesis, List.filterMap_cons, List.filterMap_cons]
      cases item with
      | condition owner phrase =>
          rfl
      | subtree child =>
          simp [place, GroupTree.withChild, condition?, subtree?]

/-- A node collects its conditions by group and keeps its children in order. -/
theorem assemble_eq (connective : Connective) (items : List Item) :
    assemble connective items =
      ⟨connective,
        GroupEntry.collect ((items.filterMap condition?).map fun condition =>
          (condition.1, [condition.2])),
        items.filterMap subtree?⟩ := by
  rw [assemble, foldl_place, ← GroupEntry.foldl_extend]
  rfl

/-- The condition of an item as text. -/
def conditionText? (item : Item) : Option (String × String) :=
  item.condition?.map fun condition => (condition.1, condition.2.text)

theorem map_assemble (connective : Connective) (items : List Item) :
    (assemble connective items).map Phrase.text =
      ⟨connective,
        GroupEntry.collect ((items.filterMap conditionText?).map fun condition =>
          (condition.1, [condition.2])),
        (items.filterMap subtree?).map (GroupTree.map Phrase.text)⟩ := by
  have conditions :
      ((items.filterMap condition?).map fun condition =>
          (condition.1, [condition.2])).map
          (fun addition => (addition.1, addition.2.map Phrase.text)) =
        (items.filterMap conditionText?).map fun condition =>
          (condition.1, [condition.2]) := by
    have asText : conditionText? =
        fun item => item.condition?.map fun condition => (condition.1, condition.2.text) := rfl
    rw [asText, ← List.map_filterMap]
    simp [Function.comp_def]
  rw [assemble_eq, GroupTree.map, GroupTree.mapAll_eq_map, GroupEntry.map_collect, conditions]

end Item

/-! ## Items and nodes -/

namespace Formula

theorem filterMap_conditionText?_itemsOfConjunct
    {conjunct : Conjunct Owned} (literals : conjunctNegatesLiterals conjunct) :
    (itemsOfConjunct conjunct).filterMap Item.conditionText? =
      (condition? conjunct).toList := by
  cases conjunct with
  | set connective children =>
      rw [itemsOfConjunct]
      split <;> rfl
  | negation child =>
      rw [conjunctNegatesLiterals, Bool.and_eq_true] at literals
      have negated : isLiteralConjunct (.negation child) := literals.1
      obtain ⟨times, owned, phrase, isLiteral, only, text⟩ :=
        exists_literalOfConjunct_of_isLiteral negated
      simp [only, condition?, isLiteral, Item.conditionText?, Item.condition?, text]
  | leaf owned =>
      simp [itemsOfConjunct, condition?, literalOfConjunct?, Item.conditionText?,
        Item.condition?, Phrase.atom, Phrase.text, Symbol.text, deniedText]

theorem filterMap_conditionText?_itemsOfConjuncts
    {conjuncts : List (Conjunct Owned)} (literals : conjunctsNegateLiterals conjuncts) :
    (itemsOfConjuncts conjuncts).filterMap Item.conditionText? =
      conjuncts.filterMap condition? := by
  induction conjuncts with
  | nil =>
      rfl
  | cons conjunct rest inductionHypothesis =>
      rw [conjunctsNegateLiterals, Bool.and_eq_true] at literals
      have head := filterMap_conditionText?_itemsOfConjunct literals.1
      have tail := inductionHypothesis literals.2
      rw [itemsOfConjuncts, List.filterMap_append, head, tail, List.filterMap_cons]
      cases condition? conjunct <;> rfl

theorem filterMap_conditionText?_itemsOfAll
    {formulas : List (Formula Owned)} (literals : allNegateLiterals formulas) :
    (itemsOfAll formulas).filterMap Item.conditionText? = conditions formulas := by
  induction formulas with
  | nil =>
      rfl
  | cons formula rest inductionHypothesis =>
      obtain ⟨conjuncts⟩ := formula
      rw [allNegateLiterals, Bool.and_eq_true] at literals
      have head := filterMap_conditionText?_itemsOfConjuncts literals.1
      have tail := inductionHypothesis literals.2
      rw [itemsOfAll, items, List.filterMap_append, head, tail, conditions, conditions,
        List.flatMap_cons, List.filterMap_append]
      rfl

theorem map_assemble_itemsOfAll
    {children : List (Formula Owned)} (literals : allNegateLiterals children)
    (subtrees :
      ((itemsOfAll children).filterMap Item.subtree?).map (GroupTree.map Phrase.text) =
        nodesOfAll children)
    (connective : Connective) :
    (Item.assemble connective (itemsOfAll children)).map Phrase.text =
      node connective children := by
  rw [Item.map_assemble, filterMap_conditionText?_itemsOfAll literals, subtrees]
  rfl

mutual

/-- The subtrees that a filter adds are the nodes of its sets. -/
theorem map_subtree?_items
    {formula : Formula Owned} (literals : formula.negatesLiterals) :
    (formula.items.filterMap Item.subtree?).map (GroupTree.map Phrase.text) =
      formula.nodes := by
  cases formula with
  | all conjuncts =>
      exact map_subtree?_itemsOfConjuncts literals

theorem map_subtree?_itemsOfConjunct
    {conjunct : Conjunct Owned} (literals : conjunctNegatesLiterals conjunct) :
    ((itemsOfConjunct conjunct).filterMap Item.subtree?).map (GroupTree.map Phrase.text) =
      nodesOfConjunct conjunct := by
  cases conjunct with
  | set connective children =>
      have subtrees := map_subtree?_itemsOfAll literals
      have assembled := map_assemble_itemsOfAll literals subtrees connective
      rw [node] at assembled
      rw [itemsOfConjunct, nodesOfConjunct, ← assembled, GroupTree.isBare_map]
      split <;> rfl
  | negation child =>
      rw [conjunctNegatesLiterals, Bool.and_eq_true] at literals
      have negated : isLiteralConjunct (.negation child) := literals.1
      obtain ⟨_, _, _, _, only, _⟩ := exists_literalOfConjunct_of_isLiteral negated
      rw [only]
      rfl
  | leaf owned =>
      rfl

theorem map_subtree?_itemsOfConjuncts
    {conjuncts : List (Conjunct Owned)} (literals : conjunctsNegateLiterals conjuncts) :
    ((itemsOfConjuncts conjuncts).filterMap Item.subtree?).map (GroupTree.map Phrase.text) =
      nodesOfConjuncts conjuncts := by
  cases conjuncts with
  | nil =>
      rfl
  | cons conjunct rest =>
      rw [conjunctsNegateLiterals, Bool.and_eq_true] at literals
      have head := map_subtree?_itemsOfConjunct literals.1
      have tail := map_subtree?_itemsOfConjuncts literals.2
      rw [itemsOfConjuncts, List.filterMap_append, List.map_append, head, tail,
        nodesOfConjuncts]

theorem map_subtree?_itemsOfAll
    {formulas : List (Formula Owned)} (literals : allNegateLiterals formulas) :
    ((itemsOfAll formulas).filterMap Item.subtree?).map (GroupTree.map Phrase.text) =
      nodesOfAll formulas := by
  cases formulas with
  | nil =>
      rfl
  | cons formula rest =>
      rw [allNegateLiterals, Bool.and_eq_true] at literals
      have head := map_subtree?_items literals.1
      have tail := map_subtree?_itemsOfAll literals.2
      rw [itemsOfAll, List.filterMap_append, List.map_append, head, tail, nodesOfAll]

end

end Formula

/-- A disjunction over two groups: entries beside each other, two negations, filters without
conditions, and a set within. -/
def nestedNegations : Json :=
  .obj [("or", .arr
    [.obj [("isBot", .obj [("eq", .bool true)]),
        ("not", .obj [("not", .obj [("score", .obj [("gt", .int 1)])])])],
      .obj [("plan", .obj [("eq", .int 3)])], .obj [], .obj [("and", .arr [.obj []])],
      .obj [("and", .arr
        [.obj [("score", .obj [("lt", .int 9)])],
          .obj [("not", .obj [("plan", .obj [("ne", .int 4)])])]])],
      .obj [("score", .obj [("eq", .int 5)])]])]

/-- What is split among groups is the node of its set. The texts of its conditions are made
one after the other in the order of the document, from no parameters on, and the parameters
are those after the last one. -/
theorem splitAmong_eq_node
    {groups : List Group} {json : Json} {result : GroupedFilter Phrase}
    (split : splitAmong groups json = .ok result) :
    ∃ connective children,
      ((Filter.ofJson json).outline (Group.ownedText groups)).runFrom Dict.empty =
        (.ok (.all [.set connective children]), result.parameters) ∧
      (Filter.labelAll (Group.ownedText groups) (Filter.ofJson json).leaves).runFrom
          Dict.empty =
        (.ok (Formula.leavesOfAll children), result.parameters) ∧
      Formula.allNegateLiterals children ∧
      result.tree.map Phrase.text = Formula.node connective children := by
  obtain ⟨connective, children, outlined, literals, treeIs⟩ :=
    exists_outline_of_splitAmong split
  have labels := Filter.labelAll_leaves_of_outline outlined
  have leaves :
      Formula.leaves (.all [.set connective children]) = Formula.leavesOfAll children := by
    simp [Formula.leaves, Formula.leavesOfConjuncts, Formula.leavesOfConjunct]
  have subtrees := Formula.map_subtree?_itemsOfAll literals
  rw [leaves] at labels
  refine ⟨connective, children, outlined, labels, literals, ?_⟩
  rw [treeIs]
  exact Formula.map_assemble_itemsOfAll literals subtrees connective

/-- The conditions of a group are gathered across the filters of the set, each under its own
negations. -/
theorem splitAmong_eq_node_of_nestedNegations :
    ∃ (result : GroupedFilter Phrase) (children : List (Formula Owned)),
      splitAmong [memberGroup, accountGroup] nestedNegations = .ok result ∧
      Formula.allNegateLiterals children ∧
      result.tree.map Phrase.text = Formula.node .disjunction children ∧
      Formula.node .disjunction children =
        ⟨.disjunction,
          [⟨"members",
              ["(m.bot = :isBot_1)", "not (not ((m.score > :score_1)))",
                "(m.score = :score_3)"]⟩,
            ⟨"accounts", ["(a.plan = :plan_1)"]⟩],
          [⟨.conjunction,
            [⟨"members", ["(m.score < :score_2)"]⟩,
              ⟨"accounts", ["not ((a.plan <> :plan_2))"]⟩],
            []⟩]⟩ := by
  have split : splitAmong [memberGroup, accountGroup] nestedNegations = .ok _ := rfl
  obtain ⟨connective, children, outlined, -, literals, treeIs⟩ := splitAmong_eq_node split
  cases outlined
  exact ⟨_, _, split, literals, treeIs, rfl⟩

end WhereClause
