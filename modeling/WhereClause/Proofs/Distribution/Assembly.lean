import WhereClause.Filter.Distribution
import WhereClause.Proofs.Negation

/-!
# Assembling a tree from an outline

A filter is split in two steps: the conditions are compiled in the order of the document, each
with the group that owns its field, and the tree is assembled from the formula of their texts.
Main statement: what is split is the assembled tree of the outline, and only conditions are
negated.
-/

namespace WhereClause

/-- The text of a condition, and the name of the group that owns its field. -/
structure Owned where
  owner : String
  text : String
  deriving DecidableEq, Repr

/-- Compiles a condition on a field of one of the groups. -/
def Group.ownedText (groups : List Group) (key : String) (condition : Json) :
    Compilation Owned :=
  match Group.owner? groups key with
  | none => throw (.fieldOfNoGroup key)
  | some (group, field) => do
      let text ← field.condition condition
      return ⟨group.name, text⟩

/-- A condition in parentheses behind `not`, as many times as given. -/
def deniedText (text : String) : Nat → String
  | 0 => text
  | times + 1 => "not (" ++ deniedText text times ++ ")"

theorem Phrase.text_denied (phrase : Phrase) :
    phrase.denied.text = "not (" ++ phrase.text ++ ")" := by
  have opened : "not " ++ "(" = "not (" := rfl
  simp only [denied, enclosed, List.cons_append, text, text_append, Symbol.text,
    String.append_empty]
  rw [← String.append_assoc, ← String.append_assoc, opened]

/-- What is added to a node: a condition of a group, or a child. -/
inductive Item where
  | condition (owner : String) (phrase : Phrase)
  | subtree (tree : PhraseTree)

namespace Item

/-- The tree with an item added to its root. -/
def place (tree : PhraseTree) : Item → PhraseTree
  | .condition owner phrase => tree.push owner phrase
  | .subtree child => tree.withChild child

/-- The node of the given items. -/
def assemble (connective : Connective) (items : List Item) : PhraseTree :=
  items.foldl place (GroupTree.bare connective)

/-- A condition negated. -/
def denied : Item → Item
  | .condition owner phrase => .condition owner phrase.denied
  | .subtree child => .subtree child

/-- A property of items that the conditions of leaves have as long as these fit, and that
negation and assembling keep. -/
structure IsKept (Holds : Item → Prop) (Fits : Owned → Prop) : Prop where
  leaf : ∀ owned, Fits owned → Holds (.condition owned.owner (Phrase.atom owned.text))
  denied : ∀ item, Holds item → Holds item.denied
  assembled : ∀ connective items, (assemble connective items).isBare = false →
    (∀ item ∈ items, Holds item) → Holds (.subtree (assemble connective items))

end Item

namespace Formula

mutual

/-- The items that a formula adds to the node it stands in. -/
def items : Formula Owned → List Item
  | .all conjuncts => itemsOfConjuncts conjuncts

def itemsOfConjunct : Conjunct Owned → List Item
  | .set connective children =>
      if (Item.assemble connective (itemsOfAll children)).isBare then []
      else [.subtree (Item.assemble connective (itemsOfAll children))]
  | .negation child => (items child).map Item.denied
  | .leaf owned => [.condition owned.owner (Phrase.atom owned.text)]

def itemsOfConjuncts : List (Conjunct Owned) → List Item
  | [] => []
  | conjunct :: rest => itemsOfConjunct conjunct ++ itemsOfConjuncts rest

def itemsOfAll : List (Formula Owned) → List Item
  | [] => []
  | formula :: rest => items formula ++ itemsOfAll rest

end

section Kept

variable {Holds : Item → Prop} {Fits : Owned → Prop}

mutual

/-- What is kept holds of every item that a formula adds. -/
theorem forall_items
    (kept : Item.IsKept Holds Fits) (formula : Formula Owned)
    (fits : ∀ owned ∈ formula.leaves, Fits owned) : ∀ item ∈ formula.items, Holds item := by
  cases formula with
  | all conjuncts =>
      exact forall_itemsOfConjuncts kept conjuncts fits

theorem forall_itemsOfConjunct
    (kept : Item.IsKept Holds Fits) (conjunct : Conjunct Owned)
    (fits : ∀ owned ∈ leavesOfConjunct conjunct, Fits owned) :
    ∀ item ∈ itemsOfConjunct conjunct, Holds item := by
  cases conjunct with
  | set connective children =>
      have ofChildren := forall_itemsOfAll kept children fits
      rw [itemsOfConjunct]
      by_cases bare : (Item.assemble connective (itemsOfAll children)).isBare
      · rw [if_pos bare]
        simp
      · rw [if_neg bare]
        rw [Bool.not_eq_true] at bare
        exact List.forall_mem_singleton.2 (kept.assembled connective _ bare ofChildren)
  | negation child =>
      have ofChild := forall_items kept child fits
      rw [itemsOfConjunct]
      exact List.forall_mem_map.2 fun item member => kept.denied item (ofChild item member)
  | leaf owned =>
      have ownedFits := fits owned (List.mem_singleton_self owned)
      exact List.forall_mem_singleton.2 (kept.leaf owned ownedFits)

theorem forall_itemsOfConjuncts
    (kept : Item.IsKept Holds Fits) (conjuncts : List (Conjunct Owned))
    (fits : ∀ owned ∈ leavesOfConjuncts conjuncts, Fits owned) :
    ∀ item ∈ itemsOfConjuncts conjuncts, Holds item := by
  cases conjuncts with
  | nil =>
      simp [itemsOfConjuncts]
  | cons conjunct rest =>
      rw [leavesOfConjuncts, List.forall_mem_append] at fits
      rw [itemsOfConjuncts, List.forall_mem_append]
      exact ⟨forall_itemsOfConjunct kept conjunct fits.1, forall_itemsOfConjuncts kept rest fits.2⟩

theorem forall_itemsOfAll
    (kept : Item.IsKept Holds Fits) (formulas : List (Formula Owned))
    (fits : ∀ owned ∈ leavesOfAll formulas, Fits owned) :
    ∀ item ∈ itemsOfAll formulas, Holds item := by
  cases formulas with
  | nil =>
      simp [itemsOfAll]
  | cons formula rest =>
      rw [leavesOfAll, List.forall_mem_append] at fits
      rw [itemsOfAll, List.forall_mem_append]
      exact ⟨forall_items kept formula fits.1, forall_itemsOfAll kept rest fits.2⟩

end

end Kept

mutual

/-- The one item of a literal is its condition. -/
theorem exists_literal_of_isLiteral
    {formula : Formula Owned} (literal : formula.isLiteral) :
    ∃ times owned phrase,
      formula.literal? = some (times, owned) ∧
      formula.items = [.condition owned.owner phrase] ∧
      phrase.text = deniedText owned.text times := by
  match formula with
  | .all [] =>
      cases literal
  | .all [conjunct] =>
      obtain ⟨times, owned, phrase, isLiteral, only, text⟩ :=
        exists_literalOfConjunct_of_isLiteral literal
      exact ⟨times, owned, phrase, isLiteral, by simp [items, itemsOfConjuncts, only], text⟩
  | .all (_ :: _ :: _) =>
      cases literal

theorem exists_literalOfConjunct_of_isLiteral
    {conjunct : Conjunct Owned} (literal : isLiteralConjunct conjunct) :
    ∃ times owned phrase,
      literalOfConjunct? conjunct = some (times, owned) ∧
      itemsOfConjunct conjunct = [.condition owned.owner phrase] ∧
      phrase.text = deniedText owned.text times := by
  cases conjunct with
  | set connective children =>
      cases literal
  | negation child =>
      obtain ⟨times, owned, phrase, isLiteral, only, text⟩ :=
        exists_literal_of_isLiteral literal
      refine ⟨times + 1, owned, phrase.denied, ?_, ?_, ?_⟩
      · rw [literalOfConjunct?, isLiteral]
        rfl
      · simp [itemsOfConjunct, only, Item.denied]
      · rw [Phrase.text_denied, text, deniedText]
  | leaf owned =>
      exact ⟨0, owned, Phrase.atom owned.text, rfl, rfl, String.append_empty⟩

end

end Formula

/-! ## Assembly -/

namespace Filter

section Steps

variable {parameters final : Parameters}

/-- A filter with one clause has a formula with one conjunct. -/
theorem exists_conjunct_of_isSingle
    {α : Type} {label : String → Json → Compilation α} {filter : Filter}
    {formula : Formula α} (single : filter.isSingle)
    (run : (filter.outline label).runFrom parameters = (.ok formula, final)) :
    ∃ conjunct, formula = .all [conjunct] := by
  match filter with
  | .rejected cause =>
      simp [outline] at run
  | .all [] =>
      cases single
  | .all [clause] =>
      rw [outline, outlineClauses, outlineClauses] at run
      simp only [Compilation.runFrom_bind_eq_ok_iff] at run
      obtain ⟨_, _, ⟨conjunct, _, _, _, _, rest, made⟩, done⟩ := run
      cases rest
      cases made
      cases done
      exact ⟨conjunct, rfl⟩
  | .all (_ :: _ :: _) =>
      simp [isSingle] at single

theorem addLeaf_eq
    (groups : List Group) (key : String) (condition : Json) (tree : PhraseTree) :
    addLeaf groups key condition tree =
      (fun owned => tree.push owned.owner (Phrase.atom owned.text)) <$>
        Group.ownedText groups key condition := by
  unfold addLeaf Group.ownedText
  cases Group.owner? groups key with
  | none =>
      rfl
  | some owner =>
      simp only [map_eq_pure_bind, bind_assoc, pure_bind]

theorem attach_assemble
    (tree : PhraseTree) (connective : Connective) (children : List (Formula Owned)) :
    tree.attach (Item.assemble connective (Formula.itemsOfAll children)) =
      (Formula.itemsOfConjunct (.set connective children)).foldl Item.place tree := by
  rw [GroupTree.attach, Formula.itemsOfConjunct]
  split <;> rfl

/-- Only what adds one condition can be negated: a set adds no entry. -/
theorem isLiteral_of_addDenied
    {conjunct : Conjunct Owned} {tree extended : PhraseTree}
    (literals : Formula.conjunctNegatesLiterals conjunct)
    (run : (addDenied (Item.assemble .conjunction (Formula.itemsOfConjunct conjunct))
      tree).runFrom parameters = (.ok extended, final)) :
    Formula.isLiteralConjunct conjunct := by
  cases conjunct with
  | set connective children =>
      rw [Formula.itemsOfConjunct] at run
      split at run <;> cases run
  | negation child =>
      rw [Formula.conjunctNegatesLiterals, Bool.and_eq_true] at literals
      exact literals.1
  | leaf owned =>
      rfl

/-- The negation of a literal adds its condition, negated. -/
theorem addDenied_of_isLiteral
    {formula : Formula Owned} {tree extended : PhraseTree} (literal : formula.isLiteral)
    (run : (addDenied (Item.assemble .conjunction formula.items) tree).runFrom parameters =
      (.ok extended, final)) :
    final = parameters ∧
      extended = (Formula.itemsOfConjunct (.negation formula)).foldl Item.place tree := by
  obtain ⟨_, _, _, _, only, _⟩ := Formula.exists_literal_of_isLiteral literal
  rw [only] at run
  rw [Formula.itemsOfConjunct, only]
  cases run
  exact ⟨rfl, rfl⟩

end Steps

variable {groups : List Group}

mutual

/-- What is added to a tree are the items of the outline, one after the other. -/
theorem outline_of_addTo
    {filter : Filter} {tree extended : PhraseTree} {parameters final : Parameters}
    (single : filter.negatesSingle)
    (run : (filter.addTo groups tree).runFrom parameters = (.ok extended, final)) :
    ∃ formula,
      (filter.outline (Group.ownedText groups)).runFrom parameters = (.ok formula, final) ∧
      formula.negatesLiterals ∧ extended = formula.items.foldl Item.place tree := by
  cases filter with
  | rejected cause =>
      simp [addTo] at run
  | all clauses =>
      obtain ⟨conjuncts, outlined, literals, same⟩ := outlineClauses_of_addClauses single run
      refine ⟨.all conjuncts, ?_, literals, same⟩
      simp [outline, outlined, Except.map]

theorem outlineClause_of_addClause
    {clause : Clause} {tree extended : PhraseTree} {parameters final : Parameters}
    (single : clauseNegatesSingle clause)
    (run : (addClause groups clause tree).runFrom parameters = (.ok extended, final)) :
    ∃ conjunct,
      (outlineClause (Group.ownedText groups) clause).runFrom parameters =
        (.ok conjunct, final) ∧
      Formula.conjunctNegatesLiterals conjunct ∧
      extended = (Formula.itemsOfConjunct conjunct).foldl Item.place tree := by
  cases clause with
  | set connective children =>
      rw [addClause, Compilation.runFrom_bind_eq_ok_iff] at run
      obtain ⟨child, bound, childRun, done⟩ := run
      cases done
      obtain ⟨formulas, outlined, literals, rfl⟩ := outlineAll_of_addFilters single childRun
      refine ⟨.set connective formulas, by simp [outlineClause, outlined, Except.map],
        literals, ?_⟩
      exact attach_assemble tree connective formulas
  | negation child =>
      rw [addClause, Compilation.runFrom_bind_eq_ok_iff] at run
      obtain ⟨negated, bound, childRun, deniedRun⟩ := run
      rw [clauseNegatesSingle, Bool.and_eq_true] at single
      obtain ⟨formula, outlined, literals, rfl⟩ := outline_of_addTo single.2 childRun
      obtain ⟨conjunct, rfl⟩ := exists_conjunct_of_isSingle single.1 outlined
      have literal : Formula.isLiteral (.all [conjunct]) := by
        rw [Formula.negatesLiterals, Formula.conjunctsNegateLiterals, Bool.and_eq_true]
          at literals
        rw [Formula.items, Formula.itemsOfConjuncts, Formula.itemsOfConjuncts,
          List.append_nil] at deniedRun
        exact isLiteral_of_addDenied literals.1 deniedRun
      obtain ⟨rfl, rfl⟩ := addDenied_of_isLiteral literal deniedRun
      refine ⟨.negation (.all [conjunct]), ?_, ?_, rfl⟩
      · simp [outlineClause, outlined, Except.map]
      · rw [Formula.conjunctNegatesLiterals, literal, literals]
        rfl
  | leaf key condition =>
      rw [addClause, addLeaf_eq, map_eq_pure_bind, Compilation.runFrom_bind_eq_ok_iff] at run
      obtain ⟨owned, bound, labelRun, done⟩ := run
      cases done
      exact ⟨.leaf owned, by simp [outlineClause, labelRun, Except.map], rfl, rfl⟩

theorem outlineClauses_of_addClauses
    {clauses : List Clause} {tree extended : PhraseTree} {parameters final : Parameters}
    (single : clausesNegateSingle clauses)
    (run : (addClauses groups clauses tree).runFrom parameters = (.ok extended, final)) :
    ∃ conjuncts,
      (outlineClauses (Group.ownedText groups) clauses).runFrom parameters =
        (.ok conjuncts, final) ∧
      Formula.conjunctsNegateLiterals conjuncts ∧
      extended = (Formula.itemsOfConjuncts conjuncts).foldl Item.place tree := by
  cases clauses with
  | nil =>
      cases run
      exact ⟨[], rfl, rfl, rfl⟩
  | cons clause rest =>
      rw [addClauses, Compilation.runFrom_bind_eq_ok_iff] at run
      obtain ⟨middle, bound, clauseRun, restRun⟩ := run
      rw [clausesNegateSingle, Bool.and_eq_true] at single
      obtain ⟨conjunct, head, headLiterals, rfl⟩ :=
        outlineClause_of_addClause single.1 clauseRun
      obtain ⟨conjuncts, tail, tailLiterals, rfl⟩ :=
        outlineClauses_of_addClauses single.2 restRun
      refine ⟨conjunct :: conjuncts, ?_, ?_, ?_⟩
      · simp [outlineClauses, Compilation.runFrom_bind, head, tail, Except.map]
      · rw [Formula.conjunctsNegateLiterals, headLiterals, tailLiterals]
        rfl
      · rw [Formula.itemsOfConjuncts, List.foldl_append]

theorem outlineAll_of_addFilters
    {filters : List Filter} {tree extended : PhraseTree} {parameters final : Parameters}
    (single : allNegateSingle filters)
    (run : (addFilters groups filters tree).runFrom parameters = (.ok extended, final)) :
    ∃ formulas,
      (outlineAll (Group.ownedText groups) filters).runFrom parameters =
        (.ok formulas, final) ∧
      Formula.allNegateLiterals formulas ∧
      extended = (Formula.itemsOfAll formulas).foldl Item.place tree := by
  cases filters with
  | nil =>
      cases run
      exact ⟨[], rfl, rfl, rfl⟩
  | cons filter rest =>
      rw [addFilters, Compilation.runFrom_bind_eq_ok_iff] at run
      obtain ⟨middle, bound, filterRun, restRun⟩ := run
      rw [allNegateSingle, Bool.and_eq_true] at single
      obtain ⟨formula, head, headLiterals, rfl⟩ := outline_of_addTo single.1 filterRun
      obtain ⟨formulas, tail, tailLiterals, rfl⟩ :=
        outlineAll_of_addFilters single.2 restRun
      refine ⟨formula :: formulas, ?_, ?_, ?_⟩
      · simp [outlineAll, Compilation.runFrom_bind, head, tail, Except.map]
      · rw [Formula.allNegateLiterals, headLiterals, tailLiterals]
        rfl
      · rw [Formula.itemsOfAll, List.foldl_append]

end

theorem ofJson_of_rootOfJson
    {json : Json} {connective : Connective} {children : List Filter}
    (read : rootOfJson json = .ok (connective, children)) :
    ofJson json = .all [.set connective children] := by
  unfold rootOfJson at read
  split at read
  · cases read
  · rename_i key value
    cases named : Connective.ofKey? key with
    | none =>
        simp [named] at read
    | some found =>
        rw [named] at read
        cases value with
        | arr items =>
            cases read
            simp [ofJson, readClauses, readClause, KeyRole.ofKey, named, ofClauses]
        | _ =>
            cases read
  · cases read
  · cases read

end Filter

/-- What was split among groups was read, and its set was distributed. -/
theorem splitAmong_eq_ok_iff
    {groups : List Group} {json : Json} {result : GroupedFilter Phrase} :
    splitAmong groups json = .ok result ↔
      groups ≠ [] ∧ ∃ connective children,
        Filter.rootOfJson json = .ok (connective, children) ∧
        (Filter.distribute groups connective children).runFrom Dict.empty =
          (.ok result.tree, result.parameters) := by
  rw [splitAmong]
  by_cases noGroup : groups = []
  · simp [noGroup]
  · have someGroup : ¬groups.isEmpty := by
      simpa using noGroup
    rw [if_neg someGroup]
    cases read : Filter.rootOfJson json with
    | error cause =>
        simp
    | ok root =>
        obtain ⟨connective, children⟩ := root
        rcases run : (Filter.distribute groups connective children).runFrom Dict.empty with
          ⟨cause | tree, parameters⟩
        · simp [run]
        · obtain ⟨resultTree, resultParameters⟩ := result
          simp only [run]
          constructor
          · intro split
            cases split
            exact ⟨noGroup, connective, children, rfl, run⟩
          · rintro ⟨-, _, _, ⟨⟩, distributed⟩
            rw [run] at distributed
            cases distributed
            rfl

/-- A filter that was split among groups has an outline, in which only literals are negated.
Its conditions are bound in the order of the document, and its tree is assembled from the
items of its set. -/
theorem exists_outline_of_splitAmong
    {groups : List Group} {json : Json} {result : GroupedFilter Phrase}
    (split : splitAmong groups json = .ok result) :
    ∃ connective children,
      ((Filter.ofJson json).outline (Group.ownedText groups)).runFrom Dict.empty =
        (.ok (.all [.set connective children]), result.parameters) ∧
      Formula.allNegateLiterals children ∧
      result.tree = Item.assemble connective (Formula.itemsOfAll children) := by
  obtain ⟨-, connective, filters, read, run⟩ := splitAmong_eq_ok_iff.1 split
  have rooted := Filter.ofJson_of_rootOfJson read
  have single := Filter.negatesSingle_ofJson json
  rw [rooted, Filter.negatesSingle, Filter.clausesNegateSingle, Bool.and_eq_true] at single
  obtain ⟨children, outlined, literals, same⟩ :=
    Filter.outlineAll_of_addFilters single.1 run
  refine ⟨connective, children, ?_, literals, same⟩
  simp [rooted, Filter.outline, Filter.outlineClauses, Filter.outlineClause, outlined,
    Except.map]

end WhereClause
