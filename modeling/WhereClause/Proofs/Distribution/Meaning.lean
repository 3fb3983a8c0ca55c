import WhereClause.Proofs.Distribution.Value

/-!
# The meaning of what is split among groups

The conditions of one group are conjoined in each node, so a disjunction stays one only where its
conditions have different groups. Main statement: there the tree means what the filter does, if no
filter has several entries.
-/

namespace WhereClause

namespace Formula

mutual

/-- The groups of the conditions that a formula adds to the node it stands in. -/
def owners : Formula Owned → List String
  | .all conjuncts => ownersOfConjuncts conjuncts

def ownersOfConjunct : Conjunct Owned → List String
  | .set _ _ => []
  | .negation child => owners child
  | .leaf owned => [owned.owner]

def ownersOfConjuncts : List (Conjunct Owned) → List String
  | [] => []
  | conjunct :: rest => ownersOfConjunct conjunct ++ ownersOfConjuncts rest

def ownersOfAll : List (Formula Owned) → List String
  | [] => []
  | formula :: rest => owners formula ++ ownersOfAll rest

end

mutual

/-- Whether no disjunction has two conditions of the same group directly within it. -/
def isUnshared : Formula Owned → Bool
  | .all conjuncts => areUnsharedConjuncts conjuncts

def isUnsharedConjunct : Conjunct Owned → Bool
  | .set connective children =>
      (connective = .conjunction || decide (ownersOfAll children).Nodup) &&
        areUnshared children
  | .negation child => isUnshared child
  | .leaf _ => true

def areUnsharedConjuncts : List (Conjunct Owned) → Bool
  | [] => true
  | conjunct :: rest => isUnsharedConjunct conjunct && areUnsharedConjuncts rest

def areUnshared : List (Formula Owned) → Bool
  | [] => true
  | formula :: rest => isUnshared formula && areUnshared rest

end

mutual

theorem filterMap_owner?_items (formula : Formula Owned) :
    formula.items.filterMap Item.owner? = formula.owners := by
  cases formula with
  | all conjuncts =>
      exact filterMap_owner?_itemsOfConjuncts conjuncts

theorem filterMap_owner?_itemsOfConjunct (conjunct : Conjunct Owned) :
    (itemsOfConjunct conjunct).filterMap Item.owner? = ownersOfConjunct conjunct := by
  cases conjunct with
  | set connective children =>
      rw [itemsOfConjunct]
      split <;> rfl
  | negation child =>
      have same : Item.owner? ∘ Item.denied = Item.owner? := funext Item.owner?_denied
      rw [itemsOfConjunct, List.filterMap_map, same, filterMap_owner?_items child]
      rfl
  | leaf owned =>
      rfl

theorem filterMap_owner?_itemsOfConjuncts (conjuncts : List (Conjunct Owned)) :
    (itemsOfConjuncts conjuncts).filterMap Item.owner? = ownersOfConjuncts conjuncts := by
  cases conjuncts with
  | nil =>
      rfl
  | cons conjunct rest =>
      rw [itemsOfConjuncts, List.filterMap_append, ownersOfConjuncts,
        filterMap_owner?_itemsOfConjunct conjunct, filterMap_owner?_itemsOfConjuncts rest]

theorem filterMap_owner?_itemsOfAll (formulas : List (Formula Owned)) :
    (itemsOfAll formulas).filterMap Item.owner? = ownersOfAll formulas := by
  cases formulas with
  | nil =>
      rfl
  | cons formula rest =>
      rw [itemsOfAll, List.filterMap_append, ownersOfAll, filterMap_owner?_items formula,
        filterMap_owner?_itemsOfAll rest]

end

/-! ## The meaning of items -/

theorem value_assemble_of_isUnshared
    (truth : String → Truth) {connective : Connective} {children : List (Formula Owned)}
    (unshared : isUnsharedConjunct (.set connective children)) :
    (Item.assemble connective (itemsOfAll children)).value (GroupEntry.value truth) =
      (connective.combine? ((itemsOfAll children).map (Item.value truth))).getD .true := by
  rw [isUnsharedConjunct, Bool.and_eq_true, Bool.or_eq_true, decide_eq_true_eq,
    decide_eq_true_eq, ← filterMap_owner?_itemsOfAll] at unshared
  exact Item.value_assemble truth unshared.1

section Spliced

variable {α : Type} (truth : α → Truth)

mutual

/-- The values that a formula adds to the set it stands in: each of its conjuncts is an operand
of that set. -/
def spliced : Formula α → List Truth
  | .all conjuncts => splicedConjuncts conjuncts

def splicedConjunct : Conjunct α → List Truth
  | .set connective children => (connective.combine? (splicedAll children)).toList
  | .negation child => (spliced child).map Truth.not
  | .leaf label => [truth label]

def splicedConjuncts : List (Conjunct α) → List Truth
  | [] => []
  | conjunct :: rest => splicedConjunct conjunct ++ splicedConjuncts rest

def splicedAll : List (Formula α) → List Truth
  | [] => []
  | formula :: rest => spliced formula ++ splicedAll rest

end

end Spliced

mutual

/-- The items of a formula have the values that are spliced. -/
theorem spliced_eq
    (truth : String → Truth) {formula : Formula Owned}
    (literals : formula.negatesLiterals) (unshared : formula.isUnshared) :
    (formula.spliced fun owned => truth owned.text) =
      formula.items.map (Item.value truth) := by
  cases formula with
  | all conjuncts =>
      exact splicedConjuncts_eq truth literals unshared

theorem splicedConjunct_eq
    (truth : String → Truth) {conjunct : Conjunct Owned}
    (literals : conjunctNegatesLiterals conjunct) (unshared : isUnsharedConjunct conjunct) :
    splicedConjunct (fun owned => truth owned.text) conjunct =
      (itemsOfConjunct conjunct).map (Item.value truth) := by
  cases conjunct with
  | set connective children =>
      have assembled := value_assemble_of_isUnshared truth unshared
      rw [isUnsharedConjunct, Bool.and_eq_true] at unshared
      have ofChildren := splicedAll_eq truth literals unshared.2
      rw [splicedConjunct, ofChildren, itemsOfConjunct, Item.isBare_assemble]
      by_cases empty : itemsOfAll children = []
      · simp [empty, Connective.combine?]
      · have contributes : ¬(itemsOfAll children).isEmpty := by
          simpa using empty
        rw [Connective.combine?_eq] at assembled ⊢
        simp [contributes, empty, Item.value, assembled]
  | negation child =>
      rw [conjunctNegatesLiterals, Bool.and_eq_true] at literals
      have ofChild := spliced_eq truth literals.2 unshared
      obtain ⟨_, owned, phrase, _, only, _⟩ := exists_literal_of_isLiteral literals.1
      have factors := hasFactors_items child (.condition owned.owner phrase) (by simp [only])
      have denied := Phrase.IsFactor.valueOrTrue_denied factors truth
      rw [splicedConjunct, ofChild, itemsOfConjunct, only]
      exact congrArg (fun value => [value]) denied.symm
  | leaf owned =>
      have atom := Phrase.IsFactor.valueOrTrue_atom owned.text truth
      exact congrArg (fun value => [value]) atom.symm

theorem splicedConjuncts_eq
    (truth : String → Truth) {conjuncts : List (Conjunct Owned)}
    (literals : conjunctsNegateLiterals conjuncts)
    (unshared : areUnsharedConjuncts conjuncts) :
    splicedConjuncts (fun owned => truth owned.text) conjuncts =
      (itemsOfConjuncts conjuncts).map (Item.value truth) := by
  cases conjuncts with
  | nil =>
      rfl
  | cons conjunct rest =>
      rw [conjunctsNegateLiterals, Bool.and_eq_true] at literals
      rw [areUnsharedConjuncts, Bool.and_eq_true] at unshared
      have head := splicedConjunct_eq truth literals.1 unshared.1
      have tail := splicedConjuncts_eq truth literals.2 unshared.2
      rw [splicedConjuncts, head, tail, itemsOfConjuncts, List.map_append]

theorem splicedAll_eq
    (truth : String → Truth) {formulas : List (Formula Owned)}
    (literals : allNegateLiterals formulas) (unshared : areUnshared formulas) :
    splicedAll (fun owned => truth owned.text) formulas =
      (itemsOfAll formulas).map (Item.value truth) := by
  cases formulas with
  | nil =>
      rfl
  | cons formula rest =>
      rw [allNegateLiterals, Bool.and_eq_true] at literals
      rw [areUnshared, Bool.and_eq_true] at unshared
      have head := spliced_eq truth literals.1 unshared.1
      have tail := splicedAll_eq truth literals.2 unshared.2
      rw [splicedAll, head, tail, itemsOfAll, List.map_append]

end

section Narrow

variable {α : Type} {rule : EmptyRule} (truth : α → Truth)

mutual

/-- A literal has a meaning, which is all that it adds to a set. -/
theorem exists_meaning_of_isLiteral {formula : Formula α} (literal : formula.isLiteral) :
    ∃ value, formula.spliced truth = [value] ∧ formula.meaning rule truth = some value := by
  match formula with
  | .all [] =>
      cases literal
  | .all [conjunct] =>
      obtain ⟨value, added, means⟩ := exists_meaningOfConjunct_of_isLiteral literal
      refine ⟨value, ?_, ?_⟩
      · rw [spliced, splicedConjuncts, splicedConjuncts, added, List.append_nil]
      · simp [meaning, meaningsOfConjuncts, means]
  | .all (_ :: _ :: _) =>
      cases literal

theorem exists_meaningOfConjunct_of_isLiteral
    {conjunct : Conjunct α} (literal : isLiteralConjunct conjunct) :
    ∃ value, splicedConjunct truth conjunct = [value] ∧
      meaningOfConjunct rule truth conjunct = some value := by
  cases conjunct with
  | set connective children =>
      cases literal
  | negation child =>
      obtain ⟨value, added, means⟩ := exists_meaning_of_isLiteral literal
      refine ⟨value.not, ?_, ?_⟩
      · rw [splicedConjunct, added, List.map_singleton]
      · rw [meaningOfConjunct, means, Option.getD_some]
  | leaf label =>
      exact ⟨truth label, rfl, rfl⟩

end

mutual

/-- A narrow formula adds its meaning to a set. -/
theorem spliced_of_isNarrow
    {formula : Formula α} (narrow : formula.isNarrow) (literals : formula.negatesLiterals) :
    formula.spliced truth = (formula.meaning .skip truth).toList := by
  match formula with
  | .all [] =>
      rfl
  | .all [conjunct] =>
      rw [isNarrow, areNarrowConjuncts, Bool.and_eq_true, Bool.and_eq_true] at narrow
      rw [negatesLiterals, conjunctsNegateLiterals, Bool.and_eq_true] at literals
      have only := splicedConjunct_of_isNarrow narrow.2.1 literals.1
      simp [spliced, splicedConjuncts, meaning, meaningsOfConjuncts, only,
        Connective.combine?_toList]
  | .all (_ :: _ :: _) =>
      simp [isNarrow] at narrow

theorem splicedConjunct_of_isNarrow
    {conjunct : Conjunct α} (narrow : isNarrowConjunct conjunct)
    (literals : conjunctNegatesLiterals conjunct) :
    splicedConjunct truth conjunct = (meaningOfConjunct .skip truth conjunct).toList := by
  cases conjunct with
  | set connective children =>
      have ofChildren := splicedAll_of_areNarrow narrow literals
      rw [splicedConjunct, ofChildren, meaningOfConjunct]
  | negation child =>
      have negated : isLiteralConjunct (.negation child) := by
        rw [conjunctNegatesLiterals, Bool.and_eq_true] at literals
        exact literals.1
      obtain ⟨value, added, means⟩ := exists_meaningOfConjunct_of_isLiteral truth negated
      rw [added, means]
      rfl
  | leaf label =>
      rfl

theorem splicedAll_of_areNarrow
    {formulas : List (Formula α)} (narrow : areNarrow formulas)
    (literals : allNegateLiterals formulas) :
    splicedAll truth formulas = meanings .skip truth formulas := by
  cases formulas with
  | nil =>
      rfl
  | cons formula rest =>
      rw [areNarrow, Bool.and_eq_true] at narrow
      rw [allNegateLiterals, Bool.and_eq_true] at literals
      have head := spliced_of_isNarrow narrow.1 literals.1
      have tail := splicedAll_of_areNarrow narrow.2 literals.2
      rw [splicedAll, head, tail, meanings]

end

end Narrow

theorem map_value_itemsOfAll
    (truth : String → Truth) {formulas : List (Formula Owned)}
    (narrow : areNarrow formulas) (literals : allNegateLiterals formulas)
    (unshared : areUnshared formulas) :
    (itemsOfAll formulas).map (Item.value truth) =
      meanings .skip (fun owned => truth owned.text) formulas := by
  have added := splicedAll_eq truth literals unshared
  have means := splicedAll_of_areNarrow (fun owned => truth owned.text) narrow literals
  exact added.symm.trans means

end Formula

/-- A group with two columns. -/
def memberGroup : Group :=
  ⟨"members", ⟨Dict.ofList [("isBot", "m.bot"), ("score", "m.score")], []⟩⟩

/-- A group with one column. -/
def accountGroup : Group :=
  ⟨"accounts", ⟨Dict.ofList [("plan", "a.plan")], []⟩⟩

/-- A disjunction of two conditions on one group. -/
def botOrScore : Json :=
  .obj [("or", .arr
    [.obj [("isBot", .obj [("eq", .bool true)])], .obj [("score", .obj [("gt", .int 1)])]])]

/-- A disjunction of conditions on different groups, and of a conjunction. -/
def botsOrPlans : Json :=
  .obj [("or", .arr
    [.obj [("not", .obj [("isBot", .obj [("eq", .bool true)])])], .obj [],
      .obj [("plan", .obj [("eq", .int 3)])],
      .obj [("and", .arr
        [.obj [("score", .obj [("gt", .int 1)])], .obj [("score", .obj [("lt", .int 9)])]])]])]

/-- What is split among groups renders to the value of its tree: each node combines its
entries, every one the conjunction of its conditions, and its children. Where every filter
has at most one entry and no disjunction has two conditions of the same group, this is what
the filter means. -/
theorem splitAmong_reads_as_meaning
    {groups : List Group} {json : Json} {result : GroupedFilter Phrase}
    (split : splitAmong groups json = .ok result) :
    ∃ formula : Formula Owned,
      ((Filter.ofJson json).outline (Group.ownedText groups)).runFrom Dict.empty =
        (.ok formula, result.parameters) ∧
      (∀ truth : String → Truth,
        (result.tree.render GroupEntry.joined).value? truth =
          some (result.tree.value (GroupEntry.value truth))) ∧
      (formula.isNarrow → formula.isUnshared → ∀ truth : String → Truth,
        (result.tree.render GroupEntry.joined).value? truth =
          some ((formula.meaning .skip fun owned => truth owned.text).getD .true)) := by
  obtain ⟨connective, children, outlined, literals, treeIs⟩ :=
    exists_outline_of_splitAmong split
  have rendered (truth : String → Truth) :
      (result.tree.render GroupEntry.joined).value? truth =
        some (result.tree.value (GroupEntry.value truth)) := by
    refine GroupTree.value?_render ?_ truth
    rw [treeIs]
    exact Item.hasFactors_assemble connective (Formula.hasFactors_itemsOfAll children)
  refine ⟨.all [.set connective children], outlined, rendered, ?_⟩
  intro narrow unshared truth
  rw [Formula.isNarrow, Formula.areNarrowConjuncts, Bool.and_eq_true, Bool.and_eq_true]
    at narrow
  rw [Formula.isUnshared, Formula.areUnsharedConjuncts, Bool.and_eq_true] at unshared
  have assembled := Formula.value_assemble_of_isUnshared truth unshared.1
  rw [Formula.isUnsharedConjunct, Bool.and_eq_true] at unshared
  rw [rendered, treeIs, assembled,
    Formula.map_value_itemsOfAll truth narrow.2.1 literals unshared.1.2]
  simp [Formula.meaning, Formula.meaningsOfConjuncts, Formula.meaningOfConjunct,
    Connective.combine?_toList]

/-- A disjunction over two groups with a conjunction within one of them. -/
theorem splitAmong_reads_as_meaning_of_bots :
    ∃ (result : GroupedFilter Phrase) (formula : Formula Owned),
      splitAmong [memberGroup, accountGroup] botsOrPlans = .ok result ∧
      (result.tree.render GroupEntry.joined).text =
        "(not ((m.bot = :isBot_1)) or (a.plan = :plan_1) or " ++
          "((m.score > :score_1) and (m.score < :score_2)))" ∧
      formula.isNarrow ∧ formula.isUnshared ∧
      ∀ truth : String → Truth,
        (result.tree.render GroupEntry.joined).value? truth =
          some ((formula.meaning .skip fun owned => truth owned.text).getD .true) := by
  have split : splitAmong [memberGroup, accountGroup] botsOrPlans = .ok _ := rfl
  obtain ⟨formula, outlined, -, means⟩ := splitAmong_reads_as_meaning split
  have narrow : formula.isNarrow := by
    cases outlined
    rfl
  have unshared : formula.isUnshared := by
    cases outlined
    rfl
  exact ⟨_, formula, split, rfl, narrow, unshared, means narrow unshared⟩

/-- A disjunction does not always mean one: here its conditions have one group, the first
is true and the second is not. -/
theorem not_forall_splitAmong_reads_as_meaning :
    ¬ ∀ (groups : List Group) (json : Json) (result : GroupedFilter Phrase)
        (formula : Formula Owned),
      splitAmong groups json = .ok result →
      ((Filter.ofJson json).outline (Group.ownedText groups)).runFrom Dict.empty =
        (.ok formula, result.parameters) →
      formula.isNarrow →
      ∀ truth : String → Truth,
        (result.tree.render GroupEntry.joined).value? truth =
          some ((formula.meaning .skip fun owned => truth owned.text).getD .true) := by
  intro means
  have read :=
    means [memberGroup] botOrScore _ _ rfl rfl rfl fun text =>
      if text = "(m.bot = :isBot_1)" then .true else .false
  exact absurd read (by decide)

end WhereClause
