import WhereClause.Proofs.Distribution.Flat
import WhereClause.Proofs.Distribution.Union
import WhereClause.Proofs.SingleTable.Meaning

/-!
# Groups and their union

Splitting a filter among groups against compiling it for their union. A filter with several
entries is a conjunction for one table; among groups its entries are spliced into the set around
it. Main statement: where no group is shared within a disjunction, the two have the same value for
all truth values of the conditions exactly if the disjunctions are flat.
-/

namespace WhereClause

/-- Whether groups have names of their own, and no key names a field in two of them. -/
def Group.AreApart (groups : List Group) : Prop :=
  groups.Pairwise fun left right =>
    left.name ≠ right.name ∧
      ∀ key, ¬((left.scope.field? key).isSome ∧ (right.scope.field? key).isSome)

/-- A table without document columns has fields for the keys of its columns only. -/
theorem Scope.mem_names_of_field?
    {scope : Scope} {key : String} (noDocuments : scope.documents = [])
    (found : (scope.field? key).isSome) : key ∈ Entries.names scope.columns.entries := by
  have noPath : scope.path? key = none := by
    simp [path?, noDocuments]
  by_contra absent
  have noColumn : scope.columns.get? key = none := Entries.get?_eq_none_iff.2 absent
  simp [field?, noPath, column?, noColumn] at found

namespace Formula

/-- A tree without shared groups renders to a phrase that splices its filters. -/
theorem value?_render_assemble
    {connective : Connective} {children : List (Formula Owned)}
    (literals : allNegateLiterals children)
    (unshared : isUnsharedConjunct (.set connective children)) (truth : String → Truth) :
    ((Item.assemble connective (itemsOfAll children)).render GroupEntry.joined).value? truth =
      some (Connective.conjunction.combine
        ((Formula.all [.set connective children]).spliced fun owned => truth owned.text)) := by
  have factors := Item.hasFactors_assemble connective (hasFactors_itemsOfAll children)
  have rendered := GroupTree.value?_render factors truth
  have assembled := value_assemble_of_isUnshared truth unshared
  rw [isUnsharedConjunct, Bool.and_eq_true] at unshared
  have added := splicedAll_eq truth literals unshared.2
  rw [rendered, assembled, ← added, spliced, splicedConjuncts, splicedConjuncts,
    splicedConjunct, List.append_nil, ← Connective.getD_combine?_conjunction,
    Connective.combine?_toList]

/-- The texts of a formula are laid out to a phrase with its meaning, if only literals are
negated. -/
theorem value?_phrase_map
    {formula : Formula Owned} (literals : formula.negatesLiterals) (rule : EmptyRule)
    (truth : String → Truth) :
    ((formula.map Owned.text).phrase rule).value? truth =
      some ((formula.meaning rule fun owned => truth owned.text).getD .true) := by
  have narrow := isNarrowBelowNegation_of_negatesLiterals literals
  have means :
      Connective.conjunction.combine? (formula.row rule fun owned => truth owned.text) =
        formula.meaning rule fun owned => truth owned.text :=
    combine?_row narrow
  rw [value?_phrase, row_map, ← means, Connective.getD_combine?_conjunction]

end Formula

/-- A disjunction with a filter of two entries in it. -/
def botWithPlan : Json :=
  .obj [("or", .arr
    [.obj [("isBot", .obj [("eq", .bool true)]), ("plan", .obj [("eq", .int 3)])]])]

/-- A disjunction with a conjunction in it, whose filter has two entries. -/
def botWithPlanOrScore : Json :=
  .obj [("or", .arr
    [.obj [("and", .arr
        [.obj [("isBot", .obj [("eq", .bool true)]), ("plan", .obj [("eq", .int 3)])]])],
      .obj [("score", .obj [("gt", .int 1)])]])]

/-- A filter that is split among groups compiles for their union, with the same parameters.
For one table it reads as what it means; among groups, if no disjunction has two conditions of
the same group, its filters are spliced. Where empty filters contribute nothing, the readings
agree if the disjunctions are flat, and only then as long as the conditions have distinct
texts. -/
theorem splitAmong_agrees_iff_isFlat
    {groups : List Group} {json : Json} {result : GroupedFilter Phrase} (settings : Settings)
    (split : splitAmong groups json = .ok result) :
    ∃ (formula : Formula Owned) (phrase : Phrase),
      ((Filter.ofJson json).outline (Group.ownedText groups)).runFrom Dict.empty =
        (.ok formula, result.parameters) ∧
      Target.phrase ⟨Group.union groups, settings⟩ json Dict.empty =
        (.ok phrase, result.parameters) ∧
      compile ⟨Group.union groups, settings⟩ json Dict.empty =
        (.ok phrase.text, result.parameters) ∧
      (∀ truth : String → Truth,
        phrase.value? truth =
          some ((formula.meaning settings.emptyRule fun owned => truth owned.text).getD
            .true)) ∧
      (formula.isUnshared →
        (∀ truth : String → Truth,
          (result.tree.render GroupEntry.joined).value? truth =
            some (Connective.conjunction.combine
              (formula.spliced fun owned => truth owned.text))) ∧
        (settings.emptyRule = .skip →
          (formula.isFlat → ∀ truth : String → Truth,
            (result.tree.render GroupEntry.joined).value? truth = phrase.value? truth) ∧
          ((formula.leaves.map Owned.text).Nodup →
            ((∀ truth : String → Truth,
              (result.tree.render GroupEntry.joined).value? truth = phrase.value? truth) ↔
              formula.isFlat)))) := by
  obtain ⟨connective, children, outlined, literals, treeIs⟩ :=
    exists_outline_of_splitAmong split
  have wholeLiterals : (Formula.all [.set connective children]).negatesLiterals := by
    rw [Formula.negatesLiterals, Formula.conjunctsNegateLiterals,
      Formula.conjunctNegatesLiterals, literals]
    rfl
  have compiled := Target.phrase_of_outline (Target.outline_union settings outlined)
  have means (truth : String → Truth) :=
    Formula.value?_phrase_map wholeLiterals settings.emptyRule truth
  refine ⟨_, _, outlined, compiled, Target.compile_of_phrase compiled, means, ?_⟩
  intro unshared
  rw [Formula.isUnshared, Formula.areUnsharedConjuncts, Bool.and_eq_true] at unshared
  have splices (truth : String → Truth) :=
    Formula.value?_render_assemble literals unshared.1 truth
  rw [← treeIs] at splices
  refine ⟨splices, ?_⟩
  intro skips
  rw [skips] at means ⊢
  have agrees (flat : (Formula.all [.set connective children]).isFlat)
      (truth : String → Truth) :
      (result.tree.render GroupEntry.joined).value? truth =
        (((Formula.all [.set connective children]).map Owned.text).phrase .skip).value?
          truth := by
    have same :=
      Formula.combine_spliced_of_isFlat wholeLiterals flat fun owned => truth owned.text
    rw [splices, means, same]
  refine ⟨agrees, fun distinct => ⟨fun always => ?_, agrees⟩⟩
  apply Formula.isFlat_of_forall_combine_spliced wholeLiterals distinct
  intro truth
  have both := always truth
  rw [splices, means] at both
  exact Option.some.inj both

/-- Entries beside each other in a conjunction stay together, also below a disjunction. -/
theorem splitAmong_agrees_iff_isFlat_of_botWithPlanOrScore :
    ∃ (result : GroupedFilter Phrase) (phrase : Phrase),
      splitAmong [memberGroup, accountGroup] botWithPlanOrScore = .ok result ∧
      Target.phrase ⟨Group.union [memberGroup, accountGroup], .standard⟩ botWithPlanOrScore
        Dict.empty = (.ok phrase, result.parameters) ∧
      (result.tree.render GroupEntry.joined).text =
        "((m.score > :score_1) or ((m.bot = :isBot_1) and (a.plan = :plan_1)))" ∧
      phrase.text = "((m.bot = :isBot_1) and (a.plan = :plan_1) or (m.score > :score_1))" ∧
      ∀ truth : String → Truth,
        (result.tree.render GroupEntry.joined).value? truth = phrase.value? truth := by
  have split : splitAmong [memberGroup, accountGroup] botWithPlanOrScore = .ok _ := rfl
  obtain ⟨formula, phrase, outlined, compiled, -, -, reads⟩ :=
    splitAmong_agrees_iff_isFlat .standard split
  have unshared : formula.isUnshared := by
    cases outlined
    rfl
  have flat : formula.isFlat := by
    cases outlined
    rfl
  have distinct : (formula.leaves.map Owned.text).Nodup := by
    cases outlined
    decide
  have exactly := ((reads unshared).2 rfl).2 distinct
  have text :
      phrase.text = "((m.bot = :isBot_1) and (a.plan = :plan_1) or (m.score > :score_1))" := by
    cases compiled
    rfl
  exact ⟨_, phrase, split, compiled, rfl, text, exactly.2 flat⟩

/-- A filter with several entries is not always a conjunction among groups: here the first
entry is true and the second is not. -/
theorem not_forall_splitAmong_agrees :
    ¬ ∀ (groups : List Group) (json : Json) (result : GroupedFilter Phrase)
        (formula : Formula Owned) (phrase : Phrase),
      Group.AreApart groups →
      splitAmong groups json = .ok result →
      ((Filter.ofJson json).outline (Group.ownedText groups)).runFrom Dict.empty =
        (.ok formula, result.parameters) →
      formula.isUnshared →
      Target.phrase ⟨Group.union groups, .standard⟩ json Dict.empty =
        (.ok phrase, result.parameters) →
      ∀ truth : String → Truth,
        (result.tree.render GroupEntry.joined).value? truth = phrase.value? truth := by
  intro agrees
  have apart : Group.AreApart [memberGroup, accountGroup] := by
    refine List.pairwise_pair.2 ⟨by decide, ?_⟩
    rintro key ⟨inMembers, inAccounts⟩
    have memberKey : key ∈ ["isBot", "score"] := Scope.mem_names_of_field? rfl inMembers
    have accountKey : key ∈ ["plan"] := Scope.mem_names_of_field? rfl inAccounts
    rw [List.mem_singleton] at accountKey
    subst accountKey
    exact absurd memberKey (by decide)
  have read :=
    agrees [memberGroup, accountGroup] botWithPlan _ _ _ apart rfl rfl rfl rfl fun text =>
      if text = "(m.bot = :isBot_1)" then .true else .false
  exact absurd read (by decide)

end WhereClause
