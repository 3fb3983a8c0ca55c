import WhereClause.Proofs.Distribution.Acceptance
import WhereClause.Proofs.Distribution.Agreement
import WhereClause.Proofs.SingleTable.Acceptance

/-!
# Splitting a filter among one group

Main statement: what is split among one group is compiled for the table of that group with the
same parameters, and to the same value if no clause of the filter is a disjunction; and what is
compiled for the table is split if its root is a combination and no combination is negated.
-/

namespace WhereClause

namespace Group

/-- A group on its own owns the keys of its fields. -/
theorem owner?_singleton (group : Group) (key : String) :
    owner? [group] key = (group.scope.field? key).map fun field => (group, field) := by
  simp only [owner?, first?, Scope.field?, List.findSome?_cons, List.findSome?_nil]
  cases group.scope.path? key with
  | some field =>
      rfl
  | none =>
      cases group.scope.column? key <;> rfl

/-- A condition on a field of the group has the same text on its table. -/
theorem follows_ownedText (group : Group) (settings : Settings) :
    Filter.Follows (Target.conditionText ⟨group.scope, settings⟩) Owned.text
      (ownedText [group]) := by
  intro key condition parameters bound made run
  rw [Target.conditionText]
  rw [ownedText, owner?_singleton] at run
  cases found : group.scope.field? key with
  | none =>
      rw [found] at run
      cases run
  | some field =>
      simp only [found, Option.map_some, Compilation.runFrom_bind_eq_ok_iff] at run
      obtain ⟨text, final, textRun, done⟩ := run
      cases done
      exact textRun

/-- One group and its table let the same conditions pass. -/
theorem condition_judge_singleton (group : Group) (key : String) (json : Json) :
    ((judge [group]).condition key json).cause = none ↔
      (group.scope.judge.condition key json).cause = none := by
  simp only [judge, Scope.judge, owner?_singleton]
  cases group.scope.field? key with
  | none =>
      simp [Course.checked]
  | some field =>
      exact Iff.rfl

end Group

namespace Filter

mutual

/-- Whether no clause of the filter is a disjunction, also within others. -/
def isConjunctive : Filter → Bool
  | .rejected _ => true
  | .all clauses => areConjunctiveClauses clauses

def isConjunctiveClause : Clause → Bool
  | .set connective children => connective = .conjunction && areConjunctive children
  | .negation child => isConjunctive child
  | .leaf _ _ => true

def areConjunctiveClauses : List Clause → Bool
  | [] => true
  | clause :: rest => isConjunctiveClause clause && areConjunctiveClauses rest

def areConjunctive : List Filter → Bool
  | [] => true
  | filter :: rest => isConjunctive filter && areConjunctive rest

end

variable {label : String → Json → Compilation Owned}

mutual

/-- Without disjunctions, nothing is shared or more than flat within one. -/
theorem isFlat_of_isConjunctive
    {filter : Filter} {formula : Formula Owned} {parameters bound : Parameters}
    (conjunctive : filter.isConjunctive)
    (run : (filter.outline label).runFrom parameters = (.ok formula, bound)) :
    formula.isFlat ∧ formula.isUnshared := by
  cases filter with
  | rejected cause =>
      simp [outline] at run
  | all clauses =>
      rw [outline, Compilation.runFrom_bind_eq_ok_iff] at run
      obtain ⟨conjuncts, _, clausesRun, done⟩ := run
      cases done
      exact areFlatConjuncts_of_areConjunctive conjunctive clausesRun

theorem isFlatConjunct_of_isConjunctive
    {clause : Clause} {conjunct : Conjunct Owned} {parameters bound : Parameters}
    (conjunctive : isConjunctiveClause clause)
    (run : (outlineClause label clause).runFrom parameters = (.ok conjunct, bound)) :
    Formula.isFlatConjunct conjunct ∧ Formula.isUnsharedConjunct conjunct := by
  cases clause with
  | set connective children =>
      rw [isConjunctiveClause, Bool.and_eq_true, decide_eq_true_eq] at conjunctive
      obtain ⟨rfl, conjunctiveChildren⟩ := conjunctive
      rw [outlineClause, Compilation.runFrom_bind_eq_ok_iff] at run
      obtain ⟨formulas, _, childrenRun, done⟩ := run
      cases done
      exact areFlat_of_areConjunctive conjunctiveChildren childrenRun
  | negation child =>
      rw [outlineClause, Compilation.runFrom_bind_eq_ok_iff] at run
      obtain ⟨formula, _, childRun, done⟩ := run
      cases done
      exact ⟨rfl, (isFlat_of_isConjunctive conjunctive childRun).2⟩
  | leaf key condition =>
      rw [outlineClause, Compilation.runFrom_bind_eq_ok_iff] at run
      obtain ⟨owned, _, _, done⟩ := run
      cases done
      exact ⟨rfl, rfl⟩

theorem areFlatConjuncts_of_areConjunctive
    {clauses : List Clause} {conjuncts : List (Conjunct Owned)} {parameters bound : Parameters}
    (conjunctive : areConjunctiveClauses clauses)
    (run : (outlineClauses label clauses).runFrom parameters = (.ok conjuncts, bound)) :
    Formula.areFlatConjuncts conjuncts ∧ Formula.areUnsharedConjuncts conjuncts := by
  cases clauses with
  | nil =>
      cases run
      exact ⟨rfl, rfl⟩
  | cons clause rest =>
      rw [areConjunctiveClauses, Bool.and_eq_true] at conjunctive
      simp only [outlineClauses, Compilation.runFrom_bind_eq_ok_iff] at run
      obtain ⟨conjunct, _, clauseRun, others, _, restRun, done⟩ := run
      cases done
      have head := isFlatConjunct_of_isConjunctive conjunctive.1 clauseRun
      have tail := areFlatConjuncts_of_areConjunctive conjunctive.2 restRun
      rw [Formula.areFlatConjuncts, Formula.areUnsharedConjuncts, Bool.and_eq_true,
        Bool.and_eq_true]
      exact ⟨⟨head.1, tail.1⟩, head.2, tail.2⟩

theorem areFlat_of_areConjunctive
    {filters : List Filter} {formulas : List (Formula Owned)} {parameters bound : Parameters}
    (conjunctive : areConjunctive filters)
    (run : (outlineAll label filters).runFrom parameters = (.ok formulas, bound)) :
    Formula.areFlat formulas ∧ Formula.areUnshared formulas := by
  cases filters with
  | nil =>
      cases run
      exact ⟨rfl, rfl⟩
  | cons filter rest =>
      rw [areConjunctive, Bool.and_eq_true] at conjunctive
      simp only [outlineAll, Compilation.runFrom_bind_eq_ok_iff] at run
      obtain ⟨formula, _, filterRun, others, _, restRun, done⟩ := run
      cases done
      have head := isFlat_of_isConjunctive conjunctive.1 filterRun
      have tail := areFlat_of_areConjunctive conjunctive.2 restRun
      rw [Formula.areFlat, Formula.areUnshared, Bool.and_eq_true, Bool.and_eq_true]
      exact ⟨⟨head.1, tail.1⟩, head.2, tail.2⟩

end

end Filter

/-- Whether an entry is to be negated that is a combination. -/
def Check.negatesSet : Check → Bool
  | .denial key _ => (Connective.ofKey? key).isSome
  | _ => false

/-- Whether no combination is negated, so that no chain of negations ends in one. -/
def Json.negatesNoSet (json : Json) : Bool :=
  json.checks.all fun check => !check.negatesSet

/-- What the table of a group lets pass, the group does, if no combination is negated. -/
theorem Group.passes_judge_singleton
    {group : Group} {json : Json} (noSet : json.negatesNoSet)
    (passed : ∀ check ∈ json.checks, group.scope.judge.Passes check) :
    ∀ check ∈ json.checks, (judge [group]).Passes check := by
  intro check member
  cases check with
  | form _ | single _ =>
      exact passed _ member
  | condition key condition =>
      exact (condition_judge_singleton group key condition).2 (passed _ member)
  | denial key value =>
      have isNotSet : Connective.ofKey? key = none := by
        simpa [Check.negatesSet] using List.all_eq_true.1 noSet _ member
      exact Judge.passes_denial_iff.2 (denial_judge_eq_none_iff.2 isNotSet)

/-- What is split among one group is compiled for its table to the same parameters, and if no
clause is a disjunction, to a phrase of the same value. What is compiled for the table is split
among the group, if it is a combination and negates none. -/
theorem splitAmong_singleton_agrees (group : Group) (json : Json) :
    (∀ result, splitAmong [group] json = .ok result →
      ∃ phrase : Phrase,
        Target.phrase ⟨group.scope, .standard⟩ json Dict.empty =
          (.ok phrase, result.parameters) ∧
        compile ⟨group.scope, .standard⟩ json Dict.empty =
          (.ok phrase.text, result.parameters) ∧
        ((Filter.ofJson json).isConjunctive → ∀ truth : String → Truth, ∃ value,
          (result.tree.render GroupEntry.joined).value? truth = some value ∧
            phrase.value? truth = some value)) ∧
    ∀ key value settings parameters text bound,
      json = .obj [(key, value)] → (Connective.ofKey? key).isSome → json.negatesNoSet →
      compile ⟨group.scope, settings⟩ json parameters = (.ok text, bound) →
      ∃ result, splitAmong [group] json = .ok result := by
  constructor
  · intro result split
    obtain ⟨connective, children, outlined, literals, treeIs⟩ :=
      exists_outline_of_splitAmong split
    have wholeLiterals : (Formula.all [.set connective children]).negatesLiterals := by
      rw [Formula.negatesLiterals, Formula.conjunctsNegateLiterals,
        Formula.conjunctNegatesLiterals, literals]
      rfl
    have onTable : Target.outline ⟨group.scope, .standard⟩ json Dict.empty = _ :=
      Filter.outline_of_follows (group.follows_ownedText .standard) outlined
    have compiled := Target.phrase_of_outline onTable
    refine ⟨_, compiled, Target.compile_of_phrase compiled, ?_⟩
    intro conjunctive truth
    obtain ⟨flat, unshared⟩ := Filter.isFlat_of_isConjunctive conjunctive outlined
    rw [Formula.isUnshared, Formula.areUnsharedConjuncts, Bool.and_eq_true] at unshared
    have splices := Formula.value?_render_assemble literals unshared.1 truth
    have means := Formula.value?_phrase_map wholeLiterals .skip truth
    have same :=
      Formula.combine_spliced_of_isFlat wholeLiterals flat fun owned => truth owned.text
    rw [← treeIs, same] at splices
    exact ⟨_, splices, means⟩
  · rintro key value settings parameters text bound rfl isSet noSet compiled
    have passed := Group.passes_judge_singleton noSet <|
      exists_compile_iff_passes.1 ⟨text, bound, compiled⟩
    rw [Judge.passes_checks_iff, Group.grammar_judge, Grammar.isFilter_obj_iff,
      List.forall_mem_singleton] at passed
    obtain ⟨connective, named⟩ := Option.isSome_iff_exists.1 isSet
    have role := KeyRole.ofKey_eq_set_iff.2 named
    obtain ⟨items, rfl, filters⟩ := (Grammar.isEntry_of_set_iff role).1 passed
    rw [exists_splitAmong_iff]
    exact ⟨List.cons_ne_nil group [], key, items, rfl, isSet, filters⟩

/-- Nested conjunctions with entries beside each other, an empty filter and negations. -/
def botsWithScores : Json :=
  .obj [(" And ", .arr
    [.obj [("not", .obj [("not", .obj [("isBot", .obj [("eq", .bool true)])])])],
      .obj [],
      .obj [("and", .arr
        [.obj [("score", .obj [("between", .arr [.int 1, .int 9])]),
          ("isBot", .obj [("ne", .null)])]])]])]

/-- Both number the values of the same field in the order of the document. -/
theorem splitAmong_singleton_agrees_of_botsWithScores :
    ∃ (result : GroupedFilter Phrase) (phrase : Phrase),
      splitAmong [memberGroup] botsWithScores = .ok result ∧
      Entries.names result.parameters.entries = ["isBot_1", "score_1", "score_2", "isBot_2"] ∧
      compile ⟨memberGroup.scope, .standard⟩ botsWithScores Dict.empty =
        (.ok phrase.text, result.parameters) ∧
      (Filter.ofJson botsWithScores).isConjunctive ∧
      (∀ truth : String → Truth, ∃ value,
        (result.tree.render GroupEntry.joined).value? truth = some value ∧
          phrase.value? truth = some value) ∧
      botsWithScores.negatesNoSet ∧
      ∃ again, splitAmong [memberGroup] botsWithScores = .ok again := by
  have split : splitAmong [memberGroup] botsWithScores = .ok _ := rfl
  obtain ⟨compiles, splits⟩ := splitAmong_singleton_agrees memberGroup botsWithScores
  obtain ⟨phrase, -, compiled, agrees⟩ := compiles _ split
  have conjunctive : (Filter.ofJson botsWithScores).isConjunctive := rfl
  have noSet : botsWithScores.negatesNoSet := rfl
  have again := splits " And " _ .standard Dict.empty _ _ rfl rfl noSet compiled
  exact ⟨_, phrase, split, rfl, compiled, conjunctive, agrees conjunctive, noSet, again⟩

end WhereClause
