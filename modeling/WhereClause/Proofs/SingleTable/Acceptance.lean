import WhereClause.Proofs.Grammar

/-!
# What is compiled for one table

Main statements: a compilation takes the course of the checks of its filter, from any parameters
on, which says also what is bound on the way; and the filters that are compiled are those of a
grammar.
-/

namespace WhereClause

namespace Scope

/-- A table decides about a condition by the field that the key names. -/
def judge (scope : Scope) : Judge where
  condition key json :=
    match scope.field? key with
    | none => .checked (some (.unknownField key))
    | some field => field.course json
  denial _ := none

/-- The grammar of filters on a table: under the key of a declared field stands a well-formed
condition, and any entry may be negated. -/
def grammar (scope : Scope) : Grammar where
  condition key json :=
    ∃ field, scope.field? key = some field ∧ field.IsDeclared ∧
      Condition.IsWellFormed field.isDocument json
  negated _ := True

theorem cause_condition_eq_none_iff {scope : Scope} {key : String} {json : Json} :
    (scope.judge.condition key json).cause = none ↔ scope.grammar.condition key json := by
  simp only [judge, grammar]
  cases scope.field? key with
  | none =>
      simp [Course.checked]
  | some field =>
      simp [Field.cause_course_eq_none_iff]

theorem grammar_judge (scope : Scope) : scope.judge.grammar = scope.grammar := by
  refine Grammar.ext ?_ ?_
  · funext key json
    exact propext cause_condition_eq_none_iff
  · funext key
    exact eq_true rfl

end Scope

namespace Target

theorem takes_conditionText (target : Target) (key : String) (json : Json) :
    (target.conditionText key json).Takes (target.scope.judge.condition key json) := by
  simp only [conditionText, Scope.judge]
  cases target.scope.field? key with
  | none =>
      exact .throw (.unknownField key)
  | some field =>
      exact field.takes_condition json

theorem takes_phrase (target : Target) (json : Json) :
    ((Filter.ofJson json).phrase target).Takes (target.scope.judge.course json.checks) := by
  have outlined := Filter.takes_outline target.takes_conditionText (fun _ => rfl) json
  rw [Filter.phrase_eq_outline, map_eq_pure_bind]
  exact outlined.bind_pure (Formula.phrase target.settings.emptyRule)

end Target

/-- A compilation ends with the first rejection among its checks, and whether or not it has one,
the values of the conditions up to there are bound. -/
theorem compile_course (target : Target) (json : Json) (parameters : Parameters) :
    Rejection.of? (compile target json parameters).1 =
        (target.scope.judge.course json.checks).cause ∧
      (compile target json parameters).2 =
        (parameters.bindEach (target.scope.judge.course json.checks).bound).2 := by
  obtain ⟨ends, binds⟩ := target.takes_phrase json parameters
  rw [compile]
  rcases run : ((Filter.ofJson json).phrase target).runFrom parameters with ⟨_ | _, bound⟩
  · rw [run] at ends binds
    exact ⟨ends, binds⟩
  · rw [run] at ends binds
    exact ⟨ends, binds⟩

theorem exists_compile_iff_passes {target : Target} {json : Json} {parameters : Parameters} :
    (∃ text bound, compile target json parameters = (.ok text, bound)) ↔
      ∀ check ∈ json.checks, target.scope.judge.Passes check := by
  rw [← Judge.cause_course_eq_none_iff, ← (compile_course target json parameters).1,
    Rejection.of?_eq_none_iff]
  constructor
  · rintro ⟨text, bound, compiled⟩
    exact ⟨text, by rw [compiled]⟩
  · rintro ⟨text, compiled⟩
    exact ⟨text, (compile target json parameters).2, Prod.ext compiled rfl⟩

/-- Compiling succeeds exactly for the filters of the grammar of the table, whatever has been
bound before and however empty filters are treated. -/
theorem exists_compile_iff_isFilter (target : Target) (json : Json) (parameters : Parameters) :
    (∃ text bound, compile target json parameters = (.ok text, bound)) ↔
      target.scope.grammar.IsFilter json := by
  rw [exists_compile_iff_passes, Judge.passes_checks_iff, Scope.grammar_judge]

end WhereClause
