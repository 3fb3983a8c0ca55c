import WhereClause.Parameters

/-!
# Runs of composed compilations

What the run of a composed compilation says about the runs of its parts.
-/

namespace WhereClause.Compilation

universe u

variable {α β : Type}

@[simp]
theorem runFrom_pure (value : α) (parameters : Parameters) :
    (pure value : Compilation α).runFrom parameters = (.ok value, parameters) :=
  rfl

@[simp]
theorem runFrom_throw (cause : Rejection) (parameters : Parameters) :
    (throw cause : Compilation α).runFrom parameters = (.error cause, parameters) :=
  rfl

theorem runFrom_bind
    (first : Compilation α) (next : α → Compilation β) (parameters : Parameters) :
    (first >>= next).runFrom parameters =
      match first.runFrom parameters with
      | (.ok value, bound) => (next value).runFrom bound
      | (.error cause, bound) => (.error cause, bound) := by
  simp only [runFrom, ExceptT.run_bind, StateT.run_bind]
  rcases StateT.run (ExceptT.run first) parameters with ⟨_ | _, _⟩ <;> rfl

/-- A sequence succeeds when both of its steps do, one after the other. -/
theorem runFrom_bind_eq_ok_iff
    {first : Compilation α} {next : α → Compilation β}
    {parameters final : Parameters} {result : β} :
    (first >>= next).runFrom parameters = (.ok result, final) ↔
      ∃ value bound, first.runFrom parameters = (.ok value, bound) ∧
        (next value).runFrom bound = (.ok result, final) := by
  rw [runFrom_bind]
  rcases first.runFrom parameters with ⟨_ | value, bound⟩
  · simp
  · constructor
    · intro run
      exact ⟨value, bound, rfl, run⟩
    · rintro ⟨_, _, ⟨⟩, run⟩
      exact run

@[simp]
theorem runFrom_map
    (change : α → β) (compilation : Compilation α) (parameters : Parameters) :
    (change <$> compilation).runFrom parameters =
      ((compilation.runFrom parameters).1.map change,
        (compilation.runFrom parameters).2) := by
  rw [map_eq_pure_bind, runFrom_bind]
  rcases compilation.runFrom parameters with ⟨_ | _, _⟩ <;> rfl

theorem runFrom_require_eq_ok_iff
    {check : Except Rejection α} {parameters final : Parameters} {value : α} :
    (require check).runFrom parameters = (.ok value, final) ↔
      check = .ok value ∧ final = parameters := by
  cases check with
  | error cause =>
      simp [require]
  | ok held =>
      simp [require, eq_comm]

theorem runFrom_bindAll
    (stem : String) (values : List Json) (parameters : Parameters) :
    (bindAll stem values).runFrom parameters =
      (.ok (Parameters.bindAll stem values parameters).1,
        (Parameters.bindAll stem values parameters).2) :=
  rfl

end WhereClause.Compilation
