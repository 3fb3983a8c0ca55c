import WhereClause.Proofs.SingleTable.Acceptance
import WhereClause.Proofs.SingleTable.Meaning

/-!
# Parameters in use

Filters are compiled and values are bound one after the other, from the same parameters on. Main
statement: whatever is done and whether or not it succeeds, parameters only grow, so that the
names that are allocated are new and keep their values to the end.
-/

namespace WhereClause

theorem Entries.get?_append_of_eq_some
    {α : Type} {name : String} {value : α} {entries : List (String × α)}
    (added : List (String × α)) (held : Entries.get? name entries = some value) :
    Entries.get? name (entries ++ added) = some value := by
  induction entries with
  | nil =>
      cases held
  | cons entry rest inductionHypothesis =>
      obtain ⟨other, kept⟩ := entry
      rw [List.cons_append, Entries.get?]
      rw [Entries.get?] at held
      by_cases same : other = name
      · rw [if_pos same] at held ⊢
        exact held
      · rw [if_neg same] at held ⊢
        exact inductionHypothesis held

namespace Parameters

/-- Whether every name that is bound keeps its value. -/
def Grows (parameters final : Parameters) : Prop :=
  ∀ name value, parameters.get? name = some value → final.get? name = some value

theorem grows_bindEach (parameters : Parameters) (calls : List (String × Json)) :
    Grows parameters (parameters.bindEach calls).2 := by
  intro name value held
  have appended := (binds_bindEach parameters calls).appended
  rw [Dict.get?, appended]
  exact Entries.get?_append_of_eq_some _ held

end Parameters

/-- What can be done with parameters. -/
inductive Operation where
  | compile (target : Target) (json : Json)
  | condition (field : Field) (json : Json)
  | bind (stem : String) (value : Json)
  | fresh (stem : String)
  | get (name : String)

/-- What an operation answers. -/
inductive Answer where
  | text (result : Except Rejection String)
  | name (name : String)
  | value (held : Option Json)

namespace Operation

/-- The answer to an operation, and the parameters afterwards. -/
def perform (operation : Operation) (parameters : Parameters) : Answer × Parameters :=
  match operation with
  | .compile target json =>
      let (result, bound) := WhereClause.compile target json parameters
      (.text result, bound)
  | .condition field json =>
      let (result, bound) := (field.condition json).runFrom parameters
      (.text result, bound)
  | .bind stem value =>
      let (name, bound) := parameters.bind stem value
      (.name name, bound)
  | .fresh stem => (.name (parameters.fresh stem), parameters)
  | .get name => (.value (parameters.get? name), parameters)

/-- The parameters after several operations. -/
def performAll (operations : List Operation) (parameters : Parameters) : Parameters :=
  operations.foldl (fun bound operation => (operation.perform bound).2) parameters

/-- The values that an operation binds, with the stems of their names. -/
def calls : Operation → List (String × Json)
  | .compile target json => (target.scope.judge.course json.checks).bound
  | .condition field json => (field.course json).bound
  | .bind stem value => [(stem, value)]
  | .fresh _ | .get _ => []

/-- The names under which several operations bind values. -/
def allocated (operations : List Operation) (parameters : Parameters) : List String :=
  (parameters.bindEach (operations.flatMap calls)).1

/-- An operation does nothing to the parameters but to bind its values. -/
theorem snd_perform (operation : Operation) (parameters : Parameters) :
    (operation.perform parameters).2 = (parameters.bindEach operation.calls).2 := by
  cases operation with
  | compile target json =>
      exact (compile_course target json parameters).2
  | condition field json =>
      exact (field.takes_condition json parameters).2
  | bind stem value | fresh stem | get name =>
      rfl

theorem performAll_eq_bindEach (operations : List Operation) (parameters : Parameters) :
    performAll operations parameters =
      (parameters.bindEach (operations.flatMap calls)).2 := by
  induction operations generalizing parameters with
  | nil =>
      rfl
  | cons operation rest inductionHypothesis =>
      have tail := inductionHypothesis (operation.perform parameters).2
      rw [snd_perform] at tail
      rw [List.flatMap_cons, Parameters.bindEach_append, ← tail, ← snd_perform]
      rfl

theorem binds_allocated (operations : List Operation) (parameters : Parameters) :
    parameters.Binds (allocated operations parameters)
      ((operations.flatMap calls).map Prod.snd) (performAll operations parameters) := by
  rw [performAll_eq_bindEach]
  exact parameters.binds_bindEach (operations.flatMap calls)

theorem performAll_append (before later : List Operation) (parameters : Parameters) :
    performAll (before ++ later) parameters = performAll later (performAll before parameters) :=
  List.foldl_append

theorem grows_perform (operation : Operation) (parameters : Parameters) :
    parameters.Grows (operation.perform parameters).2 := by
  rw [snd_perform]
  exact parameters.grows_bindEach operation.calls

theorem grows_performAll (operations : List Operation) (parameters : Parameters) :
    parameters.Grows (performAll operations parameters) := by
  rw [performAll_eq_bindEach]
  exact parameters.grows_bindEach (operations.flatMap calls)

theorem allocated_append (before later : List Operation) (parameters : Parameters) :
    allocated (before ++ later) parameters =
      allocated before parameters ++ allocated later (performAll before parameters) := by
  rw [allocated, List.flatMap_append, Parameters.bindEach_append, performAll_eq_bindEach]
  rfl

/-- A condition that is rejected has no values to bind. -/
theorem snd_perform_condition
    {field : Field} {json : Json} {parameters : Parameters} {cause : Rejection}
    (rejected : ((condition field json).perform parameters).1 = .text (.error cause)) :
    ((condition field json).perform parameters).2 = parameters := by
  have ends := (field.takes_condition json parameters).1
  have failed : ((field.condition json).runFrom parameters).1 = .error cause :=
    Answer.text.inj rejected
  rw [failed] at ends
  rw [snd_perform, calls, Field.bound_course_of_cause ends.symm]
  rfl

end Operation

/-- Parameters only grow while filters and conditions are compiled and values are bound, looked
up and given names, in any order and whether or not this succeeds: what has been bound keeps its
value to the end, and with it the placeholders of the texts that have been returned. The names
that are allocated are distinct and not taken at the start. A name that is looked up or found to
be free, and a condition that is rejected, bind nothing. -/
theorem session_grows (start : Parameters) (operations : List Operation) :
    Parameters.Binds start (Operation.allocated operations start)
      ((operations.flatMap Operation.calls).map Prod.snd)
      (Operation.performAll operations start) ∧
    (Operation.allocated operations start).Nodup ∧
    (∀ name ∈ Operation.allocated operations start, start.get? name = none) ∧
    (∀ before operation later, operations = before ++ operation :: later →
      (Operation.performAll before start).Grows
        (operation.perform (Operation.performAll before start)).2 ∧
      (operation.perform (Operation.performAll before start)).2.Grows
        (Operation.performAll operations start) ∧
      ∀ stem value, operation = .bind stem value →
        ∃ name ∈ Operation.allocated operations start,
          (operation.perform (Operation.performAll before start)).1 = .name name) ∧
    ∀ parameters,
      (∀ stem, ((Operation.fresh stem).perform parameters).2 = parameters) ∧
      (∀ name, ((Operation.get name).perform parameters).2 = parameters) ∧
      ∀ field json cause,
        ((Operation.condition field json).perform parameters).1 = .text (.error cause) →
        ((Operation.condition field json).perform parameters).2 = parameters := by
  have binds := Operation.binds_allocated operations start
  refine ⟨binds, binds.nodup, fun name member => binds.get?_eq_none member, ?_, ?_⟩
  · rintro before operation later rfl
    refine ⟨operation.grows_perform _, ?_, ?_⟩
    · rw [Operation.performAll_append]
      exact Operation.grows_performAll later _
    · rintro stem value rfl
      refine ⟨_, ?_, rfl⟩
      rw [Operation.allocated_append]
      exact List.mem_append_right _ List.mem_cons_self
  · intro parameters
    exact ⟨fun _ => rfl, fun _ => rfl, fun _ _ _ => Operation.snd_perform_condition⟩

/-- A filter that is rejected behind its first condition, and a condition of the same field, where
a name like theirs is taken. -/
def scoreSession : List Operation :=
  [.compile memberTable (.obj [("and", .arr
      [.obj [("score", .obj [("gt", .int 1)])], .obj [("plan", .obj [("eq", .int 2)])]])]),
    .condition (.column "score" "m.score") (.int 3),
    .fresh "score",
    .bind "score" (.str "low"),
    .condition (.column "score" "m.score") (.obj [("lt", .int 5)])]

/-- What was bound before the filter was rejected is neither lost nor bound again. -/
theorem session_grows_of_scoreSession :
    ∃ start final : Parameters,
      start.entries = [("score_1", .int 7)] ∧
      Operation.performAll scoreSession start = final ∧
      final.entries =
        [("score_1", .int 7), ("score_2", .int 1), ("score_3", .str "low"),
          ("score_4", .int 5)] ∧
      Operation.allocated scoreSession start = ["score_2", "score_3", "score_4"] ∧
      (Operation.allocated scoreSession start).Nodup ∧
      (∀ name ∈ Operation.allocated scoreSession start, start.get? name = none) ∧
      (Operation.performAll (scoreSession.take 2) start).Grows final := by
  obtain ⟨-, distinct, new, grows, -⟩ :=
    session_grows (Dict.ofList [("score_1", .int 7)]) scoreSession
  obtain ⟨first, second, -⟩ := grows (scoreSession.take 2) (.fresh "score") _ rfl
  exact ⟨_, _, rfl, rfl, rfl, rfl, distinct, new,
    fun name value held => second name value (first name value held)⟩

end WhereClause
