import WhereClause.Condition
import WhereClause.Proofs.Parameters

/-!
# The course of a compilation

The values that a compilation binds, in order, and the rejection that ends it, if there is one.
Main statements: a compilation of several steps has the courses of the steps one after the other,
up to the first rejection; and the course of a condition does not depend on the parameters.
-/

namespace WhereClause

namespace Parameters

/-- Binds values one after the other, each under a stem of its own. -/
def bindEach (parameters : Parameters) : List (String × Json) → List String × Parameters
  | [] => ([], parameters)
  | (stem, value) :: rest =>
      let (name, extended) := parameters.bind stem value
      let (names, final) := extended.bindEach rest
      (name :: names, final)

theorem bindEach_cons (parameters : Parameters) (call : String × Json)
    (rest : List (String × Json)) :
    parameters.bindEach (call :: rest) =
      ((parameters.bind call.1 call.2).1 ::
          ((parameters.bind call.1 call.2).2.bindEach rest).1,
        ((parameters.bind call.1 call.2).2.bindEach rest).2) :=
  rfl

theorem bindEach_append (parameters : Parameters) (left right : List (String × Json)) :
    parameters.bindEach (left ++ right) =
      ((parameters.bindEach left).1 ++ ((parameters.bindEach left).2.bindEach right).1,
        ((parameters.bindEach left).2.bindEach right).2) := by
  induction left generalizing parameters with
  | nil =>
      rfl
  | cons call rest inductionHypothesis =>
      have tail := inductionHypothesis (parameters.bind call.1 call.2).2
      rw [List.cons_append, bindEach_cons, bindEach_cons, tail]
      rfl

theorem bindEach_map (parameters : Parameters) (stem : String) (values : List Json) :
    parameters.bindEach (values.map fun value => (stem, value)) =
      bindAll stem values parameters := by
  induction values generalizing parameters with
  | nil =>
      rfl
  | cons value rest inductionHypothesis =>
      have tail := inductionHypothesis (parameters.bind stem value).2
      rw [List.map_cons, bindEach_cons, tail]
      rfl

theorem binds_bindEach (parameters : Parameters) (calls : List (String × Json)) :
    Binds parameters (parameters.bindEach calls).1 (calls.map Prod.snd)
      (parameters.bindEach calls).2 := by
  induction calls generalizing parameters with
  | nil =>
      exact Binds.refl parameters
  | cons call rest inductionHypothesis =>
      have first : Binds parameters [(parameters.bind call.1 call.2).1] [call.2]
          (parameters.bind call.1 call.2).2 :=
        ⟨rfl, entries_bind parameters call.1 call.2⟩
      have others := inductionHypothesis (parameters.bind call.1 call.2).2
      exact first.trans others

end Parameters

/-- The rejection in a result, if it is one. -/
def Rejection.of? {α : Type} : Except Rejection α → Option Rejection
  | .ok _ => none
  | .error cause => some cause

theorem Rejection.of?_eq_none_iff {α : Type} {result : Except Rejection α} :
    of? result = none ↔ ∃ value, result = .ok value := by
  cases result with
  | error cause =>
      simp [of?]
  | ok value =>
      simp [of?]

theorem Rejection.of?_eq_some_iff
    {α : Type} {result : Except Rejection α} {cause : Rejection} :
    of? result = some cause ↔ result = .error cause := by
  cases result with
  | error found =>
      simp [of?]
  | ok value =>
      simp [of?]

/-- The values that a compilation binds, with the stems of their names, and the rejection that
ends it. -/
structure Course where
  bound : List (String × Json)
  cause : Option Rejection
  deriving DecidableEq

namespace Course

/-- The course of a step that binds nothing. -/
def checked (cause : Option Rejection) : Course :=
  ⟨[], cause⟩

/-- One course after another; a rejection leaves no second one. -/
def andThen (first second : Course) : Course :=
  match first.cause with
  | none => ⟨first.bound ++ second.bound, second.cause⟩
  | some _ => first

def ofAll (courses : List Course) : Course :=
  courses.foldr andThen (checked none)

@[simp]
theorem checked_none_andThen (course : Course) : (checked none).andThen course = course :=
  rfl

@[simp]
theorem checked_some_andThen (cause : Rejection) (course : Course) :
    (checked (some cause)).andThen course = checked (some cause) :=
  rfl

@[simp]
theorem andThen_checked_none (course : Course) : course.andThen (checked none) = course := by
  obtain ⟨bound, _ | cause⟩ := course
  · simp [andThen, checked]
  · rfl

theorem andThen_assoc (first second third : Course) :
    (first.andThen second).andThen third = first.andThen (second.andThen third) := by
  obtain ⟨bound, _ | cause⟩ := first
  · obtain ⟨others, _ | cause⟩ := second
    · simp [andThen]
    · rfl
  · rfl

theorem ofAll_append (left right : List Course) :
    ofAll (left ++ right) = (ofAll left).andThen (ofAll right) := by
  induction left with
  | nil =>
      rfl
  | cons course rest inductionHypothesis =>
      have tail : ofAll (course :: (rest ++ right)) = course.andThen (ofAll (rest ++ right)) :=
        rfl
      rw [List.cons_append, tail, inductionHypothesis, ← andThen_assoc]
      rfl

/-- What ends a course is the first rejection in it. -/
theorem cause_ofAll (courses : List Course) :
    (ofAll courses).cause = courses.findSome? cause := by
  induction courses with
  | nil =>
      rfl
  | cons course rest inductionHypothesis =>
      have tail : ofAll (course :: rest) = course.andThen (ofAll rest) := rfl
      rw [tail, List.findSome?_cons, andThen]
      cases ofCourse : course.cause with
      | none =>
          exact inductionHypothesis
      | some cause =>
          exact ofCourse

end Course

namespace Compilation

/-- Whether a compilation takes a course, whatever the parameters are. -/
def Takes {α : Type} (compilation : Compilation α) (course : Course) : Prop :=
  ∀ parameters : Parameters,
    Rejection.of? (compilation.runFrom parameters).1 = course.cause ∧
      (compilation.runFrom parameters).2 = (parameters.bindEach course.bound).2

namespace Takes

variable {α β : Type} {compilation : Compilation α} {course : Course}

theorem pure (value : α) : Takes (Pure.pure value) (.checked none) :=
  fun _ => ⟨rfl, rfl⟩

theorem throw (cause : Rejection) :
    Takes (MonadExcept.throw cause : Compilation α) (.checked (some cause)) :=
  fun _ => ⟨rfl, rfl⟩

theorem bindAll (stem : String) (values : List Json) :
    Takes (bindAll stem values) ⟨values.map fun value => (stem, value), none⟩ := by
  intro parameters
  rw [runFrom_bindAll, Parameters.bindEach_map]
  exact ⟨rfl, rfl⟩

/-- A second step takes its course where the first one has come to an end; it may depend on what
the first one gives. -/
theorem bind
    {next : α → Compilation β} {second : Course} (takes : compilation.Takes course)
    (nextTakes : ∀ parameters value bound,
      compilation.runFrom parameters = (.ok value, bound) → (next value).Takes second) :
    (compilation >>= next).Takes (course.andThen second) := by
  intro parameters
  obtain ⟨ends, binds⟩ := takes parameters
  rw [runFrom_bind]
  rcases run : compilation.runFrom parameters with ⟨cause | value, bound⟩
  · rw [run] at ends binds
    have ended : course.cause = some cause := ends.symm
    rw [Course.andThen, ended]
    exact ⟨ended.symm, binds⟩
  · rw [run] at ends binds
    have goesOn : course.cause = none := ends.symm
    have boundIs : bound = (parameters.bindEach course.bound).2 := binds
    obtain ⟨secondEnds, secondBinds⟩ := nextTakes parameters value bound run bound
    rw [Course.andThen, goesOn, Parameters.bindEach_append]
    refine ⟨secondEnds, ?_⟩
    rw [← boundIs]
    exact secondBinds

theorem bind_pure (result : α → β) (takes : compilation.Takes course) :
    (compilation >>= fun value => Pure.pure (result value)).Takes course := by
  have ends := takes.bind fun _ value _ _ => pure (result value)
  rwa [Course.andThen_checked_none] at ends

end Takes

end Compilation

namespace Field

/-- The values of a condition on the field, once the condition is read and the field has SQL. -/
def valuesOf (field : Field) (json : Json) : Except Rejection (List Json) := do
  let condition ← Condition.ofJson field.isDocument json
  let _ ← field.sql
  condition.values field.isDocument

/-- The course of a condition on the field; one that is rejected binds nothing. -/
def course (field : Field) (json : Json) : Course :=
  match field.valuesOf json with
  | .ok values => ⟨values.map fun value => (field.stem, value), none⟩
  | .error cause => .checked (some cause)

theorem cause_course (field : Field) (json : Json) :
    (field.course json).cause = Rejection.of? (field.valuesOf json) := by
  rw [course]
  cases field.valuesOf json <;> rfl

theorem bound_course_of_cause
    {field : Field} {json : Json} {cause : Rejection}
    (rejected : (field.course json).cause = some cause) : (field.course json).bound = [] := by
  rw [course] at rejected ⊢
  cases values : field.valuesOf json with
  | error found =>
      rfl
  | ok bound =>
      rw [values] at rejected
      cases rejected

theorem takes_condition (field : Field) (json : Json) :
    (field.condition json).Takes (field.course json) := by
  rw [condition, course, valuesOf]
  cases Condition.ofJson field.isDocument json with
  | error cause =>
      exact .throw cause
  | ok condition =>
      cases field.sql with
      | error cause =>
          exact .throw cause
      | ok column =>
          simp only [Compilation.require, pure_bind]
          simp only [bind, Except.bind]
          cases condition.values field.isDocument with
          | error cause =>
              exact .throw cause
          | ok values =>
              have binds := Compilation.Takes.bindAll field.stem values
              exact binds.bind_pure fun names => condition.text field.isDocument column names

end Field

end WhereClause
