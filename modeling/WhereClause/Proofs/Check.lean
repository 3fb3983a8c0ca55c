import WhereClause.Proofs.Clause
import WhereClause.Proofs.SingleTable.Layout

/-!
# The checks of a filter

A filter is put through its checks in a fixed order: an object is looked at as a whole before its
entries are gone through, and what is negated is counted before it is looked at. Main statement:
compiling for one table takes the course of these checks.
-/

namespace WhereClause

/-- A check of a filter: whether JSON is an object whose values are of the kinds that their keys
ask for, whether what is negated has one entry, whether a condition can be compiled, and whether
an entry that has been checked itself can be negated. -/
inductive Check where
  | form (json : Json)
  | single (count : Nat)
  | condition (key : String) (json : Json)
  | denial (key : String) (json : Json)
  deriving DecidableEq

/-- The denial of the only entry. -/
def Check.denials : List (String × Json) → List Check
  | [(key, value)] => [.denial key value]
  | _ => []

namespace Json

mutual

/-- The checks of a filter, in order. -/
def checks : Json → List Check
  | .obj members => .form (.obj members) :: checksOfMembers members
  | other => [.form other]

def checksOfAll : List Json → List Check
  | [] => []
  | item :: rest => checks item ++ checksOfAll rest

/-- The checks of the value of a key. -/
def checksOfValue (key : String) : Json → List Check
  | .arr items =>
      match KeyRole.ofKey key with
      | .set _ => checksOfAll items
      | .negation => []
      | .field => [.condition key (.arr items)]
  | .obj members =>
      match KeyRole.ofKey key with
      | .set _ => []
      | .negation =>
          .single members.length :: .form (.obj members) ::
            (checksOfMembers members ++ Check.denials members)
      | .field => [.condition key (.obj members)]
  | other => if KeyRole.ofKey key = .field then [.condition key other] else []

def checksOfMembers : List (String × Json) → List Check
  | [] => []
  | (key, value) :: rest => checksOfValue key value ++ checksOfMembers rest

end

theorem checksOfValue_of_field {key : String} (role : KeyRole.ofKey key = .field) (json : Json) :
    checksOfValue key json = [.condition key json] := by
  cases json <;> simp only [checksOfValue, role, if_true]

end Json

/-- What decides about the conditions and the negations of a filter. -/
structure Judge where
  condition : String → Json → Course
  denial : String → Option Rejection

namespace Judge

variable (judge : Judge)

/-- The course of one check. -/
def verdict : Check → Course
  | .form json => .checked (json.misfit?.map Rejection.misfit)
  | .single count => .checked (if count = 1 then none else some (.negationOfSeveral count))
  | .condition key json => judge.condition key json
  | .denial key _ => .checked (judge.denial key)

def Passes (check : Check) : Prop :=
  (judge.verdict check).cause = none

/-- The course of several checks, one after the other. -/
def course (checks : List Check) : Course :=
  .ofAll (checks.map judge.verdict)

theorem course_cons (check : Check) (checks : List Check) :
    judge.course (check :: checks) = (judge.verdict check).andThen (judge.course checks) :=
  rfl

theorem course_singleton (check : Check) : judge.course [check] = judge.verdict check :=
  Course.andThen_checked_none _

theorem course_append (left right : List Check) :
    judge.course (left ++ right) = (judge.course left).andThen (judge.course right) := by
  rw [course, List.map_append, Course.ofAll_append]
  rfl

/-- What is negated is checked on its own first, and then for whether it can be negated. -/
theorem course_negation
    (first : Check) (checks : List Check) (key : String) (value : Json) :
    judge.course (.single 1 :: first :: (checks ++ Check.denials [(key, value)])) =
      (judge.course (first :: checks)).andThen (judge.verdict (.denial key value)) := by
  have counted : judge.verdict (.single 1) = .checked none := rfl
  rw [course_cons, counted, Course.checked_none_andThen, ← List.cons_append, course_append,
    Check.denials, course_singleton]

/-- The checks of several entries in the place of one end with their number. -/
theorem course_single_of_ne {count : Nat} (several : count ≠ 1) (checks : List Check) :
    judge.course (.single count :: checks) = .checked (some (.negationOfSeveral count)) := by
  rw [course_cons, verdict, if_neg several, Course.checked_some_andThen]

variable {judge}

theorem cause_course_eq_none_iff {checks : List Check} :
    (judge.course checks).cause = none ↔ ∀ check ∈ checks, judge.Passes check := by
  rw [course, Course.cause_ofAll, List.findSome?_eq_none_iff, List.forall_mem_map]
  rfl

/-- A course ends with the rejection of the first check that is not passed. -/
theorem cause_course_eq_some_iff {checks : List Check} {cause : Rejection} :
    (judge.course checks).cause = some cause ↔
      ∃ before check after, checks = before ++ check :: after ∧
        (judge.verdict check).cause = some cause ∧
        ∀ earlier ∈ before, judge.Passes earlier := by
  rw [course, Course.cause_ofAll, List.findSome?_map, List.findSome?_eq_some_iff]
  rfl

end Judge

namespace Filter

variable {α : Type} {judge : Judge}

/-- Reading the members of an object is its first check; what follows is done with the clauses
that have been read. -/
theorem takes_ofClauses
    (visit : Filter → Compilation α) {members : List (String × Json)}
    (ofRejected : ∀ cause, (visit (.rejected cause)).Takes (.checked (some cause)))
    (ofRead : ∀ clauses, readClauses members = .ok clauses →
      (visit (.all clauses)).Takes (judge.course (Json.checksOfMembers members))) :
    (visit (ofClauses (readClauses members))).Takes
      (judge.course (.form (.obj members) :: Json.checksOfMembers members)) := by
  have misfit := of?_readClauses members
  rw [Judge.course_cons, Judge.verdict, ← misfit]
  cases read : readClauses members with
  | error cause =>
      exact ofRejected cause
  | ok clauses =>
      exact ofRead clauses read

section Outline

variable {label : String → Json → Compilation α}

theorem takes_outline_all
    {clauses : List Clause} {course : Course}
    (takes : (outlineClauses label clauses).Takes course) :
    (outline label (.all clauses)).Takes course :=
  takes.bind_pure Formula.all

/-- A negation takes the course of what is negated, if everything may be negated. -/
theorem takes_outline_negation
    {members : List (String × Json)} (allows : ∀ key, judge.denial key = none)
    (single : members.length = 1)
    (child : ((ofClauses (readClauses members)).outline label).Takes
      (judge.course (.form (.obj members) :: Json.checksOfMembers members))) :
    (outlineClause label (.negation (ofClauses (readClauses members)))).Takes
      (judge.course (.single members.length :: .form (.obj members) ::
        (Json.checksOfMembers members ++ Check.denials members))) := by
  obtain ⟨⟨key, value⟩, rfl⟩ := List.length_eq_one_iff.1 single
  have allowed : judge.verdict (.denial key value) = .checked none := by
    rw [Judge.verdict, allows key]
  rw [List.length_singleton, Judge.course_negation, allowed, Course.andThen_checked_none]
  exact child.bind_pure Conjunct.negation

mutual

/-- An outline takes the course of the checks of its filter, if everything may be negated. -/
theorem takes_outline
    (ofLabel : ∀ key json, (label key json).Takes (judge.condition key json))
    (allows : ∀ key, judge.denial key = none) (json : Json) :
    ((ofJson json).outline label).Takes (judge.course json.checks) := by
  cases json with
  | obj members =>
      refine takes_ofClauses (outline label) (fun cause => .throw cause) fun clauses read => ?_
      exact takes_outline_all (takes_outlineClauses ofLabel allows members read)
  | _ =>
      simp only [Json.checks, Judge.course_singleton]
      exact .throw _

theorem takes_outlineAll
    (ofLabel : ∀ key json, (label key json).Takes (judge.condition key json))
    (allows : ∀ key, judge.denial key = none) (items : List Json) :
    (outlineAll label (readAll items)).Takes (judge.course (Json.checksOfAll items)) := by
  cases items with
  | nil =>
      exact .pure []
  | cons item rest =>
      have head := takes_outline ofLabel allows item
      have tail := takes_outlineAll ofLabel allows rest
      rw [Json.checksOfAll, Judge.course_append]
      exact head.bind fun _ formula _ _ => tail.bind_pure fun formulas => formula :: formulas

theorem takes_outlineClause
    (ofLabel : ∀ key json, (label key json).Takes (judge.condition key json))
    (allows : ∀ key, judge.denial key = none) (key : String) (json : Json) {clause : Clause}
    (read : readClause key json = .ok clause) :
    (outlineClause label clause).Takes (judge.course (Json.checksOfValue key json)) := by
  cases role : KeyRole.ofKey key with
  | set connective =>
      rw [readClause_of_set role] at read
      -- The value is taken apart before the clause, so that the recursion is on parts of it.
      cases json with
      | arr items =>
          cases read
          rw [Json.checksOfValue, role]
          exact (takes_outlineAll ofLabel allows items).bind_pure (Conjunct.set connective)
      | _ =>
          cases read
  | negation =>
      cases json with
      | obj members =>
          rw [Json.checksOfValue, role]
          rcases negation_of_readClause role read with ⟨single, rfl⟩ | ⟨several, rfl⟩
          · have child : ((ofClauses (readClauses members)).outline label).Takes
                (judge.course (.form (.obj members) :: Json.checksOfMembers members)) := by
              refine takes_ofClauses (outline label) (fun cause => .throw cause) ?_
              intro clauses found
              exact takes_outline_all (takes_outlineClauses ofLabel allows members found)
            exact takes_outline_negation allows single child
          · rw [Judge.course_single_of_ne judge several]
            exact .throw _
      | _ =>
          rw [readClause_of_negation role] at read
          cases read
  | field =>
      rw [readClause_of_field role] at read
      cases read
      rw [Json.checksOfValue_of_field role, Judge.course_singleton]
      exact (ofLabel key json).bind_pure Conjunct.leaf

theorem takes_outlineClauses
    (ofLabel : ∀ key json, (label key json).Takes (judge.condition key json))
    (allows : ∀ key, judge.denial key = none) (members : List (String × Json))
    {clauses : List Clause} (read : readClauses members = .ok clauses) :
    (outlineClauses label clauses).Takes (judge.course (Json.checksOfMembers members)) := by
  cases members with
  | nil =>
      cases read
      exact .pure []
  | cons member rest =>
      obtain ⟨key, value⟩ := member
      obtain ⟨clause, others, clauseRead, restRead, rfl⟩ := exists_of_readClauses_cons read
      have head := takes_outlineClause ofLabel allows key value clauseRead
      have tail := takes_outlineClauses ofLabel allows rest restRead
      rw [Json.checksOfMembers, Judge.course_append]
      exact head.bind fun _ conjunct _ _ =>
        tail.bind_pure fun conjuncts => conjunct :: conjuncts

end

end Outline

end Filter

end WhereClause
