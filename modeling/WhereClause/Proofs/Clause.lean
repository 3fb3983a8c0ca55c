import WhereClause.Filter
import WhereClause.Proofs.Course

/-!
# Reading clauses

The role of a key asks something of its value. Main statement: the members of an object are read
exactly where none of their values is a misfit, and the first misfit is the reason why they are
not.
-/

namespace WhereClause

namespace KeyRole

theorem ofKey_eq_set_iff {key : String} {connective : Connective} :
    ofKey key = .set connective ↔ Connective.ofKey? key = some connective := by
  rw [ofKey]
  cases Connective.ofKey? key with
  | some found =>
      simp
  | none =>
      by_cases isNot : key = "not"
      · simp [isNot]
      · simp [isNot]

theorem ofKey_eq_negation_iff {key : String} : ofKey key = .negation ↔ key = "not" := by
  constructor
  · intro role
    rw [ofKey] at role
    split at role
    · cases role
    · split at role
      · assumption
      · cases role
  · rintro rfl
    rfl

theorem ofKey_eq_field_iff {key : String} :
    ofKey key = .field ↔ Connective.ofKey? key = none ∧ key ≠ "not" := by
  rw [ofKey]
  cases Connective.ofKey? key with
  | some found =>
      simp
  | none =>
      by_cases isNot : key = "not"
      · simp [isNot]
      · simp [isNot]

end KeyRole

namespace Json

/-- What is wrong with the value of a key, if it is not of the kind that the key asks for. -/
def misfitUnder? (key : String) (value : Json) : Option Misfit :=
  match KeyRole.ofKey key with
  | .set _ =>
      match value with
      | .arr _ => none
      | other => some (.notAList key other)
  | .negation =>
      match value with
      | .obj _ => none
      | other => some (.negatedNonObject other)
  | .field => none

/-- What is wrong with JSON in the place of a filter, as far as its own level goes. -/
def misfit? : Json → Option Misfit
  | .obj members => members.findSome? fun member => misfitUnder? member.1 member.2
  | other => some (.notAnObject other)

end Json

namespace Filter

variable {key : String}

theorem readClause_of_set
    {connective : Connective} (role : KeyRole.ofKey key = .set connective) (json : Json) :
    readClause key json =
      match json with
      | .arr items => .ok (.set connective (readAll items))
      | other => .error (.misfit (.notAList key other)) := by
  cases json <;> simp only [readClause, role]

theorem readClause_of_negation (role : KeyRole.ofKey key = .negation) (json : Json) :
    readClause key json =
      match json with
      | .obj members =>
          if members.length = 1 then .ok (.negation (ofClauses (readClauses members)))
          else .ok (.negation (.rejected (.negationOfSeveral members.length)))
      | other => .error (.misfit (.negatedNonObject other)) := by
  cases json <;> simp only [readClause, role]

theorem readClause_of_field (role : KeyRole.ofKey key = .field) (json : Json) :
    readClause key json = .ok (.leaf key json) := by
  cases json <;> simp only [readClause, role]

/-- Under the key of a set stands a list of filters. -/
theorem exists_items_of_readClause
    {connective : Connective} {json : Json} {clause : Clause}
    (role : KeyRole.ofKey key = .set connective) (read : readClause key json = .ok clause) :
    ∃ items, json = .arr items ∧ clause = .set connective (readAll items) := by
  rw [readClause_of_set role] at read
  cases json with
  | arr items =>
      cases read
      exact ⟨items, rfl, rfl⟩
  | _ =>
      cases read

/-- An object under `not` is rejected later if it has not one member. -/
theorem negation_of_readClause
    {members : List (String × Json)} {clause : Clause} (role : KeyRole.ofKey key = .negation)
    (read : readClause key (.obj members) = .ok clause) :
    members.length = 1 ∧ clause = .negation (ofClauses (readClauses members)) ∨
      members.length ≠ 1 ∧
        clause = .negation (.rejected (.negationOfSeveral members.length)) := by
  rw [readClause_of_negation role] at read
  by_cases single : members.length = 1
  · simp only [if_pos single] at read
    cases read
    exact Or.inl ⟨single, rfl⟩
  · simp only [if_neg single] at read
    cases read
    exact Or.inr ⟨single, rfl⟩

theorem exists_child_of_readClause
    {json : Json} {clause : Clause} (role : KeyRole.ofKey key = .negation)
    (read : readClause key json = .ok clause) : ∃ child, clause = .negation child := by
  cases json with
  | obj members =>
      rcases negation_of_readClause role read with ⟨_, negates⟩ | ⟨_, negates⟩
      · exact ⟨_, negates⟩
      · exact ⟨_, negates⟩
  | _ =>
      rw [readClause_of_negation role] at read
      cases read

theorem of?_readClause (key : String) (json : Json) :
    Rejection.of? (readClause key json) = (Json.misfitUnder? key json).map Rejection.misfit := by
  cases role : KeyRole.ofKey key with
  | set connective =>
      simp only [readClause_of_set role, Json.misfitUnder?, role]
      cases json <;> rfl
  | negation =>
      simp only [readClause_of_negation role, Json.misfitUnder?, role]
      cases json with
      | obj members =>
          by_cases single : members.length = 1
          · simp only [if_pos single]
            rfl
          · simp only [if_neg single]
            rfl
      | _ =>
          rfl
  | field =>
      simp only [readClause_of_field role, Json.misfitUnder?, role]
      rfl

theorem readClauses_cons (key : String) (value : Json) (rest : List (String × Json)) :
    readClauses ((key, value) :: rest) =
      match readClause key value with
      | .error cause => .error cause
      | .ok clause =>
          match readClauses rest with
          | .error cause => .error cause
          | .ok clauses => .ok (clause :: clauses) :=
  rfl

/-- Where members are read, the first of them is, and so are the others. -/
theorem exists_of_readClauses_cons
    {value : Json} {rest : List (String × Json)} {clauses : List Clause}
    (read : readClauses ((key, value) :: rest) = .ok clauses) :
    ∃ clause others, readClause key value = .ok clause ∧ readClauses rest = .ok others ∧
      clauses = clause :: others := by
  rw [readClauses_cons] at read
  cases head : readClause key value with
  | error cause =>
      rw [head] at read
      cases read
  | ok clause =>
      cases tail : readClauses rest with
      | error cause =>
          rw [head, tail] at read
          cases read
      | ok others =>
          rw [head, tail] at read
          cases read
          exact ⟨clause, others, rfl, rfl, rfl⟩

/-- Members are read where none of their values is a misfit. -/
theorem of?_readClauses (members : List (String × Json)) :
    Rejection.of? (readClauses members) =
      (Json.obj members).misfit?.map Rejection.misfit := by
  induction members with
  | nil =>
      rfl
  | cons member rest inductionHypothesis =>
      obtain ⟨key, value⟩ := member
      have head := of?_readClause key value
      rw [Json.misfit?] at inductionHypothesis ⊢
      rw [readClauses_cons, List.findSome?_cons]
      cases misfit : Json.misfitUnder? key value with
      | some cause =>
          rw [misfit] at head
          rw [Rejection.of?_eq_some_iff.1 head]
          rfl
      | none =>
          rw [misfit] at head
          obtain ⟨clause, read⟩ := Rejection.of?_eq_none_iff.1 head
          rw [read, ← inductionHypothesis]
          cases readClauses rest <;> rfl

end Filter

end WhereClause
