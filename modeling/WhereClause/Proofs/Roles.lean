import WhereClause.Proofs.Check

/-!
# The roles of keys, object by object

Main statement: the parts of an outline are the objects that stand in the place of a filter, in
the same order, and each conjunct is of the kind that the role of its key asks for.
-/

namespace WhereClause

/-- The roles of the keys of an object in the place of a filter. -/
def Check.roles? : Check → Option (List KeyRole)
  | .form (.obj members) => some (members.map fun member => KeyRole.ofKey member.1)
  | _ => none

/-- For each object in the place of a filter, the roles of its keys. The whole filter comes first,
and what is inside an object comes behind it. -/
def Json.roles (json : Json) : List (List KeyRole) :=
  json.checks.filterMap Check.roles?

theorem Check.filterMap_roles?_denials (members : List (String × Json)) :
    (Check.denials members).filterMap Check.roles? = [] := by
  rcases members with _ | ⟨⟨key, value⟩, _ | ⟨next, others⟩⟩
  · rfl
  · rfl
  · rfl

namespace Formula

variable {α : Type}

def roleOfConjunct : Conjunct α → KeyRole
  | .set connective _ => .set connective
  | .negation _ => .negation
  | .leaf _ => .field

mutual

/-- For each part of a formula, the roles of its conjuncts. -/
def roles : Formula α → List (List KeyRole)
  | .all conjuncts => conjuncts.map roleOfConjunct :: rolesOfConjuncts conjuncts

def rolesOfConjunct : Conjunct α → List (List KeyRole)
  | .set _ children => rolesOfAll children
  | .negation child => roles child
  | .leaf _ => []

def rolesOfConjuncts : List (Conjunct α) → List (List KeyRole)
  | [] => []
  | conjunct :: rest => rolesOfConjunct conjunct ++ rolesOfConjuncts rest

def rolesOfAll : List (Formula α) → List (List KeyRole)
  | [] => []
  | formula :: rest => roles formula ++ rolesOfAll rest

end

end Formula

namespace Filter

variable {α : Type} {label : String → Json → Compilation α}

/-- Where the object of a filter is outlined, its members are read. -/
theorem exists_clauses_of_outline
    {members : List (String × Json)} {formula : Formula α} {parameters bound : Parameters}
    (run : ((ofClauses (readClauses members)).outline label).runFrom parameters =
      (.ok formula, bound)) :
    ∃ clauses conjuncts, readClauses members = .ok clauses ∧
      (outlineClauses label clauses).runFrom parameters = (.ok conjuncts, bound) ∧
      formula = .all conjuncts := by
  cases read : readClauses members with
  | error cause =>
      rw [read, ofClauses, outline, Compilation.runFrom_throw] at run
      cases run
  | ok clauses =>
      rw [read, ofClauses, outline, Compilation.runFrom_bind_eq_ok_iff] at run
      obtain ⟨conjuncts, final, clausesRun, done⟩ := run
      cases done
      exact ⟨clauses, conjuncts, rfl, clausesRun, rfl⟩

mutual

/-- An outline has the roles of its filter. -/
theorem roles_of_outline
    {json : Json} {formula : Formula α} {parameters bound : Parameters}
    (run : ((ofJson json).outline label).runFrom parameters = (.ok formula, bound)) :
    formula.roles = json.roles := by
  cases json with
  | obj members =>
      obtain ⟨clauses, conjuncts, read, clausesRun, rfl⟩ := exists_clauses_of_outline run
      obtain ⟨own, within⟩ := roles_of_outlineClauses read clausesRun
      rw [Formula.roles, own, within]
      rfl
  | _ =>
      simp [ofJson, outline] at run

theorem roles_of_outlineAll
    {items : List Json} {formulas : List (Formula α)} {parameters bound : Parameters}
    (run : (outlineAll label (readAll items)).runFrom parameters = (.ok formulas, bound)) :
    Formula.rolesOfAll formulas = (Json.checksOfAll items).filterMap Check.roles? := by
  cases items with
  | nil =>
      cases run
      rfl
  | cons item rest =>
      simp only [readAll, outlineAll, Compilation.runFrom_bind_eq_ok_iff] at run
      obtain ⟨formula, _, itemRun, others, _, restRun, done⟩ := run
      cases done
      rw [Formula.rolesOfAll, roles_of_outline itemRun, roles_of_outlineAll restRun,
        Json.checksOfAll, List.filterMap_append]
      rfl

theorem roles_of_outlineClause
    {key : String} {json : Json} {clause : Clause} {conjunct : Conjunct α}
    {parameters bound : Parameters}
    (read : readClause key json = .ok clause)
    (run : (outlineClause label clause).runFrom parameters = (.ok conjunct, bound)) :
    Formula.roleOfConjunct conjunct = KeyRole.ofKey key ∧
      Formula.rolesOfConjunct conjunct =
        (Json.checksOfValue key json).filterMap Check.roles? := by
  cases role : KeyRole.ofKey key with
  | set connective =>
      rw [readClause_of_set role] at read
      -- The value is taken apart before the clause, so that the recursion is on parts of it.
      cases json with
      | arr items =>
          cases read
          rw [outlineClause, Compilation.runFrom_bind_eq_ok_iff] at run
          obtain ⟨formulas, _, childrenRun, done⟩ := run
          cases done
          rw [Json.checksOfValue, role]
          exact ⟨rfl, roles_of_outlineAll childrenRun⟩
      | _ =>
          cases read
  | negation =>
      cases json with
      | obj members =>
          rcases negation_of_readClause role read with ⟨-, rfl⟩ | ⟨-, rfl⟩
          · rw [outlineClause, Compilation.runFrom_bind_eq_ok_iff] at run
            obtain ⟨formula, _, childRun, done⟩ := run
            cases done
            obtain ⟨clauses, conjuncts, found, clausesRun, rfl⟩ :=
              exists_clauses_of_outline childRun
            obtain ⟨own, within⟩ := roles_of_outlineClauses found clausesRun
            refine ⟨rfl, ?_⟩
            simp only [Formula.rolesOfConjunct, Formula.roles, own, within, Json.checksOfValue,
              role, List.filterMap_cons, List.filterMap_append, Check.roles?,
              Check.filterMap_roles?_denials, List.append_nil]
          · simp [outlineClause, outline] at run
      | _ =>
          rw [readClause_of_negation role] at read
          cases read
  | field =>
      rw [readClause_of_field role] at read
      cases read
      rw [outlineClause, Compilation.runFrom_bind_eq_ok_iff] at run
      obtain ⟨made, _, _, done⟩ := run
      cases done
      rw [Json.checksOfValue_of_field role]
      exact ⟨rfl, rfl⟩

theorem roles_of_outlineClauses
    {members : List (String × Json)} {clauses : List Clause} {conjuncts : List (Conjunct α)}
    {parameters bound : Parameters}
    (read : readClauses members = .ok clauses)
    (run : (outlineClauses label clauses).runFrom parameters = (.ok conjuncts, bound)) :
    conjuncts.map Formula.roleOfConjunct =
        members.map (fun member => KeyRole.ofKey member.1) ∧
      Formula.rolesOfConjuncts conjuncts =
        (Json.checksOfMembers members).filterMap Check.roles? := by
  cases members with
  | nil =>
      cases read
      cases run
      exact ⟨rfl, rfl⟩
  | cons member rest =>
      obtain ⟨key, value⟩ := member
      obtain ⟨clause, others, clauseRead, restRead, rfl⟩ := exists_of_readClauses_cons read
      simp only [outlineClauses, Compilation.runFrom_bind_eq_ok_iff] at run
      obtain ⟨conjunct, _, clauseRun, remaining, _, restRun, done⟩ := run
      cases done
      obtain ⟨ownRole, headRoles⟩ := roles_of_outlineClause clauseRead clauseRun
      obtain ⟨ownRoles, tailRoles⟩ := roles_of_outlineClauses restRead restRun
      rw [List.map_cons, List.map_cons, ownRole, ownRoles, Formula.rolesOfConjuncts, headRoles,
        tailRoles, Json.checksOfMembers, List.filterMap_append]
      exact ⟨rfl, rfl⟩

end

end Filter

end WhereClause
