import WhereClause.Proofs.Distribution.Assembly
import WhereClause.Proofs.Grammar

/-!
# The course of a distribution

Main statements: what is negated adds one condition or none, and adding a filter to a tree takes
the course of its checks, whatever the tree is.
-/

namespace WhereClause

namespace Group

/-- Groups decide about a condition by the field of the group that owns the key; a combination
cannot be negated. -/
def judge (groups : List Group) : Judge where
  condition key json :=
    match owner? groups key with
    | none => .checked (some (.fieldOfNoGroup key))
    | some (_, field) => field.course json
  denial key := (Connective.ofKey? key).map fun _ => .scatteredNegation 0

/-- The grammar of filters over groups: under the key of a declared field of some group stands a
well-formed condition, and what is negated is no combination. -/
def grammar (groups : List Group) : Grammar where
  condition key json :=
    ∃ group field, owner? groups key = some (group, field) ∧ field.IsDeclared ∧
      Condition.IsWellFormed field.isDocument json
  negated key := Connective.ofKey? key = none

variable {groups : List Group} {key : String}

theorem cause_condition_judge_eq_none_iff {json : Json} :
    ((judge groups).condition key json).cause = none ↔ (grammar groups).condition key json := by
  simp only [judge, grammar]
  rcases owner? groups key with _ | ⟨group, field⟩
  · simp [Course.checked]
  · show (field.course json).cause = none ↔ _
    rw [Field.cause_course_eq_none_iff]
    constructor
    · intro admitted
      exact ⟨group, field, rfl, admitted⟩
    · rintro ⟨_, _, owns, admitted⟩
      cases owns
      exact admitted

theorem denial_judge_eq_none_iff :
    (judge groups).denial key = none ↔ Connective.ofKey? key = none := by
  simp only [judge, Option.map_eq_none_iff]

theorem denial_judge_eq_some_iff {cause : Rejection} :
    (judge groups).denial key = some cause ↔
      (Connective.ofKey? key).isSome ∧ cause = .scatteredNegation 0 := by
  simp only [judge]
  cases Connective.ofKey? key <;> simp [eq_comm]

theorem grammar_judge (groups : List Group) : (judge groups).grammar = grammar groups := by
  refine Grammar.ext ?_ ?_
  · funext key json
    exact propext cause_condition_judge_eq_none_iff
  · funext key
    exact propext denial_judge_eq_none_iff

theorem takes_ownedText (groups : List Group) (key : String) (json : Json) :
    (ownedText groups key json).Takes ((judge groups).condition key json) := by
  simp only [ownedText, judge]
  rcases owner? groups key with _ | ⟨group, field⟩
  · exact .throw (.fieldOfNoGroup key)
  · exact (field.takes_condition json).bind_pure fun text => Owned.mk group.name text

end Group

theorem GroupTree.entries_attach {α : Type} (tree child : GroupTree α) :
    (tree.attach child).entries = tree.entries := by
  rw [attach]
  split <;> rfl

namespace Filter

variable {groups : List Group} {key : String} {value : Json} {tree extended : PhraseTree}
  {parameters bound : Parameters}

/-- A filter of one entry adds what its only clause adds. -/
theorem exists_clause_of_addTo
    (run : ((ofJson (.obj [(key, value)])).addTo groups tree).runFrom parameters =
      (.ok extended, bound)) :
    ∃ clause, readClause key value = .ok clause ∧
      (addClause groups clause tree).runFrom parameters = (.ok extended, bound) := by
  rw [ofJson, readClauses_cons] at run
  cases read : readClause key value with
  | error cause =>
      rw [read] at run
      cases run
  | ok clause =>
      rw [read] at run
      refine ⟨clause, rfl, ?_⟩
      have added : (addClause groups clause tree >>= fun extended =>
          addClauses groups [] extended).runFrom parameters = (.ok extended, bound) := run
      obtain ⟨_, _, clauseRun, done⟩ := Compilation.runFrom_bind_eq_ok_iff.1 added
      cases done
      exact clauseRun

/-- A combination adds at most a child. -/
theorem exists_attach_of_addTo
    (isSet : (Connective.ofKey? key).isSome)
    (run : ((ofJson (.obj [(key, value)])).addTo groups tree).runFrom parameters =
      (.ok extended, bound)) :
    ∃ child, extended = tree.attach child := by
  obtain ⟨clause, read, clauseRun⟩ := exists_clause_of_addTo run
  obtain ⟨connective, named⟩ := Option.isSome_iff_exists.1 isSet
  obtain ⟨items, rfl, rfl⟩ :=
    exists_items_of_readClause (KeyRole.ofKey_eq_set_iff.2 named) read
  rw [addClause, Compilation.runFrom_bind_eq_ok_iff] at clauseRun
  obtain ⟨child, _, _, done⟩ := clauseRun
  cases done
  exact ⟨child, rfl⟩

/-- Anything else adds one condition: a negation adds the only one of what it negates. -/
theorem exists_push_of_addTo
    (isNotSet : Connective.ofKey? key = none)
    (run : ((ofJson (.obj [(key, value)])).addTo groups tree).runFrom parameters =
      (.ok extended, bound)) :
    ∃ owner phrase, extended = tree.push owner phrase := by
  obtain ⟨clause, read, clauseRun⟩ := exists_clause_of_addTo run
  have single := clauseNegatesSingle_of_readClause key value read
  obtain ⟨conjunct, outlined, literals, rfl⟩ := outlineClause_of_addClause single clauseRun
  cases role : KeyRole.ofKey key with
  | set connective =>
      rw [KeyRole.ofKey_eq_set_iff.1 role] at isNotSet
      cases isNotSet
  | negation =>
      obtain ⟨child, rfl⟩ := exists_child_of_readClause role read
      rw [outlineClause, Compilation.runFrom_bind_eq_ok_iff] at outlined
      obtain ⟨formula, _, _, made⟩ := outlined
      cases made
      rw [Formula.conjunctNegatesLiterals, Bool.and_eq_true] at literals
      obtain ⟨_, owned, phrase, _, only, _⟩ := Formula.exists_literal_of_isLiteral literals.1
      rw [Formula.itemsOfConjunct, only]
      exact ⟨owned.owner, phrase.denied, rfl⟩
  | field =>
      rw [readClause_of_field role] at read
      cases read
      rw [outlineClause, Compilation.runFrom_bind_eq_ok_iff] at outlined
      obtain ⟨owned, _, _, made⟩ := outlined
      cases made
      exact ⟨owned.owner, Phrase.atom owned.text, rfl⟩

/-- What has been split on its own can be negated if it is no combination; it has one condition
then, and none at all otherwise. -/
theorem takes_addDenied
    (run : ((ofJson (.obj [(key, value)])).addTo groups (GroupTree.bare .conjunction)).runFrom
      parameters = (.ok extended, bound)) :
    (addDenied extended tree).Takes ((Group.judge groups).verdict (.denial key value)) := by
  have denied : (Group.judge groups).verdict (.denial key value) =
      .checked ((Group.judge groups).denial key) := rfl
  rw [denied]
  cases named : Connective.ofKey? key with
  | some connective =>
      have isSet : (Connective.ofKey? key).isSome := by rw [named, Option.isSome_some]
      obtain ⟨child, rfl⟩ := exists_attach_of_addTo isSet run
      rw [Group.denial_judge_eq_some_iff.2 ⟨isSet, rfl⟩]
      rw [addDenied, GroupTree.entries_attach]
      exact .throw _
  | none =>
      obtain ⟨owner, phrase, rfl⟩ := exists_push_of_addTo named run
      rw [Group.denial_judge_eq_none_iff.2 named]
      exact .pure _

theorem takes_negation
    {members : List (String × Json)} (single : members.length = 1)
    (child : ((ofClauses (readClauses members)).addTo groups (GroupTree.bare .conjunction)).Takes
      ((Group.judge groups).course (.form (.obj members) :: Json.checksOfMembers members))) :
    (addClause groups (.negation (ofClauses (readClauses members))) tree).Takes
      ((Group.judge groups).course (.single members.length :: .form (.obj members) ::
        (Json.checksOfMembers members ++ Check.denials members))) := by
  obtain ⟨⟨key, value⟩, rfl⟩ := List.length_eq_one_iff.1 single
  rw [List.length_singleton, Judge.course_negation]
  exact child.bind fun _ _ _ run => takes_addDenied run

mutual

/-- Adding a filter to a tree takes the course of its checks, whatever the tree is. -/
theorem takes_addTo (groups : List Group) (json : Json) (tree : PhraseTree) :
    ((ofJson json).addTo groups tree).Takes ((Group.judge groups).course json.checks) := by
  cases json with
  | obj members =>
      rw [Json.checks, ofJson]
      refine takes_ofClauses (fun filter => filter.addTo groups tree)
        (fun cause => .throw cause) fun clauses read => ?_
      exact takes_addClauses groups members tree read
  | _ =>
      simp only [Json.checks, Judge.course_singleton]
      exact .throw _

theorem takes_addFilters (groups : List Group) (items : List Json) (tree : PhraseTree) :
    (addFilters groups (readAll items) tree).Takes
      ((Group.judge groups).course (Json.checksOfAll items)) := by
  cases items with
  | nil =>
      exact .pure tree
  | cons item rest =>
      rw [Json.checksOfAll, Judge.course_append]
      have head := takes_addTo groups item tree
      exact head.bind fun _ extended _ _ => takes_addFilters groups rest extended

theorem takes_addClause (groups : List Group) (key : String) (json : Json)
    (tree : PhraseTree) {clause : Clause} (read : readClause key json = .ok clause) :
    (addClause groups clause tree).Takes
      ((Group.judge groups).course (Json.checksOfValue key json)) := by
  cases role : KeyRole.ofKey key with
  | set connective =>
      rw [readClause_of_set role] at read
      cases json with
      | arr items =>
          cases read
          rw [Json.checksOfValue, role]
          have children := takes_addFilters groups items (GroupTree.bare connective)
          exact children.bind_pure fun child => tree.attach child
      | _ =>
          cases read
  | negation =>
      cases json with
      | obj members =>
          rw [Json.checksOfValue, role]
          rcases negation_of_readClause role read with ⟨single, rfl⟩ | ⟨several, rfl⟩
          · refine takes_negation single ?_
            refine takes_ofClauses (fun filter => filter.addTo groups (GroupTree.bare .conjunction))
              (fun cause => .throw cause) fun clauses found => ?_
            exact takes_addClauses groups members (GroupTree.bare .conjunction) found
          · rw [Judge.course_single_of_ne _ several]
            exact .throw _
      | _ =>
          rw [readClause_of_negation role] at read
          cases read
  | field =>
      rw [readClause_of_field role] at read
      cases read
      rw [Json.checksOfValue_of_field role, Judge.course_singleton, addClause, addLeaf_eq,
        map_eq_pure_bind]
      have label := Group.takes_ownedText groups key json
      exact label.bind_pure fun owned => tree.push owned.owner (Phrase.atom owned.text)

theorem takes_addClauses (groups : List Group) (members : List (String × Json))
    (tree : PhraseTree) {clauses : List Clause} (read : readClauses members = .ok clauses) :
    (addClauses groups clauses tree).Takes
      ((Group.judge groups).course (Json.checksOfMembers members)) := by
  cases members with
  | nil =>
      cases read
      exact .pure tree
  | cons member rest =>
      obtain ⟨key, value⟩ := member
      obtain ⟨clause, others, clauseRead, restRead, rfl⟩ := exists_of_readClauses_cons read
      have head := takes_addClause groups key value tree clauseRead
      rw [Json.checksOfMembers, Judge.course_append]
      exact head.bind fun _ extended _ _ => takes_addClauses groups rest extended restRead

end

end Filter

end WhereClause
