import WhereClause.Proofs.Distribution.Course
import WhereClause.Proofs.Distribution.Meaning

/-!
# What can be split among groups

Main statement: a filter is split if it is a combination of filters in which only conditions are
negated, any number of times; where the first thing that goes wrong is the negation of a
combination, the report says that it belongs to no group.
-/

namespace WhereClause

namespace Filter

theorem rootOfJson_eq_ok_iff
    {json : Json} {connective : Connective} {children : List Filter} :
    rootOfJson json = .ok (connective, children) ↔
      ∃ key items, json = .obj [(key, .arr items)] ∧
        Connective.ofKey? key = some connective ∧ children = readAll items := by
  constructor
  · intro read
    unfold rootOfJson at read
    split at read
    · cases read
    · rename_i key value
      cases named : Connective.ofKey? key with
      | none =>
          rw [named] at read
          cases read
      | some found =>
          rw [named] at read
          cases value with
          | arr items =>
              cases read
              exact ⟨key, items, rfl, named, rfl⟩
          | _ =>
              cases read
    · cases read
    · cases read
  · rintro ⟨key, items, rfl, named, rfl⟩
    simp only [rootOfJson, named]

theorem isClientFault_of_rootOfJson
    {json : Json} {cause : Rejection} (read : rootOfJson json = .error cause) :
    cause.isClientFault := by
  unfold rootOfJson at read
  split at read
  · cases read
    rfl
  · split at read
    · cases read
      rfl
    · split at read
      · cases read
      · cases read
        rfl
  · cases read
    rfl
  · cases read
    rfl

end Filter

namespace Condition

variable {document : Bool} {cause : Rejection}

theorem isClientFault_of_ofJson
    {json : Json} (read : ofJson document json = .error cause) : cause.isClientFault := by
  unfold ofJson at read
  split at read
  · split at read
    · cases read
    · cases read
      rfl
  · split at read
    · cases read
    · cases read
      rfl
  · cases read
    rfl

theorem isClientFault_of_values
    {condition : Condition} (taken : condition.values document = .error cause) :
    cause.isClientFault := by
  unfold values at taken
  split at taken
  · cases taken
  · split at taken
    · cases taken
    · cases taken
      rfl
  · split at taken
    · cases taken
    · cases taken
      rfl
  · split at taken
    · cases taken
    · cases taken
      rfl

end Condition

namespace Field

variable {field : Field} {cause : Rejection}

theorem isClientFault_of_sql (failed : field.sql = .error cause) : cause.isClientFault := by
  match field with
  | .column _ _ | .path _ [] =>
      cases failed
  | .path document (first :: rest) =>
      rw [sql, pathSql] at failed
      split at failed
      · cases failed
        rfl
      · cases failed

theorem isClientFault_of_course
    {json : Json} (rejected : (field.course json).cause = some cause) : cause.isClientFault := by
  rw [cause_course, Rejection.of?_eq_some_iff, valuesOf] at rejected
  cases read : Condition.ofJson field.isDocument json with
  | error found =>
      rw [read] at rejected
      cases rejected
      exact Condition.isClientFault_of_ofJson read
  | ok condition =>
      rw [read] at rejected
      cases column : field.sql with
      | error found =>
          rw [column] at rejected
          cases rejected
          exact isClientFault_of_sql column
      | ok text =>
          rw [column] at rejected
          exact Condition.isClientFault_of_values rejected

end Field

/-! ## Denials -/

namespace Check

/-- Whether every denial comes right after the checks of the only entry that is denied. -/
def AreOrderly (checks : List Check) : Prop :=
  ∀ before key value after, checks = before ++ .denial key value :: after →
    ∃ earlier, before = earlier ++ .single 1 :: (Json.obj [(key, value)]).checks

namespace AreOrderly

variable {left right : List Check}

theorem extend
    (orderly : AreOrderly left)
    (others : ∀ before key value after, right = before ++ .denial key value :: after →
      ∃ earlier, left ++ before = earlier ++ .single 1 :: (Json.obj [(key, value)]).checks) :
    AreOrderly (left ++ right) := by
  intro before key value after same
  -- The denial stands in the right list, or in the left one unless nothing of it is left there.
  rcases List.append_eq_append_iff.1 same with ⟨middle, rfl, rightIs⟩ | ⟨middle, leftIs, tailIs⟩
  · exact others middle key value after rightIs
  · cases middle with
    | nil =>
        have nothing := others [] key value after tailIs.symm
        rwa [leftIs, List.append_nil, List.append_nil] at nothing
    | cons head rest =>
        cases tailIs
        exact orderly before key value rest leftIs

theorem append (orderly : AreOrderly left) (others : AreOrderly right) :
    AreOrderly (left ++ right) := by
  refine orderly.extend fun before key value after same => ?_
  obtain ⟨earlier, rfl⟩ := others before key value after same
  exact ⟨left ++ earlier, (List.append_assoc ..).symm⟩

theorem nil : AreOrderly [] := by
  intro before key value after same
  simp at same

theorem cons_of_ne {check : Check} (noDenial : ∀ key value, check ≠ .denial key value)
    (orderly : AreOrderly right) : AreOrderly (check :: right) := by
  have alone : AreOrderly [check] := by
    intro before key value after same
    have member : Check.denial key value ∈ [check] := by
      rw [same]
      exact List.mem_append_right before List.mem_cons_self
    exact absurd (List.mem_singleton.1 member).symm (noDenial key value)
  exact alone.append orderly

/-- The denial of the only entry comes after the checks of that entry. -/
theorem denied {members : List (String × Json)} (orderly : AreOrderly (Json.obj members).checks) :
    AreOrderly (.single members.length :: (Json.obj members).checks ++ Check.denials members) := by
  have counted : AreOrderly (.single members.length :: (Json.obj members).checks) :=
    orderly.cons_of_ne nofun
  refine counted.extend fun before key value after same => ?_
  match members with
  | [] | _ :: _ :: _ =>
      simp [Check.denials] at same
  | [(inner, operands)] =>
      cases before with
      | nil =>
          cases same
          exact ⟨[], List.append_nil _⟩
      | cons head rest =>
          simp [Check.denials] at same

end AreOrderly

end Check

namespace Json

mutual

theorem areOrderly_checks (json : Json) : Check.AreOrderly json.checks := by
  cases json with
  | obj members =>
      rw [checks]
      exact (areOrderly_checksOfMembers members).cons_of_ne nofun
  | _ =>
      simp only [checks]
      exact Check.AreOrderly.nil.cons_of_ne nofun

theorem areOrderly_checksOfAll (items : List Json) : Check.AreOrderly (checksOfAll items) := by
  cases items with
  | nil =>
      exact .nil
  | cons item rest =>
      rw [checksOfAll]
      exact (areOrderly_checks item).append (areOrderly_checksOfAll rest)

theorem areOrderly_checksOfValue (key : String) (json : Json) :
    Check.AreOrderly (checksOfValue key json) := by
  cases role : KeyRole.ofKey key with
  | set connective =>
      cases json with
      | arr items =>
          rw [checksOfValue, role]
          exact areOrderly_checksOfAll items
      | obj members =>
          rw [checksOfValue, role]
          exact .nil
      | _ =>
          simp only [checksOfValue, role]
          exact .nil
  | negation =>
      cases json with
      | arr items =>
          rw [checksOfValue, role]
          exact .nil
      | obj members =>
          have child : Check.AreOrderly (Json.obj members).checks := by
            rw [checks]
            exact (areOrderly_checksOfMembers members).cons_of_ne nofun
          rw [checksOfValue, role, ← List.cons_append, ← List.cons_append]
          have denied := child.denied
          rwa [checks] at denied
      | _ =>
          simp only [checksOfValue, role]
          exact .nil
  | field =>
      rw [checksOfValue_of_field role]
      exact Check.AreOrderly.nil.cons_of_ne nofun

theorem areOrderly_checksOfMembers (members : List (String × Json)) :
    Check.AreOrderly (checksOfMembers members) := by
  cases members with
  | nil =>
      exact .nil
  | cons member rest =>
      obtain ⟨key, value⟩ := member
      rw [checksOfMembers]
      exact (areOrderly_checksOfValue key value).append (areOrderly_checksOfMembers rest)

end

end Json

/-! ## Acceptance -/

/-- Whether JSON is a combination of filters of the grammar. -/
def Grammar.IsRoot (grammar : Grammar) (json : Json) : Prop :=
  ∃ key items, json = .obj [(key, .arr items)] ∧ (Connective.ofKey? key).isSome ∧
    ∀ item ∈ items, grammar.IsFilter item

namespace Group

variable {groups : List Group}

/-- Whether the first thing that goes wrong with the filters of a combination is that one of them
negates a combination, which is itself a filter of the grammar. -/
def FailsAtNegation (groups : List Group) (json : Json) : Prop :=
  ∃ key items earlier inner operands later,
    json = .obj [(key, .arr items)] ∧ (Connective.ofKey? key).isSome ∧
    Json.checksOfAll items =
      earlier ++ .single 1 :: (Json.obj [(inner, operands)]).checks ++
        .denial inner operands :: later ∧
    (∀ check ∈ earlier, (judge groups).Passes check) ∧
    (Connective.ofKey? inner).isSome ∧ (grammar groups).IsFilter (.obj [(inner, operands)])

/-- Only the denial of a combination is scattered, and that over no group. -/
theorem verdict_eq_scattered_iff {check : Check} {count : Nat} :
    ((judge groups).verdict check).cause = some (.scatteredNegation count) ↔
      ∃ key value, check = .denial key value ∧ (Connective.ofKey? key).isSome ∧ count = 0 := by
  constructor
  · intro rejected
    cases check with
    | form json =>
        obtain ⟨_, _, same⟩ := Option.map_eq_some_iff.1 rejected
        cases same
    | single several =>
        simp only [Judge.verdict, Course.checked] at rejected
        split at rejected <;> cases rejected
    | condition key json =>
        simp only [Judge.verdict, judge] at rejected
        split at rejected
        · cases rejected
        · cases Field.isClientFault_of_course rejected
    | denial key value =>
        simp only [Judge.verdict, Course.checked] at rejected
        obtain ⟨isSet, same⟩ := denial_judge_eq_some_iff.1 rejected
        cases same
        exact ⟨key, value, rfl, isSet, rfl⟩
  · rintro ⟨key, value, rfl, isSet, rfl⟩
    simp only [Judge.verdict, Course.checked]
    exact denial_judge_eq_some_iff.2 ⟨isSet, rfl⟩

end Group

/-- Splitting takes the course of the filters of the root combination. -/
theorem of?_splitAmong
    {groups : List Group} {key : String} (someGroup : groups ≠ [])
    (isSet : (Connective.ofKey? key).isSome) (items : List Json) :
    Rejection.of? (splitAmong groups (.obj [(key, .arr items)])) =
      ((Group.judge groups).course (Json.checksOfAll items)).cause := by
  obtain ⟨connective, named⟩ := Option.isSome_iff_exists.1 isSet
  have read : Filter.rootOfJson (.obj [(key, .arr items)]) =
      .ok (connective, Filter.readAll items) :=
    Filter.rootOfJson_eq_ok_iff.2 ⟨key, items, rfl, named, rfl⟩
  have takes := Filter.takes_addFilters groups items (GroupTree.bare connective)
  have notEmpty : ¬groups.isEmpty := by
    simpa using someGroup
  rw [← (takes Dict.empty).1]
  simp only [splitAmong, if_neg notEmpty, read, Filter.distribute]
  rcases (Filter.addFilters groups (Filter.readAll items) _).runFrom Dict.empty with
    ⟨_ | _, _⟩
  · rfl
  · rfl

/-- What is no combination of filters is rejected for a fault of its own. -/
theorem exists_root_of_splitAmong
    {groups : List Group} {json : Json}
    (notAtRoot : ∀ cause, splitAmong groups json = .error cause → ¬cause.isClientFault) :
    groups ≠ [] ∧
      ∃ key items, json = .obj [(key, .arr items)] ∧ (Connective.ofKey? key).isSome := by
  have someGroup : groups ≠ [] := by
    rintro rfl
    exact notAtRoot .noGroup rfl rfl
  have notEmpty : ¬groups.isEmpty := by
    simpa using someGroup
  refine ⟨someGroup, ?_⟩
  cases read : Filter.rootOfJson json with
  | error cause =>
      have failed : splitAmong groups json = .error cause := by
        rw [splitAmong, if_neg notEmpty, read]
      exact absurd (Filter.isClientFault_of_rootOfJson read) (notAtRoot cause failed)
  | ok root =>
      obtain ⟨connective, children⟩ := root
      obtain ⟨key, items, same, named, -⟩ := Filter.rootOfJson_eq_ok_iff.1 read
      exact ⟨key, items, same, by rw [named, Option.isSome_some]⟩

theorem exists_splitAmong_iff {groups : List Group} {json : Json} :
    (∃ result, splitAmong groups json = .ok result) ↔
      groups ≠ [] ∧ (Group.grammar groups).IsRoot json := by
  constructor
  · rintro ⟨result, split⟩
    obtain ⟨someGroup, key, items, rfl, isSet⟩ := exists_root_of_splitAmong fun cause failed => by
      rw [split] at failed
      cases failed
    refine ⟨someGroup, key, items, rfl, isSet, ?_⟩
    have ends := of?_splitAmong someGroup isSet items
    rw [split] at ends
    rw [← Group.grammar_judge, ← Judge.passes_checksOfAll_iff, ← Judge.cause_course_eq_none_iff]
    exact ends.symm
  · rintro ⟨someGroup, key, items, rfl, isSet, filters⟩
    rw [← Rejection.of?_eq_none_iff, of?_splitAmong someGroup isSet,
      Judge.cause_course_eq_none_iff, Judge.passes_checksOfAll_iff, Group.grammar_judge]
    exact filters

theorem splitAmong_eq_scattered_iff {groups : List Group} {json : Json} {count : Nat} :
    splitAmong groups json = .error (.scatteredNegation count) ↔
      count = 0 ∧ groups ≠ [] ∧ Group.FailsAtNegation groups json := by
  constructor
  · intro failed
    obtain ⟨someGroup, key, items, rfl, isSet⟩ := exists_root_of_splitAmong fun cause other => by
      rw [failed] at other
      cases other
      exact Bool.false_ne_true
    have ends := of?_splitAmong someGroup isSet items
    rw [failed] at ends
    obtain ⟨before, check, later, checks, rejected, passed⟩ :=
      Judge.cause_course_eq_some_iff.1 ends.symm
    obtain ⟨inner, operands, rfl, innerIsSet, rfl⟩ := Group.verdict_eq_scattered_iff.1 rejected
    obtain ⟨earlier, rfl⟩ :=
      Json.areOrderly_checksOfAll items before inner operands later checks
    rw [List.forall_mem_append, List.forall_mem_cons, Judge.passes_checks_iff,
      Group.grammar_judge] at passed
    exact ⟨rfl, someGroup, key, items, earlier, inner, operands, later, rfl, isSet, checks,
      passed.1, innerIsSet, passed.2.2⟩
  · rintro ⟨rfl, someGroup, key, items, earlier, inner, operands, later, rfl, isSet, checks,
      passed, innerIsSet, filter⟩
    rw [← Rejection.of?_eq_some_iff, of?_splitAmong someGroup isSet,
      Judge.cause_course_eq_some_iff]
    refine ⟨_, .denial inner operands, later, checks, ?_, ?_⟩
    · exact Group.verdict_eq_scattered_iff.2 ⟨inner, operands, rfl, innerIsSet, rfl⟩
    · rw [List.forall_mem_append, List.forall_mem_cons, Judge.passes_checks_iff,
        Group.grammar_judge]
      exact ⟨passed, rfl, filter⟩

/-- What is negated is split into a tree of one condition, or of no entry at all. -/
theorem entries_of_addTo_bare
    {groups : List Group} {key : String} {value : Json} {parameters bound : Parameters}
    {negated : PhraseTree}
    (run : ((Filter.ofJson (.obj [(key, value)])).addTo groups
      (GroupTree.bare .conjunction)).runFrom parameters = (.ok negated, bound)) :
    negated.entries = [] ∨
      ∃ owner condition, negated = (GroupTree.bare .conjunction).push owner condition := by
  cases named : Connective.ofKey? key with
  | some connective =>
      obtain ⟨child, rfl⟩ := Filter.exists_attach_of_addTo (by rw [named, Option.isSome_some]) run
      exact Or.inl (GroupTree.entries_attach _ child)
  | none =>
      exact Or.inr (Filter.exists_push_of_addTo named run)

/-- A filter is split among groups exactly if it is a combination of filters of their grammar, in
which no combination is negated. Splitting ends with the report of a scattered negation exactly if
the first thing that goes wrong is the negation of a combination, and the report is of no group.
For what is negated is split into a tree of at most one entry, and one that has an entry has one
condition there and no children, so that nothing is lost when this condition is negated. -/
theorem splitAmong_accepts_grammar (groups : List Group) (json : Json) :
    ((∃ result, splitAmong groups json = .ok result) ↔
      groups ≠ [] ∧ (Group.grammar groups).IsRoot json) ∧
    ((∃ count, splitAmong groups json = .error (.scatteredNegation count)) ↔
      groups ≠ [] ∧ Group.FailsAtNegation groups json) ∧
    (∀ count, splitAmong groups json = .error (.scatteredNegation count) →
      (Rejection.scatteredNegation count).message =
        "Internal invariant violated: negated condition resolved to 0 groups, " ++
          "expected exactly one") ∧
    ∀ key value parameters bound (negated : PhraseTree),
      ((Filter.ofJson (.obj [(key, value)])).addTo groups
        (GroupTree.bare .conjunction)).runFrom parameters = (.ok negated, bound) →
      negated.entries.length ≤ 1 ∧
        ∀ entry ∈ negated.entries, negated.children = [] ∧
          ∃ condition, entry.conditions = [condition] ∧
            ∀ tree, Filter.addDenied negated tree =
              pure (tree.push entry.name condition.denied) := by
  refine ⟨exists_splitAmong_iff, ?_, ?_, ?_⟩
  · constructor
    · rintro ⟨count, failed⟩
      exact (splitAmong_eq_scattered_iff.1 failed).2
    · intro fails
      exact ⟨0, splitAmong_eq_scattered_iff.2 ⟨rfl, fails⟩⟩
  · intro count failed
    obtain ⟨rfl, -⟩ := splitAmong_eq_scattered_iff.1 failed
    rfl
  · intro key value parameters bound negated run
    rcases entries_of_addTo_bare run with noEntry | ⟨owner, condition, rfl⟩
    · rw [noEntry]
      exact ⟨Nat.zero_le 1, nofun⟩
    · refine ⟨Nat.le_refl 1, fun entry member => ?_⟩
      obtain rfl := List.mem_singleton.1 member
      exact ⟨rfl, condition, rfl, fun tree => rfl⟩

/-- A negated condition. -/
def negatedBot : Json :=
  .obj [("not", .obj [("isBot", .obj [("eq", .bool true)])])]

/-- A negated negation, and a negated combination of one condition. -/
def negatedDisjunction : Json :=
  .obj [("and", .arr
    [.obj [("not", negatedBot)],
      .obj [("not", .obj [("or", .arr [.obj [("score", .obj [("gt", .int 1)])]])])]])]

/-- The first negation has one condition to negate, and the second has none. -/
theorem splitAmong_accepts_grammar_of_negatedDisjunction :
    splitAmong [memberGroup] negatedDisjunction = .error (.scatteredNegation 0) ∧
      Group.FailsAtNegation [memberGroup] negatedDisjunction ∧
      ∃ (negated : PhraseTree) (bound : Parameters),
        ((Filter.ofJson negatedBot).addTo [memberGroup] (GroupTree.bare .conjunction)).runFrom
          Dict.empty = (.ok negated, bound) ∧
        negated.entries.length = 1 ∧ negated.children = [] := by
  obtain ⟨-, scattered, -, negates⟩ :=
    splitAmong_accepts_grammar [memberGroup] negatedDisjunction
  have failed : splitAmong [memberGroup] negatedDisjunction =
      .error (.scatteredNegation 0) := rfl
  have run : ((Filter.ofJson negatedBot).addTo [memberGroup]
      (GroupTree.bare .conjunction)).runFrom Dict.empty = (.ok _, _) := rfl
  refine ⟨failed, (scattered.1 ⟨0, failed⟩).2, _, _, run, rfl, ?_⟩
  exact ((negates "not" _ Dict.empty _ _ run).2 _ List.mem_cons_self).1

end WhereClause
