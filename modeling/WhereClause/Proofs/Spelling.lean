import WhereClause.Filter.Distribution
import WhereClause.Proofs.Clause
import WhereClause.Proofs.Connective
import WhereClause.Proofs.Distribution.Meaning
import WhereClause.Proofs.SingleTable.Layout

/-!
# The spelling of set keys

Blanks around a key that names a connective and the case of its letters are dropped by writing
every key of a set, wherever a filter can stand, in one spelling. Main statement: filters that are
the same in this spelling compile to the same text and split into the same tree, with the same
parameters, and where one is rejected so is the other, for the same reason but for how the key of
a set is spelled in it.
-/

namespace WhereClause

namespace Json

mutual

/-- A filter with the keys of its sets in one spelling. Keys of conditions are left as they are. -/
def canonical : Json → Json
  | .obj members => .obj (canonicalMembers members)
  | other => other

def canonicalAll : List Json → List Json
  | [] => []
  | item :: rest => canonical item :: canonicalAll rest

/-- The value of a key in one spelling. -/
def canonicalValue (key : String) : Json → Json
  | .arr items =>
      match KeyRole.ofKey key with
      | .set _ => .arr (canonicalAll items)
      | _ => .arr items
  | .obj members =>
      match KeyRole.ofKey key with
      | .negation => .obj (canonicalMembers members)
      | _ => .obj members
  | other => other

def canonicalMembers : List (String × Json) → List (String × Json)
  | [] => []
  | (key, value) :: rest =>
      (Connective.canonicalKey key, canonicalValue key value) :: canonicalMembers rest

end

theorem length_canonicalMembers (members : List (String × Json)) :
    (canonicalMembers members).length = members.length := by
  induction members with
  | nil =>
      rfl
  | cons member rest inductionHypothesis =>
      obtain ⟨key, value⟩ := member
      rw [canonicalMembers, List.length_cons, List.length_cons, inductionHypothesis]

theorem canonicalValue_of_field {key : String} (role : KeyRole.ofKey key = .field) (json : Json) :
    canonicalValue key json = json := by
  cases json <;> simp only [canonicalValue, role]

end Json

/-- A rejection with the key of a set in one spelling. -/
def Rejection.canonical : Rejection → Rejection
  | .misfit (.notAList key found) => .misfit (.notAList (Connective.canonicalKey key) found)
  | other => other

theorem Rejection.name_canonical (cause : Rejection) : cause.canonical.name = cause.name := by
  cases cause with
  | misfit misfit =>
      cases misfit with
      | notAList key found =>
          rw [canonical, name, name]
      | _ =>
          rfl
  | _ =>
      rfl

theorem Rejection.canonical_canonical (cause : Rejection) :
    cause.canonical.canonical = cause.canonical := by
  cases cause with
  | misfit misfit =>
      cases misfit with
      | notAList key found =>
          rw [canonical, canonical, Connective.canonicalKey_canonicalKey]
      | _ =>
          rfl
  | _ =>
      rfl

namespace Filter

mutual

/-- A filter with its rejections in one spelling. -/
def canonical : Filter → Filter
  | .rejected cause => .rejected cause.canonical
  | .all clauses => .all (canonicalClauses clauses)

def canonicalClause : Clause → Clause
  | .set connective children => .set connective (canonicalAll children)
  | .negation child => .negation (canonical child)
  | .leaf key condition => .leaf key condition

def canonicalClauses : List Clause → List Clause
  | [] => []
  | clause :: rest => canonicalClause clause :: canonicalClauses rest

def canonicalAll : List Filter → List Filter
  | [] => []
  | filter :: rest => canonical filter :: canonicalAll rest

end

theorem canonical_ofClauses (clauses : Except Rejection (List Clause)) :
    (ofClauses clauses).canonical =
      ofClauses ((clauses.map canonicalClauses).mapError Rejection.canonical) := by
  cases clauses <;> rfl

mutual

/-- A filter in one spelling is read as the filter is, up to the spelling in rejections. -/
theorem ofJson_canonical (json : Json) : ofJson json.canonical = (ofJson json).canonical := by
  cases json with
  | obj members =>
      rw [Json.canonical, ofJson, ofJson, canonical_ofClauses,
        readClauses_canonicalMembers members]
  | _ =>
      rfl

theorem readAll_canonicalAll (items : List Json) :
    readAll (Json.canonicalAll items) = canonicalAll (readAll items) := by
  cases items with
  | nil =>
      rfl
  | cons item rest =>
      rw [Json.canonicalAll, readAll, readAll, canonicalAll, ofJson_canonical item,
        readAll_canonicalAll rest]

theorem readClause_canonicalValue (key : String) (json : Json) :
    readClause (Connective.canonicalKey key) (Json.canonicalValue key json) =
      ((readClause key json).map canonicalClause).mapError Rejection.canonical := by
  have sameRole := KeyRole.ofKey_canonicalKey key
  cases role : KeyRole.ofKey key with
  | set connective =>
      rw [role] at sameRole
      rw [readClause_of_set sameRole, readClause_of_set role]
      cases json with
      | arr items =>
          simp only [Json.canonicalValue, role, readAll_canonicalAll items]
          rfl
      | _ =>
          simp only [Json.canonicalValue, role]
          rfl
  | negation =>
      rw [role] at sameRole
      rw [readClause_of_negation sameRole, readClause_of_negation role]
      cases json with
      | obj members =>
          -- the number of members is kept, so that as many are rejected as before
          have sameLength := Json.length_canonicalMembers members
          have sameClauses := readClauses_canonicalMembers members
          simp only [Json.canonicalValue, role, sameLength, sameClauses, ← canonical_ofClauses]
          by_cases single : members.length = 1
          · rw [if_pos single, if_pos single]
            rfl
          · rw [if_neg single, if_neg single]
            rfl
      | _ =>
          simp only [Json.canonicalValue, role]
          rfl
  | field =>
      rw [role] at sameRole
      have unnamed := (KeyRole.ofKey_eq_field_iff.1 role).1
      rw [readClause_of_field sameRole, readClause_of_field role,
        Json.canonicalValue_of_field role, Connective.canonicalKey_of_eq_none unnamed]
      rfl

theorem readClauses_canonicalMembers (members : List (String × Json)) :
    readClauses (Json.canonicalMembers members) =
      ((readClauses members).map canonicalClauses).mapError Rejection.canonical := by
  cases members with
  | nil =>
      rfl
  | cons member rest =>
      obtain ⟨key, value⟩ := member
      have head := readClause_canonicalValue key value
      have tail := readClauses_canonicalMembers rest
      rw [Json.canonicalMembers, readClauses_cons, readClauses_cons, head, tail]
      cases readClause key value with
      | error cause =>
          rfl
      | ok clause =>
          cases readClauses rest with
          | error cause =>
              rfl
          | ok clauses =>
              rfl

end

/-- So is the root of a filter over groups. -/
theorem rootOfJson_canonical (json : Json) :
    rootOfJson json.canonical =
      ((rootOfJson json).map fun root => (root.1, canonicalAll root.2)).mapError
        Rejection.canonical := by
  match json with
  | .obj [] =>
      rfl
  | .obj [(key, value)] =>
      have sameName := Connective.ofKey?_canonicalKey key
      rw [Json.canonical, Json.canonicalMembers, Json.canonicalMembers, rootOfJson, rootOfJson,
        sameName]
      cases named : Connective.ofKey? key with
      | none =>
          rw [Connective.canonicalKey_of_eq_none named]
          rfl
      | some connective =>
          have role : KeyRole.ofKey key = .set connective := KeyRole.ofKey_eq_set_iff.2 named
          cases value with
          | arr items =>
              simp only [Json.canonicalValue, role, readAll_canonicalAll items]
              rfl
          | _ =>
              simp only [Json.canonicalValue, role]
              rfl
  | .obj ((firstKey, firstValue) :: (secondKey, secondValue) :: rest) =>
      have sameLength := Json.length_canonicalMembers rest
      rw [Json.canonical, Json.canonicalMembers, Json.canonicalMembers, rootOfJson, rootOfJson,
        List.length_cons, List.length_cons, sameLength]
      · rfl
      all_goals simp
  | .null | .bool _ | .int _ | .double _ | .str _ | .arr _ =>
      rfl

end Filter

/-! ## Compilations up to spelling -/

namespace Compilation

variable {α β : Type}

/-- What comes of a compilation: the result, with a rejection in one spelling, and the parameters
afterwards. -/
def outcome (compilation : Compilation α) (parameters : Parameters) :
    Except Rejection α × Parameters :=
  ((compilation.runFrom parameters).1.mapError Rejection.canonical,
    (compilation.runFrom parameters).2)

theorem outcome_throw_canonical (cause : Rejection) :
    (throw cause.canonical : Compilation α).outcome = (throw cause : Compilation α).outcome := by
  funext parameters
  have sameCause := cause.canonical_canonical
  rw [outcome, outcome, runFrom_throw, runFrom_throw, Except.mapError, Except.mapError, sameCause]

/-- Runs with the same outcome both have the same result, or are both rejected. -/
theorem runFrom_of_outcome_eq
    {left right : Compilation α} {parameters : Parameters}
    (same : left.outcome parameters = right.outcome parameters) :
    (∃ value bound, left.runFrom parameters = (.ok value, bound) ∧
      right.runFrom parameters = (.ok value, bound)) ∨
    ∃ cause other bound, left.runFrom parameters = (.error cause, bound) ∧
      right.runFrom parameters = (.error other, bound) ∧ cause.canonical = other.canonical := by
  rw [outcome, outcome, Prod.mk.injEq] at same
  generalize left.runFrom parameters = leftRun at same ⊢
  generalize right.runFrom parameters = rightRun at same ⊢
  obtain ⟨cause | value, bound⟩ := leftRun
  · obtain ⟨other | _, _⟩ := rightRun
    · obtain ⟨sameCause, rfl⟩ := same
      exact Or.inr ⟨cause, other, bound, rfl, rfl, Except.error.inj sameCause⟩
    · cases same.1
  · obtain ⟨_ | other, _⟩ := rightRun
    · cases same.1
    · obtain ⟨sameValue, rfl⟩ := same
      cases sameValue
      exact Or.inl ⟨value, bound, rfl, rfl⟩

theorem outcome_bind_congr
    {left right : Compilation α} {next other : α → Compilation β}
    (same : left.outcome = right.outcome)
    (nextSame : ∀ value, (next value).outcome = (other value).outcome) :
    (left >>= next).outcome = (right >>= other).outcome := by
  funext parameters
  rcases runFrom_of_outcome_eq (congrFun same parameters) with
    ⟨value, bound, leftRun, rightRun⟩ | ⟨_, _, _, leftRun, rightRun, sameCause⟩
  · simp only [outcome, runFrom_bind, leftRun, rightRun]
    exact congrFun (nextSame value) bound
  · simp only [outcome, runFrom_bind, leftRun, rightRun, Except.mapError, sameCause]

end Compilation

namespace Filter

section Outline

variable {α : Type} (label : String → Json → Compilation α)

mutual

theorem outcome_outline_canonical (filter : Filter) :
    (filter.canonical.outline label).outcome = (filter.outline label).outcome := by
  cases filter with
  | rejected cause =>
      exact Compilation.outcome_throw_canonical cause
  | all clauses =>
      exact Compilation.outcome_bind_congr (outcome_outlineClauses_canonical clauses)
        fun conjuncts => rfl

theorem outcome_outlineClause_canonical (clause : Clause) :
    (outlineClause label (canonicalClause clause)).outcome =
      (outlineClause label clause).outcome := by
  cases clause with
  | set connective children =>
      exact Compilation.outcome_bind_congr (outcome_outlineAll_canonical children)
        fun formulas => rfl
  | negation child =>
      exact Compilation.outcome_bind_congr (outcome_outline_canonical child) fun formula => rfl
  | leaf key condition =>
      rfl

theorem outcome_outlineClauses_canonical (clauses : List Clause) :
    (outlineClauses label (canonicalClauses clauses)).outcome =
      (outlineClauses label clauses).outcome := by
  cases clauses with
  | nil =>
      rfl
  | cons clause rest =>
      refine Compilation.outcome_bind_congr (outcome_outlineClause_canonical clause)
        fun conjunct => ?_
      exact Compilation.outcome_bind_congr (outcome_outlineClauses_canonical rest)
        fun conjuncts => rfl

theorem outcome_outlineAll_canonical (filters : List Filter) :
    (outlineAll label (canonicalAll filters)).outcome = (outlineAll label filters).outcome := by
  cases filters with
  | nil =>
      rfl
  | cons filter rest =>
      refine Compilation.outcome_bind_congr (outcome_outline_canonical filter) fun formula => ?_
      exact Compilation.outcome_bind_congr (outcome_outlineAll_canonical rest)
        fun formulas => rfl

end

end Outline

section Distribution

variable (groups : List Group)

mutual

theorem outcome_addTo_canonical (filter : Filter) (tree : PhraseTree) :
    (filter.canonical.addTo groups tree).outcome = (filter.addTo groups tree).outcome := by
  cases filter with
  | rejected cause =>
      exact Compilation.outcome_throw_canonical cause
  | all clauses =>
      exact outcome_addClauses_canonical clauses tree

theorem outcome_addClause_canonical (clause : Clause) (tree : PhraseTree) :
    (addClause groups (canonicalClause clause) tree).outcome =
      (addClause groups clause tree).outcome := by
  cases clause with
  | set connective children =>
      exact Compilation.outcome_bind_congr
        (outcome_addFilters_canonical children (GroupTree.bare connective)) fun child => rfl
  | negation child =>
      exact Compilation.outcome_bind_congr
        (outcome_addTo_canonical child (GroupTree.bare .conjunction)) fun negated => rfl
  | leaf key condition =>
      rfl

theorem outcome_addClauses_canonical (clauses : List Clause) (tree : PhraseTree) :
    (addClauses groups (canonicalClauses clauses) tree).outcome =
      (addClauses groups clauses tree).outcome := by
  cases clauses with
  | nil =>
      rfl
  | cons clause rest =>
      exact Compilation.outcome_bind_congr (outcome_addClause_canonical clause tree)
        fun extended => outcome_addClauses_canonical rest extended

theorem outcome_addFilters_canonical (filters : List Filter) (tree : PhraseTree) :
    (addFilters groups (canonicalAll filters) tree).outcome =
      (addFilters groups filters tree).outcome := by
  cases filters with
  | nil =>
      rfl
  | cons filter rest =>
      exact Compilation.outcome_bind_congr (outcome_addTo_canonical filter tree)
        fun extended => outcome_addFilters_canonical rest extended

end

end Distribution

theorem outcome_phrase_canonical (target : Target) (filter : Filter) :
    (filter.canonical.phrase target).outcome = (filter.phrase target).outcome := by
  rw [phrase_eq_outline, phrase_eq_outline, map_eq_pure_bind, map_eq_pure_bind]
  exact Compilation.outcome_bind_congr (outcome_outline_canonical target.conditionText filter)
    fun formula => rfl

end Filter

/-- A compilation in one spelling is the compilation, up to the spelling in rejections. -/
theorem compile_canonical (target : Target) (json : Json) (parameters : Parameters) :
    ((compile target json.canonical parameters).1.mapError Rejection.canonical,
        (compile target json.canonical parameters).2) =
      ((compile target json parameters).1.mapError Rejection.canonical,
        (compile target json parameters).2) := by
  have same := congrFun (Filter.outcome_phrase_canonical target (Filter.ofJson json)) parameters
  rw [← Filter.ofJson_canonical] at same
  rcases Compilation.runFrom_of_outcome_eq same with
    ⟨_, _, leftRun, rightRun⟩ | ⟨_, _, _, leftRun, rightRun, sameCause⟩
  · simp only [compile, leftRun, rightRun]
  · simp only [compile, leftRun, rightRun, Except.map, Except.mapError, sameCause]

/-- So is a split. -/
theorem splitAmong_canonical (groups : List Group) (json : Json) :
    (splitAmong groups json.canonical).mapError Rejection.canonical =
      (splitAmong groups json).mapError Rejection.canonical := by
  by_cases noGroup : groups.isEmpty = true
  · rw [splitAmong, splitAmong, if_pos noGroup, if_pos noGroup]
  · rw [splitAmong, splitAmong, if_neg noGroup, if_neg noGroup, Filter.rootOfJson_canonical]
    cases Filter.rootOfJson json with
    | error cause =>
        exact congrArg Except.error cause.canonical_canonical
    | ok root =>
        obtain ⟨connective, children⟩ := root
        have same :=
          congrFun (Filter.outcome_addFilters_canonical groups children
            (GroupTree.bare connective)) Dict.empty
        rcases Compilation.runFrom_of_outcome_eq same with
          ⟨_, _, leftRun, rightRun⟩ | ⟨_, _, _, leftRun, rightRun, sameCause⟩
        · simp only [Except.map, Except.mapError, Filter.distribute, leftRun, rightRun]
        · simp only [Except.map, Except.mapError, Filter.distribute, leftRun, rightRun, sameCause]

namespace Rejection

variable {α : Type} {left right : Except Rejection α}

theorem eq_ok_of_mapError_canonical
    (same : left.mapError canonical = right.mapError canonical) {value : α}
    (held : left = .ok value) : right = .ok value := by
  subst held
  cases right with
  | error other =>
      cases same
  | ok other =>
      cases same
      rfl

theorem exists_error_of_mapError_canonical
    (same : left.mapError canonical = right.mapError canonical) {cause : Rejection}
    (failed : left = .error cause) :
    ∃ other, right = .error other ∧ other.name = cause.name ∧
      other.canonical = cause.canonical := by
  subst failed
  cases right with
  | error other =>
      have sameCause : cause.canonical = other.canonical := Except.error.inj same
      refine ⟨other, rfl, ?_, sameCause.symm⟩
      rw [← name_canonical, ← sameCause, name_canonical]
  | ok other =>
      cases same

end Rejection

/-- Filters that differ at most in how the keys of their sets are spelled compile to the same text
with the same parameters, and are split into the same tree with the same parameters. Where one is
rejected so is the other, for the same reason but for the key of a set in it, and with the same
parameters. -/
theorem results_agree_of_canonical_eq
    {left right : Json} (same : left.canonical = right.canonical) :
    (∀ (target : Target) (parameters bound : Parameters),
      (∀ text, compile target left parameters = (.ok text, bound) ↔
        compile target right parameters = (.ok text, bound)) ∧
      ∀ cause, compile target left parameters = (.error cause, bound) →
        ∃ other, compile target right parameters = (.error other, bound) ∧
          other.name = cause.name ∧ other.canonical = cause.canonical) ∧
    ∀ groups : List Group,
      (∀ result, splitAmong groups left = .ok result ↔ splitAmong groups right = .ok result) ∧
      ∀ cause, splitAmong groups left = .error cause →
        ∃ other, splitAmong groups right = .error other ∧ other.name = cause.name ∧
          other.canonical = cause.canonical := by
  constructor
  · intro target parameters bound
    have sameRun :
        ((compile target left parameters).1.mapError Rejection.canonical,
            (compile target left parameters).2) =
          ((compile target right parameters).1.mapError Rejection.canonical,
            (compile target right parameters).2) := by
      rw [← compile_canonical, same, compile_canonical]
    obtain ⟨sameResult, sameBound⟩ := Prod.mk.inj sameRun
    simp only [Prod.ext_iff, sameBound]
    refine ⟨fun text => ?_, fun cause failed => ?_⟩
    · refine and_congr_left fun _ => ⟨?_, ?_⟩
      · exact Rejection.eq_ok_of_mapError_canonical sameResult
      · exact Rejection.eq_ok_of_mapError_canonical sameResult.symm
    · obtain ⟨other, otherFailed, sameCause⟩ :=
        Rejection.exists_error_of_mapError_canonical sameResult failed.1
      exact ⟨other, ⟨otherFailed, failed.2⟩, sameCause⟩
  · intro groups
    have sameResult :
        (splitAmong groups left).mapError Rejection.canonical =
          (splitAmong groups right).mapError Rejection.canonical := by
      rw [← splitAmong_canonical, same, splitAmong_canonical]
    refine ⟨fun result => ⟨?_, ?_⟩, fun cause => ?_⟩
    · exact Rejection.eq_ok_of_mapError_canonical sameResult
    · exact Rejection.eq_ok_of_mapError_canonical sameResult.symm
    · exact Rejection.exists_error_of_mapError_canonical sameResult

/-- A set of a condition, a negated condition and a set, with the given keys for the sets. -/
def setWithin (outer inner : String) (members : Json) : Json :=
  .obj [(outer, .arr
    [.obj [("isBot", .obj [("eq", .bool true)])],
      .obj [("not", .obj [("score", .obj [("gt", .int 1)])])],
      .obj [(inner, members)]])]

/-- The keys of the sets in small letters. -/
def plainSet (members : Json) : Json :=
  setWithin "and" "or" members

/-- The keys of the sets in capitals, among blanks. -/
def looseSet (members : Json) : Json :=
  setWithin "\u00a0AND " "\u2003Or\t" members

/-- Capitals and blanks of any kind make no difference to a text or a tree, or to the parameters
that are bound before a set that has no list. -/
theorem results_agree_of_canonical_eq_of_capitals :
    (∃ text bound,
      compile ⟨memberGroup.scope, ⟨.skip⟩⟩ (plainSet (.arr [])) Dict.empty = (.ok text, bound) ∧
      compile ⟨memberGroup.scope, ⟨.skip⟩⟩ (looseSet (.arr [])) Dict.empty = (.ok text, bound) ∧
      text = "((m.bot = :isBot_1) and (not (m.score > :score_1)))") ∧
    (∃ cause bound,
      compile ⟨memberGroup.scope, ⟨.skip⟩⟩ (plainSet (.int 9)) Dict.empty =
        (.error (.misfit (.notAList "or" (.int 9))), bound) ∧
      compile ⟨memberGroup.scope, ⟨.skip⟩⟩ (looseSet (.int 9)) Dict.empty =
        (.error cause, bound) ∧
      cause.name = "InvalidFilterShape" ∧
      bound.entries.map Prod.fst = ["isBot_1", "score_1"]) ∧
    ∃ result,
      splitAmong [memberGroup] (plainSet (.arr [])) = .ok result ∧
      splitAmong [memberGroup] (looseSet (.arr [])) = .ok result := by
  have ofNone :=
    results_agree_of_canonical_eq
      (show (plainSet (.arr [])).canonical = (looseSet (.arr [])).canonical by decide +kernel)
  have ofNumber :=
    results_agree_of_canonical_eq
      (show (plainSet (.int 9)).canonical = (looseSet (.int 9)).canonical by decide +kernel)
  have rejected :
      compile ⟨memberGroup.scope, ⟨.skip⟩⟩ (plainSet (.int 9)) Dict.empty =
        (.error (.misfit (.notAList "or" (.int 9))), _) := rfl
  obtain ⟨cause, failed, sameName, -⟩ := (ofNumber.1 _ _ _).2 _ rejected
  refine ⟨⟨_, _, rfl, ?_, rfl⟩, ⟨cause, _, rejected, failed, sameName, rfl⟩, ⟨_, rfl, ?_⟩⟩
  · exact ((ofNone.1 _ _ _).1 _).1 rfl
  · exact ((ofNone.2 _).1 _).1 rfl

end WhereClause
