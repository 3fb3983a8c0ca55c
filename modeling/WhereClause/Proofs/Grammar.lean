import WhereClause.Proofs.Check
import WhereClause.Proofs.Connective

/-!
# The grammar of filters

The least relation that admits the filters: a key asks for a value of a kind, and the conditions
are left to the fields. Main statement: a filter passes all of its checks exactly when it belongs
to the grammar of what decides about them.
-/

namespace WhereClause

/-- Which conditions a grammar admits under a key, and which keys it admits in what is negated. -/
@[ext]
structure Grammar where
  condition : String → Json → Prop
  negated : String → Prop

namespace Grammar

mutual

/-- The filters of a grammar: objects of which every entry is admitted. -/
inductive IsFilter (grammar : Grammar) : Json → Prop
  | object {members : List (String × Json)}
      (entries : ∀ member ∈ members, IsEntry grammar member.1 member.2) :
      IsFilter grammar (.obj members)

/-- The entries of a grammar: a list of filters under a connective, a filter of one entry under
`not`, and a condition under any other key. -/
inductive IsEntry (grammar : Grammar) : String → Json → Prop
  | set {key : String} {connective : Connective} {items : List Json}
      (spelled : connective.IsSpelledBy key) (filters : ∀ item ∈ items, IsFilter grammar item) :
      IsEntry grammar key (.arr items)
  | negation {key : String} {value : Json} (allowed : grammar.negated key)
      (filter : IsFilter grammar (.obj [(key, value)])) :
      IsEntry grammar "not" (.obj [(key, value)])
  | condition {key : String} {json : Json}
      (isNotSet : ∀ connective : Connective, ¬connective.IsSpelledBy key)
      (isNotNegation : key ≠ "not") (admitted : grammar.condition key json) :
      IsEntry grammar key json

end

variable {grammar : Grammar} {key : String}

theorem isFilter_obj_iff {members : List (String × Json)} :
    grammar.IsFilter (.obj members) ↔
      ∀ member ∈ members, grammar.IsEntry member.1 member.2 := by
  constructor
  · rintro ⟨entries⟩
    exact entries
  · exact .object

theorem isEntry_of_set_iff
    {connective : Connective} (role : KeyRole.ofKey key = .set connective) {json : Json} :
    grammar.IsEntry key json ↔
      ∃ items, json = .arr items ∧ ∀ item ∈ items, grammar.IsFilter item := by
  have spelled := Connective.ofKey?_eq_some_iff.1 (KeyRole.ofKey_eq_set_iff.1 role)
  constructor
  · intro entry
    cases entry with
    | set _ filters =>
        exact ⟨_, rfl, filters⟩
    | negation =>
        cases role
    | condition isNotSet =>
        exact absurd spelled (isNotSet connective)
  · rintro ⟨items, rfl, filters⟩
    exact .set spelled filters

theorem isEntry_of_negation_iff (role : KeyRole.ofKey key = .negation) {json : Json} :
    grammar.IsEntry key json ↔
      ∃ inner value, json = .obj [(inner, value)] ∧
        grammar.negated inner ∧ grammar.IsFilter (.obj [(inner, value)]) := by
  obtain rfl := KeyRole.ofKey_eq_negation_iff.1 role
  constructor
  · intro entry
    cases entry with
    | set spelled =>
        cases Connective.ofKey?_eq_some_iff.2 spelled
    | negation allowed filter =>
        exact ⟨_, _, rfl, allowed, filter⟩
    | condition _ isNotNegation =>
        contradiction
  · rintro ⟨inner, value, rfl, allowed, filter⟩
    exact .negation allowed filter

theorem isEntry_of_field_iff (role : KeyRole.ofKey key = .field) {json : Json} :
    grammar.IsEntry key json ↔ grammar.condition key json := by
  obtain ⟨unnamed, isNotNegation⟩ := KeyRole.ofKey_eq_field_iff.1 role
  have isNotSet := Connective.ofKey?_eq_none_iff.1 unnamed
  constructor
  · intro entry
    cases entry with
    | set spelled =>
        exact absurd spelled (isNotSet _)
    | negation =>
        contradiction
    | condition _ _ admitted =>
        exact admitted
  · exact .condition isNotSet isNotNegation

end Grammar

/-- Whether an operand is of the kind that the comparator asks for. -/
def Comparator.Takes (comparator : Comparator) (operand : Json) : Prop :=
  match comparator with
  | .between | .notBetween => ∃ items, operand = .arr items ∧ 2 ≤ items.length
  | .memberOf | .notMemberOf | .overlaps | .contains => ∃ items, operand = .arr items
  | _ => True

namespace Condition

/-- A well-formed condition has one comparator with an operand that it takes; on a document
column a list stands for a condition. -/
inductive IsWellFormed (document : Bool) : Json → Prop
  | elements (isDocument : document = true) (items : List Json) :
      IsWellFormed document (.arr items)
  | comparison (comparator : Comparator) {operand : Json} (takes : comparator.Takes operand) :
      IsWellFormed document (.obj [(comparator.symbol, operand)])

variable {document : Bool}

theorem isWellFormed_iff {json : Json} :
    IsWellFormed document json ↔
      ∃ condition, ofJson document json = .ok condition ∧
        condition.comparator.Takes condition.operand := by
  constructor
  · rintro (⟨isDocument, items⟩ | ⟨comparator, takes⟩)
    · exact ⟨⟨.contains, .arr items⟩, if_pos isDocument, items, rfl⟩
    · refine ⟨⟨comparator, _⟩, ?_, takes⟩
      rw [ofJson, Comparator.ofSymbol?_symbol]
  · rintro ⟨condition, read, takes⟩
    unfold ofJson at read
    split at read
    · rename_i symbol operand
      split at read
      · rename_i comparator found
        cases read
        rw [← Comparator.ofSymbol?_eq_some_iff.1 found]
        exact .comparison comparator takes
      · cases read
    · rename_i items
      split at read
      · exact .elements ‹document = true› items
      · cases read
    · cases read

/-- The values of a condition can be taken from an operand of the right kind. -/
theorem exists_values_iff {condition : Condition} :
    (∃ values, condition.values document = .ok values) ↔
      condition.comparator.Takes condition.operand := by
  obtain ⟨comparator, operand⟩ := condition
  cases comparator with
  | between | notBetween =>
      constructor
      · rintro ⟨values, taken⟩
        match operand, taken with
        | .arr (lower :: upper :: rest), _ =>
            exact ⟨lower :: upper :: rest, rfl, Nat.le_add_left 2 rest.length⟩
      · rintro ⟨items, rfl, two⟩
        match items, two with
        | lower :: upper :: _, _ =>
            exact ⟨[lower, upper], rfl⟩
  | memberOf | notMemberOf | overlaps | contains =>
      constructor
      · rintro ⟨values, taken⟩
        match operand, taken with
        | .arr items, _ =>
            exact ⟨items, rfl⟩
      · rintro ⟨items, rfl⟩
        exact ⟨items, rfl⟩
  | _ =>
      exact iff_of_true ⟨_, rfl⟩ trivial

end Condition

namespace Field

/-- Whether the field has SQL: the first step into a document has to be a declared attribute. -/
def IsDeclared : Field → Prop
  | .path document (first :: _) => ∃ declared ∈ document.attributes, declared.name = first
  | _ => True

theorem exists_sql_iff {field : Field} : (∃ sql, field.sql = .ok sql) ↔ field.IsDeclared := by
  match field with
  | .column _ _ | .path _ [] =>
      exact iff_of_true ⟨_, rfl⟩ trivial
  | .path document (first :: rest) =>
      have found : (document.attribute? first).isSome ↔
          ∃ declared ∈ document.attributes, declared.name = first := by
        rw [DocumentColumn.attribute?, List.find?_isSome]
        simp only [decide_eq_true_eq]
      rw [sql, pathSql, IsDeclared, ← found]
      cases document.attribute? first <;> simp

/-- A condition can be compiled where the field is declared and the condition well-formed. -/
theorem cause_course_eq_none_iff {field : Field} {json : Json} :
    (field.course json).cause = none ↔
      field.IsDeclared ∧ Condition.IsWellFormed field.isDocument json := by
  rw [cause_course, Rejection.of?_eq_none_iff, ← exists_sql_iff, Condition.isWellFormed_iff,
    valuesOf]
  simp only [← @Condition.exists_values_iff field.isDocument]
  cases Condition.ofJson field.isDocument json with
  | error cause =>
      simp [bind, Except.bind]
  | ok condition =>
      cases field.sql with
      | error cause =>
          simp [bind, Except.bind]
      | ok column =>
          simp [bind, Except.bind]

end Field

/-! ## The grammar of a judge -/

namespace Judge

/-- The grammar of the conditions and the negations that a judge lets pass. -/
def grammar (judge : Judge) : Grammar :=
  ⟨fun key json => (judge.condition key json).cause = none, fun key => judge.denial key = none⟩

variable {judge : Judge}

theorem passes_form_iff {json : Json} : judge.Passes (.form json) ↔ json.misfit? = none :=
  Option.map_eq_none_iff

theorem passes_denial_iff {key : String} {value : Json} :
    judge.Passes (.denial key value) ↔ judge.denial key = none :=
  Iff.rfl

theorem passes_single_iff {count : Nat} : judge.Passes (.single count) ↔ count = 1 := by
  rw [Passes, verdict, Course.checked]
  by_cases single : count = 1
  · simp [single]
  · simp [single]

/-- What is negated passes if it is one entry that does, and that may be negated. -/
theorem passes_negation_iff {members : List (String × Json)} :
    (∀ check ∈ .single members.length :: .form (.obj members) ::
        (Json.checksOfMembers members ++ Check.denials members), judge.Passes check) ↔
      ∃ key value, members = [(key, value)] ∧ judge.denial key = none ∧
        (Json.obj members).misfit? = none ∧
          ∀ check ∈ Json.checksOfMembers members, judge.Passes check := by
  rw [List.forall_mem_cons, List.forall_mem_cons, List.forall_mem_append, passes_single_iff,
    passes_form_iff]
  constructor
  · rintro ⟨single, formed, pass, denied⟩
    obtain ⟨⟨key, value⟩, rfl⟩ := List.length_eq_one_iff.1 single
    exact ⟨key, value, rfl, denied _ (List.mem_singleton_self _), formed, pass⟩
  · rintro ⟨key, value, rfl, denied, formed, pass⟩
    refine ⟨rfl, formed, pass, ?_⟩
    rw [Check.denials, List.forall_mem_singleton]
    exact denied

mutual

/-- A filter passes all of its checks exactly when it belongs to the grammar. -/
theorem passes_checks_iff (json : Json) :
    (∀ check ∈ json.checks, judge.Passes check) ↔ judge.grammar.IsFilter json := by
  cases json with
  | obj members =>
      rw [Json.checks, List.forall_mem_cons, passes_form_iff, Grammar.isFilter_obj_iff]
      exact passes_checksOfMembers_iff members
  | _ =>
      simp only [Json.checks, List.forall_mem_singleton, passes_form_iff]
      constructor
      · rintro ⟨⟩
      · rintro ⟨⟩

theorem passes_checksOfAll_iff (items : List Json) :
    (∀ check ∈ Json.checksOfAll items, judge.Passes check) ↔
      ∀ item ∈ items, judge.grammar.IsFilter item := by
  cases items with
  | nil =>
      rw [Json.checksOfAll]
      simp
  | cons item rest =>
      rw [Json.checksOfAll, List.forall_mem_append, List.forall_mem_cons,
        passes_checks_iff item, passes_checksOfAll_iff rest]

theorem passes_checksOfValue_iff (key : String) (json : Json) :
    (Json.misfitUnder? key json = none ∧
        ∀ check ∈ Json.checksOfValue key json, judge.Passes check) ↔
      judge.grammar.IsEntry key json := by
  cases role : KeyRole.ofKey key with
  | set connective =>
      rw [Grammar.isEntry_of_set_iff role]
      unfold Json.misfitUnder?
      rw [role]
      cases json with
      | arr items =>
          have pass := passes_checksOfAll_iff items
          rw [Json.checksOfValue, role, pass]
          simp only [true_and, Json.arr.injEq, exists_eq_left']
      | _ =>
          simp
  | negation =>
      rw [Grammar.isEntry_of_negation_iff role]
      unfold Json.misfitUnder?
      rw [role]
      cases json with
      | obj members =>
          have pass := passes_checksOfMembers_iff members
          rw [← Grammar.isFilter_obj_iff] at pass
          rw [Json.checksOfValue, role, passes_negation_iff, pass]
          constructor
          · rintro ⟨-, inner, value, rfl, allowed, filter⟩
            exact ⟨inner, value, rfl, allowed, filter⟩
          · rintro ⟨inner, value, same, allowed, filter⟩
            cases same
            exact ⟨rfl, inner, value, rfl, allowed, filter⟩
      | _ =>
          simp
  | field =>
      rw [Grammar.isEntry_of_field_iff role, Json.checksOfValue_of_field role,
        List.forall_mem_singleton]
      unfold Json.misfitUnder?
      rw [role]
      exact and_iff_right rfl

theorem passes_checksOfMembers_iff (members : List (String × Json)) :
    ((Json.obj members).misfit? = none ∧
        ∀ check ∈ Json.checksOfMembers members, judge.Passes check) ↔
      ∀ member ∈ members, judge.grammar.IsEntry member.1 member.2 := by
  cases members with
  | nil =>
      rw [Json.checksOfMembers]
      simp [Json.misfit?]
  | cons member rest =>
      obtain ⟨key, value⟩ := member
      have head := passes_checksOfValue_iff key value
      have tail := passes_checksOfMembers_iff rest
      rw [Json.misfit?, List.findSome?_eq_none_iff] at tail ⊢
      rw [Json.checksOfMembers, List.forall_mem_append, List.forall_mem_cons,
        List.forall_mem_cons, ← head, ← tail]
      exact and_and_and_comm

end

end Judge

end WhereClause
