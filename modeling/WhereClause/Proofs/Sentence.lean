import Mathlib.Data.List.Basic
import WhereClause.Proofs.Condition

/-!
# The sentences of conditions

Conditions in SQL are comparisons, ranges, memberships and tests of arrays, each with the
placeholders it needs. Main statement: the text of a compiled condition is such a sentence, with
the names just bound, exactly when its comparator is not one that combines filters and it lists
some value where it lists values.
-/

namespace WhereClause

namespace Condition

/-- The verbs of comparisons, ranges, memberships and tests of arrays. -/
def verbs : Arrangement → List String
  | .single => ["=", "<>", "<", "<=", ">", ">=", "ilike", "not ilike", "is", "is not"]
  | .bounds => ["between", "not between"]
  | .list => ["in", "not in"]
  | .array => ["@>", "&&", "?&", "?|"]

/-- Placeholders in a row, as in a list of values. -/
def listed (names : List String) : String :=
  ", ".intercalate (names.map fun name => ":" ++ name)

/-- What a sentence says of its column, with the names of its placeholders. -/
inductive IsPredicate : List String → String → Prop
  | comparison {verb name : String} (isVerb : verb ∈ verbs .single) :
      IsPredicate [name] (verb ++ " :" ++ name)
  | range {verb first second : String} (isVerb : verb ∈ verbs .bounds) :
      IsPredicate [first, second] (verb ++ " :" ++ first ++ " and :" ++ second)
  | membership {verb : String} {names : List String} (isVerb : verb ∈ verbs .list)
      (nonempty : names ≠ []) : IsPredicate names (verb ++ " (" ++ listed names ++ ")")
  | array {verb : String} {names : List String} (isVerb : verb ∈ verbs .array)
      (nonempty : names ≠ []) : IsPredicate names (verb ++ " array[" ++ listed names ++ "]")

/-- A sentence is a predicate behind its column, in parentheses. -/
def IsSentence (column : String) (names : List String) (text : String) : Prop :=
  ∃ predicate, IsPredicate names predicate ∧ text = "(" ++ column ++ " " ++ predicate ++ ")"

theorem colon_mem_listed {names : List String} (nonempty : names ≠ []) :
    ':' ∈ (listed names).toList := by
  obtain ⟨name, rest, rfl⟩ := List.exists_cons_of_ne_nil nonempty
  cases rest with
  | nil =>
      simp [listed]
  | cons next others =>
      simp [listed, String.intercalate_cons_cons]

namespace IsPredicate

variable {names : List String} {predicate : String}

/-- No predicate is without placeholders. -/
theorem colon_mem (isPredicate : IsPredicate names predicate) : ':' ∈ predicate.toList := by
  cases isPredicate with
  | comparison | range =>
      simp
  | membership _ nonempty | array _ nonempty =>
      simp [colon_mem_listed nonempty]

/-- Every predicate begins like one of the verbs. -/
theorem head?_mem (isPredicate : IsPredicate names predicate) :
    predicate.toList.head? ∈ ['=', '<', '>', 'i', 'n', 'b', '@', '&', '?'].map some := by
  cases isPredicate with
  | comparison isVerb =>
      simp only [verbs, List.mem_cons, List.not_mem_nil, or_false] at isVerb
      rcases isVerb with rfl | rfl | rfl | rfl | rfl | rfl | rfl | rfl | rfl | rfl <;> simp
  | range isVerb | membership isVerb =>
      simp only [verbs, List.mem_cons, List.not_mem_nil, or_false] at isVerb
      rcases isVerb with rfl | rfl <;> simp
  | array isVerb =>
      simp only [verbs, List.mem_cons, List.not_mem_nil, or_false] at isVerb
      rcases isVerb with rfl | rfl | rfl | rfl <;> simp

end IsPredicate

/-- What a compiled condition says of its column. -/
def predicate (document : Bool) (condition : Condition) (names : List String) : String :=
  condition.verb document ++ " " ++
    condition.comparator.arrangement.layOut (names.map fun name => ":" ++ name)

theorem text_eq (document : Bool) (column : String) (condition : Condition) (names : List String) :
    condition.text document column names =
      "(" ++ column ++ " " ++ condition.predicate document names ++ ")" := by
  simp only [text, predicate, String.append_assoc]

theorem isSentence_text_iff
    {document : Bool} {column : String} {condition : Condition} {names others : List String} :
    IsSentence column others (condition.text document column names) ↔
      IsPredicate others (condition.predicate document names) := by
  rw [text_eq]
  constructor
  · rintro ⟨predicate, isPredicate, same⟩
    have equal : condition.predicate document names = predicate := by
      simpa [String.append_left_inj, String.append_right_inj] using same
    rwa [equal]
  · intro isPredicate
    exact ⟨_, isPredicate, rfl⟩

/-- Whether a condition compares, and lists some value where it lists values. -/
def IsExpressible (condition : Condition) (values : List Json) : Prop :=
  condition.comparator ≠ .conjoined ∧ condition.comparator ≠ .disjoined ∧
    (condition.comparator.arrangement = .list ∨ condition.comparator.arrangement = .array →
      values ≠ [])

variable {document : Bool} {condition : Condition} {values : List Json} {names : List String}

theorem verb_mem
    (notConjoined : condition.comparator ≠ .conjoined)
    (notDisjoined : condition.comparator ≠ .disjoined) :
    condition.verb document ∈ verbs condition.comparator.arrangement := by
  obtain ⟨comparator, operand⟩ := condition
  rw [verb]
  cases comparator with
  | conjoined =>
      exact absurd rfl notConjoined
  | disjoined =>
      exact absurd rfl notDisjoined
  | equal | notEqual =>
      split <;> simp [Comparator.arrangement, verbs, Comparator.sql]
  | overlaps | contains =>
      cases document <;> simp [testsNull, Comparator.arrangement, verbs, Comparator.sql]
  | _ =>
      simp [testsNull, Comparator.arrangement, verbs, Comparator.sql]

/-- There is one value to compare with, and there are two bounds. -/
theorem length_values (taken : condition.values document = .ok values) :
    (condition.comparator.arrangement = .single → values.length = 1) ∧
      (condition.comparator.arrangement = .bounds → values.length = 2) := by
  rw [Condition.values] at taken
  constructor
  · intro single
    rw [single] at taken
    cases taken
    rfl
  · intro bounds
    rw [bounds] at taken
    dsimp only at taken
    split at taken
    · cases taken
      rfl
    · cases taken

/-- What an expressible condition says of its column is a predicate with the names of its
values. -/
theorem isPredicate_of_isExpressible
    (taken : condition.values document = .ok values) (sameLength : names.length = values.length)
    (expressible : condition.IsExpressible values) :
    IsPredicate names (condition.predicate document names) := by
  obtain ⟨notConjoined, notDisjoined, lists⟩ := expressible
  obtain ⟨ofSingle, ofBounds⟩ := length_values taken
  have isVerb : condition.verb document ∈ verbs condition.comparator.arrangement :=
    verb_mem notConjoined notDisjoined
  have nonempty (some : values ≠ []) : names ≠ [] := by
    rintro rfl
    exact some (List.length_eq_zero_iff.1 sameLength.symm)
  rw [predicate]
  cases arrangement : condition.comparator.arrangement with
  | single =>
      obtain ⟨name, rfl⟩ := List.length_eq_one_iff.1 (sameLength.trans (ofSingle arrangement))
      rw [arrangement] at isVerb
      have shape : condition.verb document ++ " " ++
          Arrangement.layOut ([name].map fun name => ":" ++ name) .single =
            condition.verb document ++ " :" ++ name := by
        simp [Arrangement.layOut, ← String.toList_inj]
      rw [shape]
      exact .comparison isVerb
  | bounds =>
      obtain ⟨first, second, rfl⟩ :=
        List.length_eq_two.1 (sameLength.trans (ofBounds arrangement))
      rw [arrangement] at isVerb
      have shape : condition.verb document ++ " " ++
          Arrangement.layOut ([first, second].map fun name => ":" ++ name) .bounds =
            condition.verb document ++ " :" ++ first ++ " and :" ++ second := by
        simp [Arrangement.layOut, ← String.toList_inj, String.intercalate_cons_cons]
      rw [shape]
      exact .range isVerb
  | list =>
      rw [arrangement] at isVerb
      have shape : condition.verb document ++ " " ++
          Arrangement.layOut (names.map fun name => ":" ++ name) .list =
            condition.verb document ++ " (" ++ listed names ++ ")" := by
        simp [Arrangement.layOut, listed, ← String.toList_inj]
      rw [shape]
      exact .membership isVerb (nonempty (lists (Or.inl arrangement)))
  | array =>
      rw [arrangement] at isVerb
      have shape : condition.verb document ++ " " ++
          Arrangement.layOut (names.map fun name => ":" ++ name) .array =
            condition.verb document ++ " array[" ++ listed names ++ "]" := by
        simp [Arrangement.layOut, listed, ← String.toList_inj]
      rw [shape]
      exact .array isVerb (nonempty (lists (Or.inr arrangement)))

theorem colon_not_mem_predicate
    (lists : condition.comparator.arrangement = .list ∨
      condition.comparator.arrangement = .array) :
    ':' ∉ (condition.predicate document []).toList := by
  obtain ⟨comparator, operand⟩ := condition
  cases comparator with
  | memberOf | notMemberOf =>
      simp [predicate, verb, testsNull, Comparator.sql, Comparator.arrangement,
        Arrangement.layOut]
  | overlaps | contains =>
      cases document <;>
        simp [predicate, verb, testsNull, Comparator.sql, Comparator.arrangement,
          Arrangement.layOut]
  | _ =>
      simp [Comparator.arrangement] at lists

/-- Without values to list there is no placeholder, and a comparator that combines filters begins
like none of the verbs. -/
theorem isExpressible_of_isPredicate
    {others : List String} (taken : condition.values document = .ok values)
    (sameLength : names.length = values.length)
    (isPredicate : IsPredicate others (condition.predicate document names)) :
    condition.IsExpressible values := by
  have starts := isPredicate.head?_mem
  have holds := isPredicate.colon_mem
  refine ⟨?_, ?_, ?_⟩
  · intro conjoined
    simp [predicate, verb, testsNull, conjoined, Comparator.sql] at starts
  · intro disjoined
    simp [predicate, verb, testsNull, disjoined, Comparator.sql] at starts
  · rintro lists rfl
    obtain rfl := List.length_eq_zero_iff.1 sameLength
    exact colon_not_mem_predicate lists holds

/-- Whether a condition can be said in a sentence: its comparator is not one that combines filters,
and a list of values is not empty. -/
def HasSentence : Json → Prop
  | .obj [(symbol, operand)] =>
      symbol ≠ "and" ∧ symbol ≠ "or" ∧
        (symbol ∈ ["in", "notIn", "overlap", "contains"] → operand ≠ .arr [])
  | .arr items => items ≠ []
  | _ => True

/-- Where values are listed, there are none exactly for the empty list. -/
theorem values_eq_nil_iff
    (lists : condition.comparator.arrangement = .list ∨
      condition.comparator.arrangement = .array)
    (taken : condition.values document = .ok values) :
    values = [] ↔ condition.operand = .arr [] := by
  obtain ⟨comparator, operand⟩ := condition
  rw [Condition.values] at taken
  cases operand with
  | arr items =>
      rcases lists with isList | isArray
      · simp only [isList, Except.ok.injEq] at taken
        simp [taken]
      · simp only [isArray, Except.ok.injEq] at taken
        simp [taken]
  | _ =>
      rcases lists with isList | isArray
      · simp [isList] at taken
      · simp [isArray] at taken

theorem hasSentence_iff
    {json : Json} (read : ofJson document json = .ok condition)
    (taken : condition.values document = .ok values) :
    HasSentence json ↔ condition.IsExpressible values := by
  unfold ofJson at read
  split at read
  · rename_i symbol operand
    cases named : Comparator.ofSymbol? symbol with
    | none =>
        simp [named] at read
    | some comparator =>
        simp only [named, Except.ok.injEq] at read
        subst read
        have empty := fun lists => values_eq_nil_iff lists taken
        rw [← Comparator.ofSymbol?_eq_some_iff.1 named]
        cases comparator with
        | memberOf | notMemberOf | overlaps | contains =>
            simpa [HasSentence, IsExpressible, Comparator.symbol, Comparator.arrangement]
              using not_congr (empty (by simp [Comparator.arrangement])).symm
        | _ =>
            simp [HasSentence, IsExpressible, Comparator.symbol, Comparator.arrangement]
  · split at read
    · cases read
      cases taken
      simp [HasSentence, IsExpressible, Comparator.arrangement]
    · cases read
  · cases read

end Condition

/-! ## Compiled conditions -/

/-- The text of a compiled condition is a sentence on the SQL of its field, with the names under
which its values have just been bound, exactly when the condition can be said in one; otherwise it
is none with any names. -/
theorem Field.isSentence_condition_iff
    {field : Field} {json : Json} {parameters final : Parameters} {text : String}
    (run : (field.condition json).runFrom parameters = (.ok text, final)) :
    ∃ column names, field.sql = .ok column ∧
      parameters.Binds names (Condition.jsonValues field.isDocument json) final ∧
      (Condition.IsSentence column names text ↔ Condition.HasSentence json) ∧
      ∀ others, Condition.IsSentence column others text → Condition.HasSentence json := by
  obtain ⟨condition, column, values, read, found, taken, rfl, rfl⟩ := exists_of_condition run
  have binds := Parameters.binds_bindAll field.stem values parameters
  have expressible := Condition.hasSentence_iff read taken
  have onlyIf : ∀ others,
      Condition.IsSentence column others
          (condition.text field.isDocument column
            (Parameters.bindAll field.stem values parameters).1) →
        Condition.HasSentence json := by
    intro others isSentence
    rw [Condition.isSentence_text_iff] at isSentence
    exact expressible.2 (Condition.isExpressible_of_isPredicate taken binds.sameLength isSentence)
  refine ⟨column, (Parameters.bindAll field.stem values parameters).1, found, ?_,
    ⟨onlyIf _, fun hasSentence => ?_⟩, onlyIf⟩
  · rw [Condition.jsonValues_eq read taken]
    exact binds
  · rw [Condition.isSentence_text_iff]
    exact Condition.isPredicate_of_isExpressible taken binds.sameLength
      (expressible.1 hasSentence)

/-- A list with one value is still a list. -/
theorem Field.isSentence_condition_iff_of_score :
    ∃ text final column names,
      ((Field.column "score" "m.score").condition
          (.obj [("notIn", .arr [.int 7])])).runFrom (Dict.ofList [("score_1", .int 0)]) =
        (.ok text, final) ∧
      text = "(m.score not in (:score_2))" ∧
      (Field.column "score" "m.score").sql = .ok column ∧
      Parameters.Binds (Dict.ofList [("score_1", .int 0)]) names [.int 7] final ∧
      Condition.IsSentence column names text := by
  obtain ⟨column, names, found, binds, isSentence, -⟩ :=
    Field.isSentence_condition_iff
      (show ((Field.column "score" "m.score").condition
          (.obj [("notIn", .arr [.int 7])])).runFrom (Dict.ofList [("score_1", .int 0)]) =
        (.ok "(m.score not in (:score_2))", _) from rfl)
  refine ⟨_, _, column, names, rfl, rfl, found, binds, isSentence.2 ?_⟩
  simp [Condition.HasSentence]

/-- A list without values is compiled to text that is no sentence. -/
theorem Field.not_forall_isSentence_condition :
    ¬ ∀ (field : Field) (json : Json) (parameters final : Parameters) (text column : String),
      (field.condition json).runFrom parameters = (.ok text, final) →
      field.sql = .ok column →
      ∃ names, Condition.IsSentence column names text := by
  intro always
  obtain ⟨names, isSentence⟩ :=
    always (.column "score" "m.score") (.obj [("in", .arr [])]) Dict.empty Dict.empty
      "(m.score in ())" "m.score" rfl rfl
  rw [show "(m.score in ())" = Condition.text false "m.score" ⟨.memberOf, .arr []⟩ [] from rfl,
    Condition.isSentence_text_iff] at isSentence
  exact Condition.colon_not_mem_predicate (Or.inl rfl) isSentence.colon_mem

end WhereClause
