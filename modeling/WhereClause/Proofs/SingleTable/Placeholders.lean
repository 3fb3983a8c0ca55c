import WhereClause.Proofs.Condition
import WhereClause.Proofs.SingleTable.Layout

/-!
# The placeholders of a compiled text

Main statement: the placeholders of what is compiled for one table are distinct new names, under
which the values of the filter are bound in the order of the document.
-/

namespace WhereClause

theorem Symbol.endsInSeparator_text
    {symbol : Symbol} (ends : ∀ text ∈ Phrase.atoms [symbol], Text.EndsInSeparator text) :
    Text.EndsInSeparator symbol.text := by
  cases symbol with
  | atom condition =>
      exact ends condition (List.mem_singleton_self condition)
  | tautology =>
      exact ⟨['(', '1', '=', '1'], ')', rfl, rfl⟩
  | opening =>
      exact ⟨[], '(', rfl, rfl⟩
  | closing =>
      exact ⟨[], ')', rfl, rfl⟩
  | junction connective =>
      cases connective with
      | conjunction =>
          exact ⟨[' ', 'a', 'n', 'd'], ' ', rfl, rfl⟩
      | disjunction =>
          exact ⟨[' ', 'o', 'r'], ' ', rfl, rfl⟩
  | negation =>
      exact ⟨['n', 'o', 't'], ' ', rfl, rfl⟩

theorem Symbol.placeholders_text (symbol : Symbol) :
    Text.placeholders symbol.text =
      (Phrase.atoms [symbol]).flatMap Text.placeholders := by
  cases symbol with
  | atom condition =>
      simp [text, Phrase.atoms]
  | junction connective =>
      cases connective <;> rfl
  | _ =>
      rfl

/-- Every symbol ends in a separator, so the conditions are scanned one by one. -/
theorem Phrase.placeholders_text
    {phrase : Phrase} (ends : ∀ text ∈ phrase.atoms, Text.EndsInSeparator text) :
    Text.placeholders phrase.text = phrase.atoms.flatMap Text.placeholders := by
  induction phrase with
  | nil =>
      rfl
  | cons symbol rest inductionHypothesis =>
      have split : atoms (symbol :: rest) = atoms [symbol] ++ atoms rest :=
        atoms_append [symbol] rest
      rw [split] at ends ⊢
      obtain ⟨symbolEnds, restEnds⟩ := List.forall_mem_append.1 ends
      have head := Symbol.placeholders_text symbol
      have tail := inductionHypothesis restEnds
      rw [text, Text.placeholders_append (Symbol.endsInSeparator_text symbolEnds), head,
        tail, List.flatMap_append]

namespace Target

/-- The values of a condition on a field of the table. -/
def valuesOf (target : Target) (condition : String × Json) : List Json :=
  match target.scope.field? condition.1 with
  | none => []
  | some field => Condition.jsonValues field.isDocument condition.2

/-- Whether the field of a condition is plain, if there is such a field. -/
def isPlain (target : Target) (condition : String × Json) : Bool :=
  (target.scope.field? condition.1).all Field.isPlain

variable {target : Target} {parameters final : Parameters}

theorem binds_of_conditionText
    {condition : String × Json} {text : String} (plain : target.isPlain condition)
    (run : (target.conditionText condition.1 condition.2).runFrom parameters =
      (.ok text, final)) :
    Text.EndsInSeparator text ∧
      parameters.Binds (Text.placeholders text) (target.valuesOf condition) final := by
  rw [conditionText] at run
  rw [isPlain] at plain
  rw [valuesOf]
  cases found : target.scope.field? condition.1 with
  | none =>
      simp [found] at run
  | some field =>
      simp only [found, Option.all_some] at run plain
      exact ⟨Field.endsInSeparator_of_condition run, Field.binds_of_condition plain run⟩

/-- Conditions that are compiled one after the other bind the values of each in turn. -/
theorem binds_of_labelAll
    {conditions : List (String × Json)} {texts : List String}
    (plain : ∀ condition ∈ conditions, target.isPlain condition)
    (run : (Filter.labelAll target.conditionText conditions).runFrom parameters =
      (.ok texts, final)) :
    (∀ text ∈ texts, Text.EndsInSeparator text) ∧
      parameters.Binds (texts.flatMap Text.placeholders)
        (conditions.flatMap target.valuesOf) final := by
  induction conditions generalizing parameters texts with
  | nil =>
      cases run
      exact ⟨by simp, Parameters.Binds.refl _⟩
  | cons condition rest inductionHypothesis =>
      obtain ⟨conditionPlain, restPlain⟩ := List.forall_mem_cons.1 plain
      simp only [Filter.labelAll, List.mapM_cons, Compilation.runFrom_bind_eq_ok_iff] at run
      obtain ⟨text, bound, conditionRun, others, _, restRun, done⟩ := run
      cases done
      obtain ⟨textEnds, first⟩ := binds_of_conditionText conditionPlain conditionRun
      obtain ⟨othersEnd, second⟩ := inductionHypothesis restPlain restRun
      refine ⟨List.forall_mem_cons.2 ⟨textEnds, othersEnd⟩, ?_⟩
      rw [List.flatMap_cons, List.flatMap_cons]
      exact first.trans second

/-- The placeholders of a compiled filter are distinct names that were not bound before.
The values of the filter are bound under them, in the order of the document, and nothing
else is. -/
theorem compile_binds_placeholders
    {json : Json} {text : String}
    (plain : ∀ condition ∈ (Filter.ofJson json).leaves, target.isPlain condition)
    (compiled : compile target json parameters = (.ok text, final)) :
    (Text.placeholders text).Nodup ∧
      (∀ name ∈ Text.placeholders text, parameters.get? name = none) ∧
      (Text.placeholders text).length =
        ((Filter.ofJson json).leaves.flatMap target.valuesOf).length ∧
      final.entries =
        parameters.entries ++
          (Text.placeholders text).zip
            ((Filter.ofJson json).leaves.flatMap target.valuesOf) := by
  obtain ⟨formula, outlined, rfl⟩ := outline_of_compile compiled
  obtain ⟨ends, binds⟩ :=
    binds_of_labelAll plain (Filter.labelAll_leaves_of_outline outlined)
  have names :
      Text.placeholders (formula.phrase target.settings.emptyRule).text =
        formula.leaves.flatMap Text.placeholders := by
    rw [← Formula.atoms_phrase target.settings.emptyRule] at ends
    rw [Phrase.placeholders_text ends, Formula.atoms_phrase]
  rw [names]
  exact ⟨binds.nodup, fun _ => binds.get?_eq_none, binds.sameLength, binds.appended⟩

/-- A table with a cast in one of its columns, and a column of documents. -/
def profileTable : Target :=
  ⟨⟨Dict.ofList [("score", "m.score::int"), ("name", "m.name")],
    [⟨"meta", "m.meta", [⟨"level", .number⟩, ⟨"note", .string⟩]⟩]⟩, .standard⟩

/-- A filter that mentions a field at two levels, and searches for a text and for an object. -/
def profileFilter : Json :=
  .obj [("or", .arr
    [.obj [("score", .obj [("between", .arr [.int 1, .int 5, .int 9])])],
      .obj [("not", .obj [("meta.level", .obj [("gte", .int 3)])])],
      .obj [("and", .arr [.obj [("score", .obj [("eq", .str "NULL")])]])],
      .obj [("name", .obj [("like", .str "a_b")])],
      .obj [("meta.note",
        .obj [("notTextContains", .obj [("tags", .arr [.bool true, .int 7])])])]])]

/-- Parameters with names that are prefixes of one another. -/
def takenScores : Parameters :=
  Dict.ofList [("score_10", .int 0), ("score_1", .int 0)]

/-- The text that the filter has for the table beside these parameters. -/
def profileText : String :=
  "((m.score::int between :score_2 and :score_3)" ++
    " or (not ((m.meta -> 'level')::integer >= :meta_level_1))" ++
    " or (m.score::int is :score_4) or (m.name ilike :name_1)" ++
    " or ((m.meta ->> 'note') not ilike :meta_note_1))"

/-- Names that are taken are skipped; what is searched for stands between two wildcards. -/
theorem compile_binds_placeholders_of_profile :
    ∃ final,
      compile profileTable profileFilter takenScores = (.ok profileText, final) ∧
      (Text.placeholders profileText).Nodup ∧
      (∀ name ∈ Text.placeholders profileText, takenScores.get? name = none) ∧
      final.entries =
        takenScores.entries ++
          ["score_2", "score_3", "meta_level_1", "score_4", "name_1", "meta_note_1"].zip
            [.int 1, .int 5, .int 3, .null, .str "%a_b%",
              .str "%\x7b\"tags\":[true,7]\x7d%"] := by
  have plain :
      ∀ condition ∈ (Filter.ofJson profileFilter).leaves,
        profileTable.isPlain condition := by
    decide
  have values :
      (Filter.ofJson profileFilter).leaves.flatMap profileTable.valuesOf =
        [.int 1, .int 5, .int 3, .null, .str "%a_b%",
          .str "%\x7b\"tags\":[true,7]\x7d%"] := by
    decide +kernel
  have found :
      (compile profileTable profileFilter takenScores).1.toOption = some profileText := by
    decide +kernel
  have names :
      Text.placeholders profileText =
        ["score_2", "score_3", "meta_level_1", "score_4", "name_1", "meta_note_1"] := by
    decide +kernel
  rcases run : compile profileTable profileFilter takenScores with ⟨cause | text, final⟩
  · rw [run] at found
    cases found
  · rw [run] at found
    cases Option.some.inj found
    obtain ⟨nodup, free, -, appended⟩ := compile_binds_placeholders plain run
    refine ⟨final, rfl, nodup, free, ?_⟩
    rw [appended, names, values]

end Target

end WhereClause
