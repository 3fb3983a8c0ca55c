import WhereClause.Proofs.SingleTable.Row

/-!
# The meaning of what is compiled for one table

Main statements: where no filter below a negation has several entries, the text means what the
filter does; and a negation governs the whole of its child exactly when the child is one unit, or
when the rest of its row makes no difference.
-/

namespace WhereClause

theorem Connective.unite_singletons (connective : Connective) (values : List Truth) :
    connective.unite (values.map fun value => [value]) =
      (connective.combine? values).toList := by
  rcases values with _ | ⟨first, _ | ⟨second, rest⟩⟩
  · rfl
  · simp [Connective.unite]
  · simp [Connective.unite, Connective.combine?, Connective.neutral,
      Connective.apply, Function.comp_def]

theorem Truth.negateFirst_toList (value : Option Truth) :
    Truth.negateFirst value.toList = (value.getD .true).not := by
  cases value <;> simp [Truth.negateFirst, Truth.not, Connective.neutral]

namespace Formula

variable {α : Type} {rule : EmptyRule} {truth : α → Truth}

mutual

/-- A narrow formula is at most one unit, which has its meaning. -/
theorem row_eq_of_isNarrow
    {formula : Formula α} (narrow : formula.isNarrow) :
    formula.row rule truth = (formula.meaning rule truth).toList := by
  cases formula with
  | all conjuncts =>
      rw [isNarrow, Bool.and_eq_true, decide_eq_true_eq] at narrow
      obtain ⟨short, narrow⟩ := narrow
      match conjuncts with
      | [] =>
          rfl
      | [conjunct] =>
          rw [areNarrowConjuncts, Bool.and_eq_true] at narrow
          have only := rowOfConjunct_eq_of_isNarrow narrow.1
          simp [row, rowOfConjuncts, meaning, meaningsOfConjuncts, only,
            Connective.combine?_toList]
      | _ :: _ :: _ =>
          simp at short

theorem rowOfConjunct_eq_of_isNarrow
    {conjunct : Conjunct α} (narrow : isNarrowConjunct conjunct) :
    rowOfConjunct rule truth conjunct =
      (meaningOfConjunct rule truth conjunct).toList := by
  cases conjunct with
  | set connective children =>
      rw [rowOfConjunct, rows_eq_of_areNarrow narrow, Connective.unite_singletons]
      rfl
  | negation child =>
      rw [rowOfConjunct, row_eq_of_isNarrow narrow, Truth.negateFirst_toList]
      rfl
  | leaf label =>
      rfl

theorem rows_eq_of_areNarrow
    {formulas : List (Formula α)} (narrow : areNarrow formulas) :
    rows rule truth formulas =
      (meanings rule truth formulas).map fun value => [value] := by
  cases formulas with
  | nil =>
      rfl
  | cons formula rest =>
      rw [areNarrow, Bool.and_eq_true] at narrow
      rw [rows, row_eq_of_isNarrow narrow.1, rows_eq_of_areNarrow narrow.2, meanings]
      cases formula.meaning rule truth <;> simp

end

theorem rows_ne_nil (rule : EmptyRule) (truth : α → Truth)
    (formulas : List (Formula α)) :
    ∀ row ∈ rows rule truth formulas, row ≠ [] := by
  induction formulas with
  | nil =>
      simp [rows]
  | cons formula rest inductionHypothesis =>
      rw [rows]
      split
      · exact inductionHypothesis
      · exact List.forall_mem_cons.2 ⟨‹_›, inductionHypothesis⟩

mutual

/-- The row of a formula combines to its meaning. -/
theorem combine?_row
    {formula : Formula α} (narrow : formula.isNarrowBelowNegation) :
    Connective.conjunction.combine? (formula.row rule truth) =
      formula.meaning rule truth := by
  cases formula with
  | all conjuncts =>
      cases conjuncts with
      | nil =>
          exact Connective.combine?_toList _ _
      | cons conjunct rest =>
          exact combine?_rowOfConjuncts narrow

theorem combine?_rowOfConjunct
    {conjunct : Conjunct α} (narrow : isNarrowBelowNegationConjunct conjunct) :
    Connective.conjunction.combine? (rowOfConjunct rule truth conjunct) =
      meaningOfConjunct rule truth conjunct := by
  cases conjunct with
  | set connective children =>
      have each := map_combine_rows narrow
      rw [rowOfConjunct, meaningOfConjunct, ← each]
      match rows rule truth children, rows_ne_nil rule truth children with
      | [], _ =>
          rfl
      | [row], nonempty =>
          have rowSome : row ≠ [] := nonempty row (List.mem_singleton_self row)
          simp [Connective.unite, Connective.combine?_eq, rowSome]
      | first :: second :: rest, _ =>
          simp [Connective.unite, Connective.combine?]
  | negation child =>
      rw [rowOfConjunct, row_eq_of_isNarrow narrow, Truth.negateFirst_toList]
      simp [meaningOfConjunct]
  | leaf label =>
      simp [rowOfConjunct, meaningOfConjunct]

theorem combine?_rowOfConjuncts
    {conjuncts : List (Conjunct α)}
    (narrow : areNarrowBelowNegationConjuncts conjuncts) :
    Connective.conjunction.combine? (rowOfConjuncts rule truth conjuncts) =
      Connective.conjunction.combine? (meaningsOfConjuncts rule truth conjuncts) := by
  cases conjuncts with
  | nil =>
      rfl
  | cons conjunct rest =>
      rw [areNarrowBelowNegationConjuncts, Bool.and_eq_true] at narrow
      rw [rowOfConjuncts, meaningsOfConjuncts, Connective.combine?_append,
        Connective.combine?_append,
        combine?_rowOfConjunct narrow.1, combine?_rowOfConjuncts narrow.2,
        Connective.combine?_toList]

theorem map_combine_rows
    {formulas : List (Formula α)} (narrow : areNarrowBelowNegation formulas) :
    (rows rule truth formulas).map Connective.conjunction.combine =
      meanings rule truth formulas := by
  cases formulas with
  | nil =>
      rfl
  | cons formula rest =>
      rw [areNarrowBelowNegation, Bool.and_eq_true] at narrow
      have head := combine?_row narrow.1
      have tail := map_combine_rows narrow.2
      rw [rows, meanings, ← head, ← tail, Connective.combine?_eq]
      by_cases contributes : formula.row rule truth = []
      · simp [contributes]
      · simp [contributes]

end

end Formula

/-- A table with two columns, where empty filters contribute nothing. -/
def memberTable : Target :=
  ⟨⟨Dict.ofList [("score", "m.score"), ("isBot", "m.bot")], []⟩, .standard⟩

/-- Two entries of one filter. -/
def scoreOfBot : Json :=
  .obj [("score", .obj [("gt", .int 1)]), ("isBot", .obj [("eq", .bool true)])]

/-- A filter with several entries beside a negation. -/
def scoreOfBotOrNotNegative : Json :=
  .obj [("or", .arr
    [scoreOfBot,
      .obj [("not", .obj [("and", .arr [.obj [("score", .obj [("lt", .int 0)])], .obj []])])]])]

namespace Target

/-- The text of a compilation reads as the meaning of the filter, whose conditions are the
atoms of the text. -/
theorem compile_reads_as_meaning
    {target : Target} {json : Json} {parameters bound : Parameters} {text : String}
    (compiled : compile target json parameters = (.ok text, bound)) :
    ∃ (formula : Formula String) (phrase : Phrase),
      target.outline json parameters = (.ok formula, bound) ∧
      target.phrase json parameters = (.ok phrase, bound) ∧
      phrase.text = text ∧
      phrase.atoms = formula.leaves ∧
      (formula.isNarrowBelowNegation → ∀ truth : String → Truth,
        phrase.value? truth =
          some ((formula.meaning target.settings.emptyRule truth).getD .true)) := by
  obtain ⟨formula, outlined, same⟩ := outline_of_compile compiled
  refine ⟨formula, formula.phrase target.settings.emptyRule, outlined,
    phrase_of_outline outlined, same, Formula.atoms_phrase _ formula, ?_⟩
  intro narrow truth
  rw [Formula.value?_phrase, ← Formula.combine?_row narrow,
    Connective.getD_combine?_conjunction]

/-- A filter with several entries in a disjunction, beside a negated set. -/
theorem compile_reads_as_meaning_of_scores :
    compile memberTable scoreOfBotOrNotNegative Dict.empty =
        (.ok "((m.score > :score_1) and (m.bot = :isBot_1) or (not (m.score < :score_2)))",
          Dict.ofList [("score_1", .int 1), ("isBot_1", .bool true), ("score_2", .int 0)]) ∧
      ∃ (formula : Formula String) (phrase : Phrase),
        memberTable.outline scoreOfBotOrNotNegative Dict.empty =
          (.ok formula,
            Dict.ofList
              [("score_1", .int 1), ("isBot_1", .bool true), ("score_2", .int 0)]) ∧
        formula.isNarrowBelowNegation = true ∧
        phrase.text =
          "((m.score > :score_1) and (m.bot = :isBot_1) or (not (m.score < :score_2)))" ∧
        ∀ truth : String → Truth,
          phrase.value? truth = some ((formula.meaning .skip truth).getD .true) := by
  refine ⟨rfl, ?_⟩
  obtain ⟨formula, phrase, outlined, _, same, _, reads⟩ :=
    compile_reads_as_meaning
      (show compile memberTable scoreOfBotOrNotNegative Dict.empty =
        (.ok "((m.score > :score_1) and (m.bot = :isBot_1) or (not (m.score < :score_2)))",
          Dict.ofList [("score_1", .int 1), ("isBot_1", .bool true), ("score_2", .int 0)])
        from rfl)
  have narrow : formula.isNarrowBelowNegation = true := by
    cases outlined
    rfl
  exact ⟨formula, phrase, outlined, narrow, same, reads narrow⟩

/-! ## Negations -/

theorem ofJson_negation (member : String × Json) :
    Filter.ofJson (.obj [("not", .obj [member])]) =
      .all [.negation (Filter.ofJson (.obj [member]))] :=
  rfl

/-- The phrase of a negation is that of its child behind `not`, in parentheses. -/
theorem phrase_negation
    {target : Target} {member : String × Json} {parameters bound : Parameters}
    {child : Phrase}
    (compiled : target.phrase (.obj [member]) parameters = (.ok child, bound)) :
    target.phrase (.obj [("not", .obj [member])]) parameters =
      (.ok (Phrase.enclosed (.negation :: child)), bound) := by
  rw [phrase, Filter.phrase, Compilation.runFrom_bind_eq_ok_iff] at compiled
  obtain ⟨found, final, run, done⟩ := compiled
  cases done
  simp [phrase, Filter.phrase, ofJson_negation, Filter.phrase?, Filter.clausePhrases,
    Filter.clausePhrase?, run, Except.map, Phrase.sideBySide?, Phrase.joined,
    Phrase.negated]

/-- The text of a negation is that of its child behind `not`. It negates the child for
every truth assignment exactly when, for each, the child is one unit or the rest of its row
makes no difference; and the child is one unit exactly when its row has no more. -/
theorem negation_governs_child_iff
    {target : Target} {member : String × Json} {parameters bound : Parameters}
    {text : String}
    (compiled : compile target (.obj [member]) parameters = (.ok text, bound)) :
    ∃ (formula : Formula String) (child whole : Phrase),
      target.outline (.obj [member]) parameters = (.ok formula, bound) ∧
      target.phrase (.obj [member]) parameters = (.ok child, bound) ∧
      child.text = text ∧
      target.phrase (.obj [("not", .obj [member])]) parameters = (.ok whole, bound) ∧
      whole.text = "(not " ++ text ++ ")" ∧
      ((∀ truth, ∃ value, Reads truth .unit child value) ↔
        ∀ truth, (formula.row target.settings.emptyRule truth).length ≤ 1) ∧
      ((∀ truth, ∃ value, child.value? truth = some value ∧
          whole.value? truth = some value.not) ↔
        ∀ truth, Truth.NegatesWhole (formula.row target.settings.emptyRule truth)) := by
  obtain ⟨formula, outlined, same⟩ := outline_of_compile compiled
  have childRun := phrase_of_outline outlined
  refine ⟨formula, _, _, outlined, childRun, same, phrase_negation childRun, ?_, ?_, ?_⟩
  · have opened : "(" ++ "not " = "(not " := rfl
    simp only [Phrase.enclosed, List.cons_append, Phrase.text, Phrase.text_append,
      Symbol.text, same, String.append_empty]
    rw [← String.append_assoc, opened, String.append_assoc]
  · exact forall_congr' fun truth => Formula.reads_unit_phrase_iff formula
  · refine forall_congr' fun truth => ?_
    rw [Formula.value?_phrase, Formula.value?_enclosed_negation,
      ← Truth.negateFirst_eq_iff]
    simp

/-- A negated set with one operand that has two entries. -/
theorem negation_governs_child_iff_of_scores :
    compile memberTable (.obj [("and", .arr [scoreOfBot])]) Dict.empty =
        (.ok "(m.score > :score_1) and (m.bot = :isBot_1)",
          Dict.ofList [("score_1", .int 1), ("isBot_1", .bool true)]) ∧
      ∃ child whole : Phrase,
        child.text = "(m.score > :score_1) and (m.bot = :isBot_1)" ∧
        whole.text = "(not (m.score > :score_1) and (m.bot = :isBot_1))" ∧
        ¬ ∀ truth, ∃ value, child.value? truth = some value ∧
            whole.value? truth = some value.not := by
  refine ⟨rfl, ?_⟩
  obtain ⟨formula, child, whole, outlined, _, childText, _, wholeText, _, governs⟩ :=
    negation_governs_child_iff
      (show compile memberTable (.obj [("and", .arr [scoreOfBot])]) Dict.empty =
        (.ok "(m.score > :score_1) and (m.bot = :isBot_1)",
          Dict.ofList [("score_1", .int 1), ("isBot_1", .bool true)]) from rfl)
  refine ⟨child, whole, childText, wholeText, ?_⟩
  cases outlined
  intro negates
  have never := governs.1 negates fun _ => .false
  simp [Formula.row, Formula.rowOfConjuncts, Formula.rowOfConjunct, Formula.rows,
    Connective.unite, Truth.NegatesWhole] at never

/-- A negation does not always negate its child: here both are false. -/
theorem not_forall_negation_governs_child :
    ¬ ∀ (target : Target) (member : String × Json) (parameters bound : Parameters)
        (child whole : Phrase),
      target.phrase (.obj [member]) parameters = (.ok child, bound) →
      target.phrase (.obj [("not", .obj [member])]) parameters = (.ok whole, bound) →
      ∀ truth, whole.value? truth = (child.value? truth).map Truth.not := by
  intro governs
  have negated :=
    governs memberTable ("and", .arr [scoreOfBot]) Dict.empty _ _ _ rfl rfl
      fun _ => .false
  exact absurd negated (by decide)

end Target

end WhereClause
