import WhereClause.Proofs.Balance
import WhereClause.Proofs.Rendering
import WhereClause.Proofs.Roles
import WhereClause.Proofs.SingleTable.Meaning

/-!
# The outermost shape of a compiled text

Main statement: a text that is compiled for one table is one closed piece or several joined by
`and`, so that no `or` and no `not` stands outside of parentheses; and where no object of the
filter has several keys, it is one piece.
-/

namespace WhereClause

theorem Phrase.isBalanced_text_of_junction
    (connective : Connective) {left right : Phrase}
    (leftBalanced : Text.IsBalanced left.text.toList)
    (rightBalanced : Text.IsBalanced right.text.toList) :
    Text.IsBalanced (left ++ .junction connective :: right).text.toList := by
  have junction : Text.IsBalanced (Symbol.junction connective).text.toList := by
    cases connective <;> decide
  rw [text_append, text, String.toList_append, String.toList_append]
  exact leftBalanced.append (junction.append rightBalanced)

/-- A phrase of closed conditions is balanced, whatever is read of it. -/
theorem Reads.isBalanced_text
    {truth : String → Truth} {rank : Rank} {phrase : Phrase} {value : Truth}
    (reading : Reads truth rank phrase value)
    (closed : ∀ text ∈ phrase.atoms, Text.IsClosed text) :
    Text.IsBalanced phrase.text.toList := by
  induction reading with
  | atom text =>
      have textClosed := closed text (List.mem_singleton_self text)
      rw [Phrase.atom, Phrase.text, Phrase.text, String.append_empty]
      exact textClosed.isBalanced
  | tautology =>
      decide
  | enclosed _ inductionHypothesis =>
      rw [Phrase.atoms_enclosed] at closed
      rw [Phrase.text_enclosed, String.toList_append, String.toList_append]
      exact (inductionHypothesis closed).enclosed
  | unit _ inductionHypothesis | factor _ inductionHypothesis | product _ inductionHypothesis =>
      exact inductionHypothesis closed
  | negated _ inductionHypothesis =>
      have negation : Text.IsBalanced Symbol.negation.text.toList := by decide
      rw [Phrase.text, String.toList_append]
      exact negation.append (inductionHypothesis closed)
  | both _ _ leftBalanced rightBalanced | either _ _ leftBalanced rightBalanced =>
      rw [Phrase.atoms_append] at closed
      obtain ⟨leftClosed, rightClosed⟩ := List.forall_mem_append.1 closed
      exact Phrase.isBalanced_text_of_junction _ (leftBalanced leftClosed)
        (rightBalanced rightClosed)

/-- One that is read as a unit is closed. -/
theorem Reads.isClosed_text
    {truth : String → Truth} {phrase : Phrase} {value : Truth}
    (reading : Reads truth .unit phrase value)
    (closed : ∀ text ∈ phrase.atoms, Text.IsClosed text) : Text.IsClosed phrase.text := by
  cases reading with
  | atom text =>
      have textClosed := closed text (List.mem_singleton_self text)
      rwa [Phrase.atom, Phrase.text, Phrase.text, String.append_empty]
  | tautology =>
      exact ⟨"1=1", rfl, by decide⟩
  | @enclosed inner _ within =>
      rw [Phrase.atoms_enclosed] at closed
      exact ⟨inner.text, Phrase.text_enclosed inner, within.isBalanced_text closed⟩

namespace Formula

/-- The phrase of a formula is made of units with `and` between them: one where the row has no
more than one. -/
theorem exists_units_phrase
    (rule : EmptyRule) (truth : String → Truth) (formula : Formula String) :
    ∃ units, units ≠ [] ∧ formula.phrase rule = Phrase.joined .conjunction units ∧
      (∀ unit ∈ units, ∃ value, Reads truth .unit unit value) ∧
      ((formula.row rule truth).length ≤ 1 → units.length = 1) := by
  have spells : Phrase.Spells truth (formula.phrase? rule).toList (formula.row rule truth) :=
    spells_phrase? formula
  rw [phrase]
  cases found : formula.phrase? rule with
  | none =>
      refine ⟨[Phrase.tautology], List.cons_ne_nil _ _, rfl, ?_, fun _ => rfl⟩
      exact List.forall_mem_singleton.2 ⟨.true, .tautology⟩
  | some phrase =>
      rw [found] at spells
      obtain ⟨units, readings, nonempty, phraseIs⟩ := spells.exists_units
      refine ⟨units, nonempty, phraseIs, ?_, fun short => ?_⟩
      · have each :
            List.Forall₂
              (fun unit value => (∃ some, Reads truth .unit unit some) ∧
                Reads truth .unit unit value)
              units (formula.row rule truth) :=
          readings.imp fun _ value reading => ⟨⟨value, reading⟩, reading⟩
        exact ((List.forall₂_and_left _ _).1 each).1
      · rw [← readings.length_eq] at short
        have some : 0 < units.length := List.length_pos_iff.2 nonempty
        omega

variable {α : Type}

mutual

/-- A formula is narrow where none of its parts has several conjuncts. -/
theorem isNarrow_of_roles
    {formula : Formula α} (short : ∀ roles ∈ formula.roles, roles.length ≤ 1) :
    formula.isNarrow := by
  cases formula with
  | all conjuncts =>
      obtain ⟨own, within⟩ := List.forall_mem_cons.1 short
      rw [List.length_map] at own
      rw [isNarrow, Bool.and_eq_true, decide_eq_true_eq]
      exact ⟨own, areNarrowConjuncts_of_roles within⟩

theorem isNarrowConjunct_of_roles
    {conjunct : Conjunct α} (short : ∀ roles ∈ rolesOfConjunct conjunct, roles.length ≤ 1) :
    isNarrowConjunct conjunct := by
  cases conjunct with
  | set connective children =>
      exact areNarrow_of_roles short
  | negation child =>
      exact isNarrow_of_roles short
  | leaf label =>
      rfl

theorem areNarrowConjuncts_of_roles
    {conjuncts : List (Conjunct α)}
    (short : ∀ roles ∈ rolesOfConjuncts conjuncts, roles.length ≤ 1) :
    areNarrowConjuncts conjuncts := by
  cases conjuncts with
  | nil =>
      rfl
  | cons conjunct rest =>
      obtain ⟨head, tail⟩ := List.forall_mem_append.1 short
      rw [areNarrowConjuncts, Bool.and_eq_true]
      exact ⟨isNarrowConjunct_of_roles head, areNarrowConjuncts_of_roles tail⟩

theorem areNarrow_of_roles
    {formulas : List (Formula α)} (short : ∀ roles ∈ rolesOfAll formulas, roles.length ≤ 1) :
    areNarrow formulas := by
  cases formulas with
  | nil =>
      rfl
  | cons formula rest =>
      obtain ⟨head, tail⟩ := List.forall_mem_append.1 short
      rw [areNarrow, Bool.and_eq_true]
      exact ⟨isNarrow_of_roles head, areNarrow_of_roles tail⟩

end

end Formula

namespace Target

variable {target : Target} {json : Json} {parameters bound : Parameters} {text : String}

theorem isClosed_of_conditionText
    {key : String} (balanced : target.scope.IsBalanced)
    (lacks : Text.lacksParentheses key.toList = true)
    (run : (target.conditionText key json).runFrom parameters = (.ok text, bound)) :
    Text.IsClosed text := by
  rw [conditionText] at run
  cases found : target.scope.field? key with
  | none =>
      simp [found] at run
  | some field =>
      rw [found] at run
      exact Field.isClosed_of_condition (Field.isBalanced_of_field? balanced lacks found) run

/-- The conditions of a formula are closed. -/
theorem forall_isClosed_of_outline
    {formula : Formula String} (balanced : target.scope.IsBalanced)
    (lack : ∀ leaf ∈ (Filter.ofJson json).leaves, Text.lacksParentheses leaf.1.toList = true)
    (outlined : target.outline json parameters = (.ok formula, bound)) :
    ∀ text ∈ formula.leaves, Text.IsClosed text := by
  have related :
      List.Forall₂
        (fun leaf text => Text.lacksParentheses leaf.1.toList = true → Text.IsClosed text)
        (Filter.ofJson json).leaves formula.leaves :=
    Filter.forall₂_of_labelAll
      (fun _ _ _ _ run lacks => isClosed_of_conditionText balanced lacks run)
      (Filter.labelAll_leaves_of_outline outlined)
  have both := (List.forall₂_and_left _ _).2 ⟨lack, related⟩
  have closed :
      List.Forall₂ (fun text _ => Text.IsClosed text ∧ True) formula.leaves
        (Filter.ofJson json).leaves :=
    List.Forall₂.flip (both.imp fun _ _ given => ⟨given.2 given.1, trivial⟩)
  exact ((List.forall₂_and_left _ _).1 closed).1

/-- What is compiled for a table whose columns have balanced parentheses, of a filter whose keys
have none, is made of closed pieces with `and` between them. So no `or` and no `not` stands outside
of parentheses. Where no object in the place of a filter has several keys, there is one piece. -/
theorem compile_joins_closed_pieces
    (balanced : target.scope.IsBalanced)
    (lack : ∀ leaf ∈ (Filter.ofJson json).leaves, Text.lacksParentheses leaf.1.toList = true)
    (compiled : compile target json parameters = (.ok text, bound)) :
    (∃ pieces : List String, pieces ≠ [] ∧ text = " and ".intercalate pieces ∧
      (∀ piece ∈ pieces, Text.IsClosed piece) ∧
      ((∀ roles ∈ json.roles, roles.length ≤ 1) → pieces.length = 1)) ∧
    ¬ Text.StandsOutside " or " text ∧ ¬ Text.StandsOutside "not" text := by
  obtain ⟨formula, outlined, rfl⟩ := outline_of_compile compiled
  have leavesClosed := forall_isClosed_of_outline balanced lack outlined
  obtain ⟨units, nonempty, phraseIs, areUnits, single⟩ :=
    formula.exists_units_phrase target.settings.emptyRule fun _ => .true
  have textIs :
      (formula.phrase target.settings.emptyRule).text =
        " and ".intercalate (units.map Phrase.text) := by
    rw [phraseIs, Phrase.text_joined]
    rfl
  have piecesClosed : ∀ piece ∈ units.map Phrase.text, Text.IsClosed piece := by
    refine List.forall_mem_map.2 fun unit member => ?_
    obtain ⟨value, reading⟩ := areUnits unit member
    refine reading.isClosed_text fun text within => leavesClosed text ?_
    -- the conditions of a unit are some of those of the formula
    rw [← Formula.atoms_phrase target.settings.emptyRule formula, phraseIs, Phrase.atoms_joined]
    exact List.mem_flatMap_of_mem member within
  refine ⟨⟨units.map Phrase.text, ?_, textIs, piecesClosed, fun short => ?_⟩, ?_, ?_⟩
  · exact fun none => nonempty (List.map_eq_nil_iff.1 none)
  · have narrow : formula.isNarrow := by
      refine Formula.isNarrow_of_roles ?_
      rwa [Filter.roles_of_outline outlined]
    rw [List.length_map]
    refine single ?_
    rw [Formula.row_eq_of_isNarrow narrow]
    exact Option.length_toList_le
  · rw [textIs]
    exact Text.not_standsOutside_intercalate rfl (by decide) piecesClosed
  · rw [textIs]
    exact Text.not_standsOutside_intercalate rfl (by decide) piecesClosed

/-- A table whose columns have parentheses of their own. -/
def bracketedTable : Target :=
  ⟨⟨Dict.ofList [("isBot", "coalesce((m.a)::boolean, false)")],
    [⟨"meta", "(m.meta)", [⟨"level", .number⟩]⟩]⟩, ⟨.skip⟩⟩

/-- A set with one operand that contributes, which has two conditions, beside a negation. -/
def rowInSet : Json :=
  .obj [("or", .arr
      [.obj [], .obj [("isBot", .obj [("eq", .bool true)]),
        ("meta.level", .obj [("in", .arr [.int 1, .int 2])])]]),
    ("not", .obj [("isBot", .obj [("eq", .bool false)])])]

/-- A set around a set and a negation, where no object has two keys. -/
def setsInSet : Json :=
  .obj [("or", .arr
    [.obj [("and", .arr [.obj [("isBot", .obj [("eq", .bool true)])]])],
      .obj [("not", .obj [("meta.level", .obj [("gt", .int 1)])])]])]

/-- The two conditions stand beside the negation, each one closed; the set is one piece. -/
theorem compile_joins_closed_pieces_of_bracketedTable :
    bracketedTable.scope.IsBalanced ∧
    (∃ text bound, compile bracketedTable rowInSet Dict.empty = (.ok text, bound) ∧
      text =
        "(coalesce((m.a)::boolean, false) = :isBot_1)" ++
          " and (((m.meta) -> 'level')::integer in (:meta_level_1, :meta_level_2))" ++
          " and (not (coalesce((m.a)::boolean, false) = :isBot_2))" ∧
      (∃ pieces : List String, text = " and ".intercalate pieces ∧
        ∀ piece ∈ pieces, Text.IsClosed piece) ∧
      ¬ Text.StandsOutside " or " text ∧ ¬ Text.StandsOutside "not" text) ∧
    ∃ text bound, compile bracketedTable setsInSet Dict.empty = (.ok text, bound) ∧
      text =
        "((coalesce((m.a)::boolean, false) = :isBot_1)" ++
          " or (not (((m.meta) -> 'level')::integer > :meta_level_1)))" ∧
      (∀ roles ∈ setsInSet.roles, roles.length ≤ 1) ∧ Text.IsClosed text := by
  have balanced : bracketedTable.scope.IsBalanced := ⟨by decide +kernel, by decide +kernel⟩
  have foundRow :
      (compile bracketedTable rowInSet Dict.empty).1.toOption =
        some ("(coalesce((m.a)::boolean, false) = :isBot_1)" ++
          " and (((m.meta) -> 'level')::integer in (:meta_level_1, :meta_level_2))" ++
          " and (not (coalesce((m.a)::boolean, false) = :isBot_2))") := by
    decide +kernel
  have foundSets :
      (compile bracketedTable setsInSet Dict.empty).1.toOption =
        some ("((coalesce((m.a)::boolean, false) = :isBot_1)" ++
          " or (not (((m.meta) -> 'level')::integer > :meta_level_1)))") := by
    decide +kernel
  refine ⟨balanced, ?_, ?_⟩
  · rcases run : compile bracketedTable rowInSet Dict.empty with ⟨cause | text, bound⟩
    · rw [run] at foundRow
      cases foundRow
    · rw [run] at foundRow
      obtain ⟨⟨pieces, -, textIs, closed, -⟩, noOr, noNot⟩ :=
        compile_joins_closed_pieces balanced (by decide +kernel) run
      exact ⟨text, bound, rfl, Option.some.inj foundRow, ⟨pieces, textIs, closed⟩, noOr, noNot⟩
  · rcases run : compile bracketedTable setsInSet Dict.empty with ⟨cause | text, bound⟩
    · rw [run] at foundSets
      cases foundSets
    · rw [run] at foundSets
      have short : ∀ roles ∈ setsInSet.roles, roles.length ≤ 1 := by
        decide +kernel
      obtain ⟨⟨pieces, -, textIs, closed, single⟩, -⟩ :=
        compile_joins_closed_pieces balanced (by decide +kernel) run
      obtain ⟨piece, rfl⟩ := List.length_eq_one_iff.1 (single short)
      rw [String.intercalate_singleton] at textIs
      refine ⟨text, bound, rfl, Option.some.inj foundSets, short, ?_⟩
      rw [textIs]
      exact closed piece (List.mem_singleton_self piece)

end Target

end WhereClause
