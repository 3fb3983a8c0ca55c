import WhereClause.Proofs.Condition

/-!
# Conditions without their values

Compilations are alike if runs from parameters of the same names cannot be told apart but by the
values that they bind. Main statement: compiling a condition is alike to compiling it with its
operand blanked.
-/

namespace WhereClause

namespace Parameters

variable {left right : Parameters}

/-- The names that are bound, in order. -/
def names (parameters : Parameters) : List String :=
  Entries.names parameters.entries

theorem fresh_congr (sameNames : left.names = right.names) (stem : String) :
    left.fresh stem = right.fresh stem := by
  have sameCandidates : left.candidates stem = right.candidates stem := by
    rw [names, names] at sameNames
    rw [candidates, candidates, sameNames]
  rw [fresh, fresh, freeNumber, freeNumber, sameCandidates]

theorem names_bind (parameters : Parameters) (stem : String) (value : Json) :
    (parameters.bind stem value).2.names =
      parameters.names ++ [(parameters.bind stem value).1] := by
  rw [names, entries_bind, Entries.names, List.map_append]
  rfl

/-- Which names are bound depends on how many values there are, and not on the values. -/
theorem bindAll_congr
    (stem : String) {values others : List Json} (sameNames : left.names = right.names)
    (sameLength : values.length = others.length) :
    (bindAll stem values left).1 = (bindAll stem others right).1 ∧
      (bindAll stem values left).2.names = (bindAll stem others right).2.names := by
  induction values generalizing others left right with
  | nil =>
      have none : others = [] := List.eq_nil_of_length_eq_zero sameLength.symm
      subst none
      exact ⟨rfl, sameNames⟩
  | cons value rest inductionHypothesis =>
      obtain ⟨other, later, rfl⟩ := List.exists_cons_of_length_eq_add_one sameLength.symm
      have sameName : (left.bind stem value).1 = (right.bind stem other).1 :=
        fresh_congr sameNames stem
      have bound : (left.bind stem value).2.names = (right.bind stem other).2.names := by
        rw [names_bind, names_bind, sameNames, sameName]
      have shorter : rest.length = later.length := Nat.succ.inj sameLength
      obtain ⟨restNames, restBound⟩ := inductionHypothesis bound shorter
      refine ⟨?_, restBound⟩
      show
        (left.bind stem value).1 :: (bindAll stem rest (left.bind stem value).2).1 =
          (right.bind stem other).1 :: (bindAll stem later (right.bind stem other).2).1
      rw [sameName, restNames]

end Parameters

/-- Whether runs from parameters of the same names give the same result, if any, and end in
parameters of the same names. -/
def Compilation.Alike {α : Type} (left right : Compilation α) : Prop :=
  ∀ first second : Parameters, first.names = second.names →
    (left.runFrom first).1.toOption = (right.runFrom second).1.toOption ∧
      (left.runFrom first).2.names = (right.runFrom second).2.names

namespace Compilation.Alike

variable {α β : Type} {left right third : Compilation α}

theorem exists_ok
    (alike : Alike left right) {first second bound : Parameters} {value : α}
    (sameNames : first.names = second.names)
    (run : left.runFrom first = (.ok value, bound)) :
    ∃ other, right.runFrom second = (.ok value, other) ∧ other.names = bound.names := by
  obtain ⟨results, names⟩ := alike first second sameNames
  rw [run] at results names
  rcases rightRun : right.runFrom second with ⟨cause | found, other⟩
  · rw [rightRun] at results
    cases results
  · rw [rightRun] at results names
    cases results
    exact ⟨other, rfl, names.symm⟩

theorem symm (alike : Alike left right) : Alike right left := by
  intro first second sameNames
  obtain ⟨results, bound⟩ := alike second first sameNames.symm
  exact ⟨results.symm, bound.symm⟩

theorem trans (before : Alike left right) (after : Alike right third) : Alike left third := by
  intro first second sameNames
  obtain ⟨results, bound⟩ := before first second sameNames
  obtain ⟨others, later⟩ := after second second rfl
  exact ⟨results.trans others, bound.trans later⟩

theorem pure (value : α) : Alike (Pure.pure value) (Pure.pure value) :=
  fun _ _ sameNames => ⟨rfl, sameNames⟩

theorem throw (cause other : Rejection) :
    Alike (MonadExcept.throw cause : Compilation α) (MonadExcept.throw other) :=
  fun _ _ sameNames => ⟨rfl, sameNames⟩

theorem bind
    {next other : α → Compilation β} (alike : Alike left right)
    (nextAlike : ∀ value, Alike (next value) (other value)) :
    Alike (left >>= next) (right >>= other) := by
  intro first second sameNames
  obtain ⟨results, bound⟩ := alike first second sameNames
  rw [runFrom_bind, runFrom_bind]
  generalize left.runFrom first = leftRun at results bound
  generalize right.runFrom second = rightRun at results bound
  obtain ⟨leftCause | value, leftBound⟩ := leftRun
  · obtain ⟨rightCause | other, rightBound⟩ := rightRun
    · exact ⟨rfl, bound⟩
    · cases results
  · obtain ⟨rightCause | other, rightBound⟩ := rightRun
    · cases results
    · cases results
      exact nextAlike value leftBound rightBound bound

theorem require {check other : Except Rejection α} (same : check.toOption = other.toOption) :
    Alike (require check) (require other) := by
  cases check with
  | error cause =>
      cases other with
      | error _ =>
          exact throw _ _
      | ok _ =>
          cases same
  | ok value =>
      cases other with
      | error _ =>
          cases same
      | ok _ =>
          cases same
          exact pure value

theorem bindAll (stem : String) {values others : List Json}
    (sameLength : values.length = others.length) :
    Alike (bindAll stem values) (bindAll stem others) := by
  intro first second sameNames
  rw [runFrom_bindAll, runFrom_bindAll]
  obtain ⟨names, bound⟩ := Parameters.bindAll_congr stem sameNames sameLength
  exact ⟨congrArg some names, bound⟩

end Compilation.Alike

/-! ## Blank operands -/

namespace Condition

/-- An operand of which only what shows is kept: the number of elements of a list, whether a
range has two bounds, and whether a plain column is compared with the absent value. -/
def blankOperand (document : Bool) (symbol : String) (operand : Json) : Json :=
  if symbol ∈ ["in", "notIn", "contains", "overlap"] then
    match operand with
    | .arr items => .arr (items.map fun _ => .null)
    | other => other
  else if symbol ∈ ["between", "notBetween"] then
    match operand with
    | .arr (_ :: _ :: _) => .arr [.null, .null]
    | other => other
  else if symbol ∈ ["eq", "ne"] ∧ document = false then
    if isNullLike operand then .null else .bool true
  else .null

/-- A condition with its operand blanked; an array in its place is a list. -/
def blank (document : Bool) : Json → Json
  | .obj [(symbol, operand)] => .obj [(symbol, blankOperand document symbol operand)]
  | .arr items => if document then .arr (items.map fun _ => .null) else .arr items
  | other => other

def blanked (document : Bool) (condition : Condition) : Condition :=
  ⟨condition.comparator,
    blankOperand document condition.comparator.symbol condition.operand⟩

theorem ofJson_blank (document : Bool) (json : Json) :
    ofJson document (blank document json) = (ofJson document json).map (blanked document) := by
  unfold blank
  split
  · rename_i symbol operand
    rw [ofJson, ofJson]
    cases named : Comparator.ofSymbol? symbol with
    | none =>
        rfl
    | some comparator =>
        rw [← Comparator.ofSymbol?_eq_some_iff.1 named]
        rfl
  · rename_i items
    cases document with
    | false =>
        rfl
    | true =>
        rfl
  · rename_i notSingle notArray
    unfold ofJson
    split
    · exact absurd rfl (notSingle _ _)
    · exact absurd rfl (notArray _)
    · rfl

/-- A blank operand of an equality is absent where the operand is. -/
theorem isNullLike_blankOperand
    (symbol : String) (equality : symbol = "eq" ∨ symbol = "ne") (operand : Json) :
    isNullLike (blankOperand false symbol operand) = isNullLike operand := by
  have blankIs :
      blankOperand false symbol operand =
        if isNullLike operand then .null else .bool true := by
    rcases equality with rfl | rfl
    · rfl
    · rfl
  rw [blankIs]
  by_cases absent : isNullLike operand = true
  · rw [if_pos absent, absent]
    rfl
  · rw [if_neg absent, Bool.eq_false_iff.2 absent]
    rfl

theorem testsNull_blanked (document : Bool) (condition : Condition) :
    (condition.blanked document).testsNull document = condition.testsNull document := by
  obtain ⟨comparator, operand⟩ := condition
  cases document with
  | true =>
      rfl
  | false =>
      cases comparator with
      | equal =>
          exact isNullLike_blankOperand "eq" (Or.inl rfl) operand
      | notEqual =>
          exact isNullLike_blankOperand "ne" (Or.inr rfl) operand
      | _ =>
          rfl

theorem text_blanked (document : Bool) (column : String) (condition : Condition)
    (names : List String) :
    (condition.blanked document).text document column names =
      condition.text document column names := by
  rw [text, text, verb, verb, testsNull_blanked]
  rfl

/-- A blank operand gives as many values, and is rejected where the operand is. -/
theorem length_values_blanked (document : Bool) (condition : Condition) :
    ((condition.blanked document).values document).toOption.map List.length =
      (condition.values document).toOption.map List.length := by
  obtain ⟨comparator, operand⟩ := condition
  cases comparator with
  | memberOf | notMemberOf | overlaps | contains =>
      cases operand with
      | arr items =>
          simp [values, blanked, blankOperand, Comparator.symbol, Comparator.arrangement,
            Except.toOption]
      | _ =>
          rfl
  | between | notBetween =>
      cases operand with
      | arr items =>
          rcases items with _ | ⟨lower, _ | ⟨upper, rest⟩⟩
          · rfl
          · rfl
          · rfl
      | _ =>
          rfl
  | _ =>
      rfl

end Condition

namespace Field

/-- Compiles a condition that has been read. -/
def conditionRead (field : Field) (condition : Condition) : Compilation String := do
  let column ← Compilation.require field.sql
  let values ← Compilation.require (condition.values field.isDocument)
  let names ← Compilation.bindAll field.stem values
  return condition.text field.isDocument column names

theorem alike_conditionRead_blanked (field : Field) (condition : Condition) :
    Compilation.Alike (field.conditionRead (condition.blanked field.isDocument))
      (field.conditionRead condition) := by
  refine .bind (.require rfl) fun column => ?_
  -- the text depends on the names only, of which there are as many as values
  have lengths := condition.length_values_blanked field.isDocument
  simp only [Condition.text_blanked]
  cases ofBlanked : (condition.blanked field.isDocument).values field.isDocument with
  | error cause =>
      cases ofCondition : condition.values field.isDocument with
      | error other =>
          exact .throw cause other
      | ok values =>
          simp [ofBlanked, ofCondition, Except.toOption] at lengths
  | ok values =>
      cases ofCondition : condition.values field.isDocument with
      | error cause =>
          simp [ofBlanked, ofCondition, Except.toOption] at lengths
      | ok others =>
          have sameLength : values.length = others.length := by
            simpa [ofBlanked, ofCondition, Except.toOption] using lengths
          have namesAlike :
              Compilation.Alike (Compilation.bindAll field.stem values)
                (Compilation.bindAll field.stem others) :=
            .bindAll field.stem sameLength
          exact namesAlike.bind fun names => .pure _

theorem condition_eq_bind (field : Field) (json : Json) :
    field.condition json =
      Compilation.require (Condition.ofJson field.isDocument json) >>= field.conditionRead :=
  rfl

/-- Compiling a condition is alike to compiling it with a blank operand. -/
theorem alike_condition_blank (field : Field) (json : Json) :
    Compilation.Alike (field.condition (Condition.blank field.isDocument json))
      (field.condition json) := by
  rw [condition_eq_bind, condition_eq_bind, Condition.ofJson_blank]
  cases Condition.ofJson field.isDocument json with
  | error cause =>
      exact .throw cause cause
  | ok condition =>
      exact field.alike_conditionRead_blanked condition

end Field

end WhereClause
