import WhereClause.Proofs.Condition
import WhereClause.Proofs.Ownership
import WhereClause.Proofs.Parentheses
import WhereClause.Proofs.Path

/-!
# Conditions with balanced parentheses

Main statement: where the key has no parentheses and those of the column are balanced, the text of
a condition is closed, whatever the condition asks.
-/

namespace WhereClause

theorem Text.mem_joinSegments
    {separator character : Char} {first segment : List Char} {others : List (List Char)}
    (member : segment ∈ first :: others) (within : character ∈ segment) :
    character ∈ joinSegments separator first others := by
  induction others generalizing first with
  | nil =>
      rw [List.mem_singleton.1 member] at within
      exact within
  | cons next rest inductionHypothesis =>
      rw [joinSegments, List.mem_append]
      rcases List.mem_cons.1 member with rfl | later
      · exact Or.inl within
      · exact Or.inr (List.mem_cons_of_mem separator (inductionHypothesis later))

theorem Text.mem_of_mem_segments (separator : Char) (characters : List Char) :
    ∀ segment ∈ (segments separator characters).1 :: (segments separator characters).2,
      ∀ character ∈ segment, character ∈ characters := by
  intro segment member character within
  have joined := joinSegments_segments separator characters
  exact joined ▸ mem_joinSegments member within

/-- The segments of a key without parentheses have none. -/
theorem Key.lacksParentheses_segments
    {key : String} (lacks : Text.lacksParentheses key.toList = true) :
    ∀ segment ∈ (segments key).1 :: (segments key).2,
      Text.lacksParentheses segment.toList = true := by
  have within := Text.mem_of_mem_segments '.' key.toList
  have lacksWithin (segment : List Char) (member : segment ∈
      (Text.segments '.' key.toList).1 :: (Text.segments '.' key.toList).2) :
      Text.lacksParentheses (String.ofList segment).toList = true := by
    rw [String.toList_ofList]
    refine List.all_eq_true.2 fun character inSegment => ?_
    exact List.all_eq_true.1 lacks character (within segment member character inSegment)
  obtain ⟨firstLacks, othersLack⟩ := List.forall_mem_cons.1 lacksWithin
  exact List.forall_mem_cons.2 ⟨firstLacks, List.forall_mem_map.2 othersLack⟩

theorem Entries.mem_of_get?_eq_some
    {α : Type} {name : String} {value : α} {entries : List (String × α)}
    (found : get? name entries = some value) : (name, value) ∈ entries := by
  induction entries with
  | nil =>
      cases found
  | cons entry rest inductionHypothesis =>
      obtain ⟨other, held⟩ := entry
      rw [get?] at found
      split_ifs at found with same
      · cases found
        rw [same]
        exact List.mem_cons_self
      · exact List.mem_cons_of_mem _ (inductionHypothesis found)

/-- Whether parentheses are balanced in the expressions of all columns of a table. -/
structure Scope.IsBalanced (scope : Scope) : Prop where
  columns : ∀ entry ∈ scope.columns.entries, Text.IsBalanced entry.2.toList
  documents : ∀ document ∈ scope.documents, Text.IsBalanced document.column.toList

namespace Field

/-- Whether the names of a field lack parentheses, and those of its column are balanced. -/
def IsBalanced : Field → Prop
  | .column key expression =>
      Text.lacksParentheses key.toList = true ∧ Text.IsBalanced expression.toList
  | .path document nested =>
      (∀ segment ∈ document.property :: nested, Text.lacksParentheses segment.toList = true) ∧
        Text.IsBalanced document.column.toList

theorem isBalanced_of_field?
    {scope : Scope} {key : String} {field : Field} (balanced : scope.IsBalanced)
    (lacks : Text.lacksParentheses key.toList = true) (found : scope.field? key = some field) :
    field.IsBalanced := by
  cases field with
  | column own expression =>
      have pathless : scope.path? key = none := by
        refine Scope.path?_eq_none_iff.2 fun other same => ?_
        rw [found] at same
        cases same
        rfl
      rw [Scope.field?_eq_column? pathless] at found
      obtain ⟨_, held, same⟩ := Option.map_eq_some_iff.1 found
      cases same
      exact ⟨lacks, balanced.columns (key, expression) (Entries.mem_of_get?_eq_some held)⟩
  | path document nested =>
      obtain ⟨member, segmentsAre⟩ := Scope.segments_of_field? found
      have segmentsLack := Key.lacksParentheses_segments lacks
      rw [segmentsAre] at segmentsLack
      exact ⟨segmentsLack, balanced.documents document member⟩

variable {field : Field}

theorem isBalanced_stem (balanced : field.IsBalanced) : Text.IsBalanced field.stem.toList := by
  cases field with
  | column key expression =>
      exact .of_lacksParentheses balanced.1
  | path document nested =>
      obtain ⟨propertyLacks, nestedLack⟩ := List.forall_mem_cons.1 balanced.1
      have propertyBalanced := Text.IsBalanced.of_lacksParentheses propertyLacks
      rw [stem, pathStem]
      split
      · exact propertyBalanced
      · rw [String.toList_append, String.toList_append]
        refine (propertyBalanced.append (by decide)).append (.intercalate (by decide) ?_)
        exact fun segment member => .of_lacksParentheses (nestedLack segment member)

theorem isBalanced_steps
    (textual : Bool) {segments : List String}
    (balanced : ∀ segment ∈ segments, Text.IsBalanced segment.toList) :
    Text.IsBalanced (steps textual segments).toList := by
  induction segments with
  | nil =>
      exact .nil
  | cons segment rest inductionHypothesis =>
      obtain ⟨segmentBalanced, restBalanced⟩ := List.forall_mem_cons.1 balanced
      cases rest with
      | nil =>
          simp only [steps, String.toList_append]
          refine (Text.IsBalanced.append ?_ segmentBalanced).append (by decide)
          cases textual <;> decide
      | cons next others =>
          simp only [steps, String.toList_append]
          have step : Text.IsBalanced (" -> '" : String).toList := by decide
          exact ((step.append segmentBalanced).append (by decide)).append
            (inductionHypothesis restBalanced)

/-- The parentheses around a path are the only ones that compilation adds to a column. -/
theorem isBalanced_sql
    {column : String} (balanced : field.IsBalanced) (found : field.sql = .ok column) :
    Text.IsBalanced column.toList := by
  cases field with
  | column key expression =>
      cases found
      exact balanced.2
  | path document nested =>
      obtain ⟨namesLack, columnBalanced⟩ := balanced
      cases nested with
      | nil =>
          cases found
          exact columnBalanced
      | cons first rest =>
          rw [sql, pathSql] at found
          cases isDeclared : document.attribute? first with
          | none =>
              simp [isDeclared] at found
          | some declared =>
              simp only [isDeclared, Except.ok.injEq] at found
              subst found
              have stepsBalanced :
                  Text.IsBalanced (steps declared.kind.isTextual (first :: rest)).toList :=
                isBalanced_steps _ fun segment member =>
                  .of_lacksParentheses (namesLack segment (List.mem_cons_of_mem _ member))
              have castBalanced : Text.IsBalanced (declared.kind.cast?.getD "").toList := by
                cases declared.kind <;> decide
              have pathBalanced := (columnBalanced.append stepsBalanced).enclosed
              simp only [String.toList_append]
              rw [List.append_assoc _ document.column.toList]
              exact pathBalanced.append castBalanced

end Field

theorem Parameters.isBalanced_of_mem_bindAll
    {stem name : String} {values : List Json} {parameters : Parameters}
    (balanced : Text.IsBalanced stem.toList)
    (member : name ∈ (bindAll stem values parameters).1) : Text.IsBalanced name.toList := by
  obtain ⟨number, rfl⟩ := exists_numbered_of_mem_bindAll member
  have digitsLack : Text.lacksParentheses ('_' :: Nat.toDigits 10 number) = true := by
    refine List.all_eq_true.2 (List.forall_mem_cons.2 ⟨by decide, fun digit within => ?_⟩)
    have isDigit : digit.isDigit :=
      Nat.isDigit_of_mem_toDigits (by decide) (Nat.le_refl 10) within
    rw [Bool.and_eq_true, decide_eq_true_eq, decide_eq_true_eq]
    constructor
    · rintro rfl
      exact absurd isDigit (by decide)
    · rintro rfl
      exact absurd isDigit (by decide)
  rw [toList_numbered]
  exact balanced.append (.of_lacksParentheses digitsLack)

theorem Arrangement.isBalanced_layOut
    (arrangement : Arrangement) {placeholders : List String}
    (balanced : ∀ placeholder ∈ placeholders, Text.IsBalanced placeholder.toList) :
    Text.IsBalanced (arrangement.layOut placeholders).toList := by
  have conjoined : Text.IsBalanced (" and ".intercalate placeholders).toList :=
    .intercalate (by decide) balanced
  have listed : Text.IsBalanced (", ".intercalate placeholders).toList :=
    .intercalate (by decide) balanced
  have bracket : Text.IsBalanced ("array[" : String).toList := by decide
  cases arrangement with
  | single | bounds =>
      exact conjoined
  | list =>
      rw [layOut, String.toList_append, String.toList_append]
      exact listed.enclosed
  | array =>
      rw [layOut, String.toList_append, String.toList_append]
      exact (bracket.append listed).append (by decide)

theorem Condition.isBalanced_verb (document : Bool) (condition : Condition) :
    Text.IsBalanced (condition.verb document).toList := by
  rw [verb]
  split_ifs
  · decide
  · decide
  · cases condition.comparator <;> cases document <;> decide

/-- The text of a condition is closed. -/
theorem Condition.isClosed_text
    {column : String} {names : List String} (document : Bool) (condition : Condition)
    (columnBalanced : Text.IsBalanced column.toList)
    (namesBalanced : ∀ name ∈ names, Text.IsBalanced name.toList) :
    Text.IsClosed (condition.text document column names) := by
  have space : Text.IsBalanced (" " : String).toList := by decide
  have colon : Text.IsBalanced (":" : String).toList := by decide
  have placeholders :
      ∀ placeholder ∈ names.map fun name => ":" ++ name,
        Text.IsBalanced placeholder.toList := by
    refine List.forall_mem_map.2 fun name member => ?_
    rw [String.toList_append]
    exact colon.append (namesBalanced name member)
  refine ⟨column ++ " " ++ condition.verb document ++ " " ++
    condition.comparator.arrangement.layOut (names.map fun name => ":" ++ name), ?_, ?_⟩
  · simp only [text, String.append_assoc]
  · simp only [String.toList_append]
    exact (((columnBalanced.append space).append (condition.isBalanced_verb document)).append
      space).append (condition.comparator.arrangement.isBalanced_layOut placeholders)

/-- A compiled condition is closed. -/
theorem Field.isClosed_of_condition
    {field : Field} {json : Json} {parameters final : Parameters} {text : String}
    (balanced : field.IsBalanced)
    (run : (field.condition json).runFrom parameters = (.ok text, final)) :
    Text.IsClosed text := by
  obtain ⟨condition, column, values, -, columnIs, -, rfl, -⟩ := exists_of_condition run
  refine condition.isClosed_text _ (isBalanced_sql balanced columnIs) ?_
  exact fun name member => Parameters.isBalanced_of_mem_bindAll (isBalanced_stem balanced) member

end WhereClause
