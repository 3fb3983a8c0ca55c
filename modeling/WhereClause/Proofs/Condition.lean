import WhereClause.Condition
import WhereClause.Proofs.Compilation
import WhereClause.Proofs.Parameters
import WhereClause.Proofs.Placeholders

/-!
# What a compiled condition binds

Main statements: the values that a condition binds are read off it, and the placeholders of its
text are the names of these values, in order.
-/

namespace WhereClause

namespace Condition

/-- The elements of an array. -/
def elements : Json → List Json
  | .arr items => items
  | _ => []

/-- Whether an operand is `null`, or that word in small letters or capitals. -/
def isNull : Json → Bool
  | .null => true
  | .str word => word.toList.map Char.toLower = ['n', 'u', 'l', 'l']
  | _ => false

/-- A string stands for itself in a pattern, anything else for its JSON without blanks. -/
def textOf : Json → String
  | .str text => text
  | other => other.compact

/-- The values of an operand: the bounds of a range, the elements of a list, a pattern with a
wildcard at both ends, the operand itself otherwise. -/
def operandValues (document : Bool) (symbol : String) (operand : Json) : List Json :=
  if symbol ∈ ["between", "notBetween"] then (elements operand).take 2
  else if symbol ∈ ["in", "notIn", "contains", "overlap"] then elements operand
  else if symbol ∈ ["eq", "ne"] ∧ document = false ∧ isNull operand then [.null]
  else if symbol ∈ ["like", "notLike", "textContains", "notTextContains"] then
    [.str ("%" ++ textOf operand ++ "%")]
  else [operand]

/-- The values of a condition; an array stands for its elements. -/
def jsonValues (document : Bool) : Json → List Json
  | .obj [(symbol, operand)] => operandValues document symbol operand
  | .arr items => items
  | _ => []

theorem isNullLike_eq_isNull (operand : Json) : isNullLike operand = isNull operand := by
  cases operand <;> rfl

theorem patternText_eq_textOf (operand : Json) : patternText operand = textOf operand := by
  cases operand <;> rfl

theorem operandValues_symbol
    {document : Bool} {condition : Condition} {values : List Json}
    (found : condition.values document = .ok values) :
    operandValues document condition.comparator.symbol condition.operand = values := by
  obtain ⟨comparator, operand⟩ := condition
  cases comparator with
  | between | notBetween | memberOf | notMemberOf | overlaps | contains =>
      simp only [Condition.values, Comparator.arrangement] at found
      split at found
      · cases found
        rfl
      · cases found
  | equal | notEqual =>
      cases found
      by_cases absent : document = false ∧ isNull operand
      · simp [operandValues, Comparator.symbol, singleValue, testsNull, isNullLike_eq_isNull,
          absent]
      · have present : (!document && isNull operand) = false := by
          simpa using absent
        simp [operandValues, Comparator.symbol, singleValue, testsNull, isNullLike_eq_isNull,
          Comparator.isPattern, absent, present]
  | like | notLike | includesText | excludesText =>
      cases found
      simp [operandValues, Comparator.symbol, singleValue, testsNull, Comparator.isPattern,
        patternText_eq_textOf]
  | _ =>
      cases found
      simp [operandValues, Comparator.symbol, singleValue, testsNull, Comparator.isPattern]

/-- The values that a condition binds are those read off it. -/
theorem jsonValues_eq
    {document : Bool} {json : Json} {condition : Condition} {values : List Json}
    (read : ofJson document json = .ok condition)
    (found : condition.values document = .ok values) :
    jsonValues document json = values := by
  unfold ofJson at read
  split at read
  · rename_i symbol operand
    cases named : Comparator.ofSymbol? symbol with
    | none =>
        simp [named] at read
    | some comparator =>
        simp only [named, Except.ok.injEq] at read
        subst read
        rw [← Comparator.ofSymbol?_eq_some_iff.1 named]
        exact operandValues_symbol found
  · split at read
    · cases read
      cases found
      rfl
    · cases read
  · cases read

end Condition

namespace Field

/-- Whether the names of a field are words, and colons come in pairs in its column. -/
def isPlain : Field → Bool
  | .column key expression => Text.isWord key && Text.colonsPaired expression.toList
  | .path document nested =>
      Text.isWord document.property && nested.all Text.isWord &&
        Text.colonsPaired document.column.toList

theorem isWord_stem {field : Field} (plain : field.isPlain) : Text.isWord field.stem := by
  cases field with
  | column key expression =>
      rw [isPlain, Bool.and_eq_true] at plain
      exact plain.1
  | path document nested =>
      simp only [isPlain, Bool.and_eq_true] at plain
      obtain ⟨⟨propertyWord, nestedWords⟩, -⟩ := plain
      rw [stem, pathStem]
      split
      · exact propertyWord
      · exact Text.isWord_append (Text.isWord_append propertyWord rfl)
          (Text.isWord_intercalate (List.all_eq_true.1 nestedWords))

theorem colonsPaired_steps
    (textual : Bool) {segments : List String}
    (words : ∀ segment ∈ segments, Text.isWord segment) :
    Text.colonsPaired (steps textual segments).toList := by
  induction segments with
  | nil =>
      rfl
  | cons segment rest inductionHypothesis =>
      obtain ⟨segmentWord, restWords⟩ := List.forall_mem_cons.1 words
      have segmentPaired := Text.colonsPaired_of_isWord segmentWord
      cases rest with
      | nil =>
          simp only [steps, String.toList_append]
          refine Text.colonsPaired_append (Text.colonsPaired_append ?_ segmentPaired) rfl
          cases textual <;> rfl
      | cons next others =>
          simp only [steps, String.toList_append]
          exact Text.colonsPaired_append
            (Text.colonsPaired_append (Text.colonsPaired_append rfl segmentPaired) rfl)
            (inductionHypothesis restWords)

theorem colonsPaired_cast? (kind : AttributeKind) :
    Text.colonsPaired (kind.cast?.getD "").toList := by
  cases kind <;> rfl

/-- Casts are the only colons that compilation adds to a column. -/
theorem colonsPaired_sql
    {field : Field} {column : String} (plain : field.isPlain)
    (found : field.sql = .ok column) : Text.colonsPaired column.toList := by
  cases field with
  | column key expression =>
      cases found
      rw [isPlain, Bool.and_eq_true] at plain
      exact plain.2
  | path document nested =>
      simp only [isPlain, Bool.and_eq_true] at plain
      obtain ⟨⟨-, nestedWords⟩, columnPaired⟩ := plain
      cases nested with
      | nil =>
          cases found
          exact columnPaired
      | cons first rest =>
          rw [sql, pathSql] at found
          cases isDeclared : document.attribute? first with
          | none =>
              simp [isDeclared] at found
          | some declared =>
              simp only [isDeclared, Except.ok.injEq] at found
              subst found
              have stepsPaired :=
                colonsPaired_steps declared.kind.isTextual
                  (List.all_eq_true.1 nestedWords)
              simp only [String.toList_append]
              exact Text.colonsPaired_append
                (Text.colonsPaired_append
                  (Text.colonsPaired_append (Text.colonsPaired_append rfl columnPaired)
                    stepsPaired) rfl)
                (colonsPaired_cast? declared.kind)

end Field

namespace Parameters

theorem isWord_numbered
    {stem : String} (word : Text.isWord stem) (number : Nat) :
    Text.isWord (numbered stem number) := by
  have digits : (Nat.toDigits 10 number).all Text.isWordCharacter := by
    refine List.all_eq_true.2 fun digit member => ?_
    have isDigit : digit.isDigit :=
      Nat.isDigit_of_mem_toDigits (by decide) (Nat.le_refl 10) member
    simp [Text.isWordCharacter, Char.isAlphanum, isDigit]
  rw [Text.isWord] at word
  rw [Text.isWord, toList_numbered, List.all_append, word, List.all_cons, digits]
  rfl

theorem isWord_of_mem_bindAll
    {stem name : String} {values : List Json} {parameters : Parameters}
    (word : Text.isWord stem) (member : name ∈ (bindAll stem values parameters).1) :
    Text.isWord name := by
  obtain ⟨number, rfl⟩ := exists_numbered_of_mem_bindAll member
  exact isWord_numbered word number

end Parameters

/-! ## The text of a condition -/

theorem Arrangement.placeholdersFrom_layOut
    (arrangement : Arrangement) {names : List String}
    (words : ∀ name ∈ names, Text.isWord name) :
    Text.placeholdersFrom false
        ((arrangement.layOut (names.map fun name => ":" ++ name)).toList ++ [')']) =
      names := by
  have conjoined :=
    Text.placeholdersFrom_intercalate
      (show (" and " : String).toList = ' ' :: (['a', 'n', 'd'] ++ [' ']) from rfl)
      rfl rfl rfl (show Text.isSeparator ')' from rfl) words []
  have listed :=
    Text.placeholdersFrom_intercalate
      (show (", " : String).toList = ',' :: ([] ++ [' ']) from rfl)
      rfl rfl rfl (show Text.isSeparator ')' from rfl) words [')']
  have bracketed :=
    Text.placeholdersFrom_intercalate
      (show (", " : String).toList = ',' :: ([] ++ [' ']) from rfl)
      rfl rfl rfl (show Text.isSeparator ']' from rfl) words [')']
  cases arrangement with
  | single | bounds =>
      simpa [layOut, Text.placeholdersFrom] using conjoined
  | list =>
      simpa [layOut, Text.placeholdersFrom] using listed
  | array =>
      simpa [layOut, Text.placeholdersFrom] using bracketed

theorem Comparator.colonsPaired_sql (document : Bool) (comparator : Comparator) :
    Text.colonsPaired (comparator.sql document).toList := by
  cases comparator <;> cases document <;> rfl

theorem Condition.colonsPaired_verb (document : Bool) (condition : Condition) :
    Text.colonsPaired (condition.verb document).toList := by
  rw [verb]
  split
  · split <;> rfl
  · exact condition.comparator.colonsPaired_sql document

/-- The placeholders of a condition's text are the names that it is given, in order. -/
theorem Condition.placeholders_text
    {document : Bool} {column : String} {condition : Condition} {names : List String}
    (columnPaired : Text.colonsPaired column.toList)
    (words : ∀ name ∈ names, Text.isWord name) :
    Text.placeholders (condition.text document column names) = names := by
  have space : (" " : String).toList = [' '] := rfl
  have opening : ("(" : String).toList = ['('] := rfl
  have closing : (")" : String).toList = [')'] := rfl
  simp only [Text.placeholders, text, String.toList_append, space, opening, closing,
    List.append_assoc, List.cons_append, List.nil_append]
  rw [Text.placeholdersFrom_of_ne (by decide),
    Text.placeholdersFrom_of_colonsPaired rfl false columnPaired,
    Text.placeholdersFrom_of_colonsPaired rfl false
      (condition.colonsPaired_verb document)]
  exact condition.comparator.arrangement.placeholdersFrom_layOut words

theorem Condition.endsInSeparator_text
    (condition : Condition) (document : Bool) (column : String) (names : List String) :
    Text.EndsInSeparator (condition.text document column names) := by
  have closing : (")" : String).toList = [')'] := rfl
  refine ⟨("(" ++ column ++ " " ++ condition.verb document ++ " " ++
    condition.comparator.arrangement.layOut
      (names.map fun name => ":" ++ name)).toList, ')', ?_, rfl⟩
  rw [text, String.toList_append, closing]

namespace Field

variable {field : Field} {json : Json} {parameters final : Parameters} {text : String}

/-- A condition compiles when it can be read, the field has SQL and the operand fits. -/
theorem exists_of_condition
    (run : (field.condition json).runFrom parameters = (.ok text, final)) :
    ∃ condition column values,
      Condition.ofJson field.isDocument json = .ok condition ∧
      field.sql = .ok column ∧
      condition.values field.isDocument = .ok values ∧
      text = condition.text field.isDocument column
        (Parameters.bindAll field.stem values parameters).1 ∧
      final = (Parameters.bindAll field.stem values parameters).2 := by
  simp only [Field.condition, Compilation.runFrom_bind_eq_ok_iff,
    Compilation.runFrom_require_eq_ok_iff, Compilation.runFrom_bindAll] at run
  obtain ⟨condition, _, ⟨read, rfl⟩, column, _, ⟨found, rfl⟩, values, _, ⟨taken, rfl⟩,
    names, _, bound, done⟩ := run
  cases bound
  cases done
  exact ⟨condition, column, values, read, found, taken, rfl, rfl⟩

theorem endsInSeparator_of_condition
    (run : (field.condition json).runFrom parameters = (.ok text, final)) :
    Text.EndsInSeparator text := by
  obtain ⟨condition, column, values, -, -, -, rfl, -⟩ := exists_of_condition run
  exact condition.endsInSeparator_text _ _ _

/-- A compiled condition binds its values under the placeholders of its text. -/
theorem binds_of_condition
    (plain : field.isPlain)
    (run : (field.condition json).runFrom parameters = (.ok text, final)) :
    parameters.Binds (Text.placeholders text)
      (Condition.jsonValues field.isDocument json) final := by
  obtain ⟨condition, column, values, read, found, taken, rfl, rfl⟩ :=
    exists_of_condition run
  have words :
      ∀ name ∈ (Parameters.bindAll field.stem values parameters).1, Text.isWord name :=
    fun name member => Parameters.isWord_of_mem_bindAll (isWord_stem plain) member
  rw [Condition.placeholders_text (colonsPaired_sql plain found) words,
    Condition.jsonValues_eq read taken]
  exact Parameters.binds_bindAll field.stem values parameters

end Field

end WhereClause
