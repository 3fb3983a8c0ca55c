import WhereClause.Proofs.SingleTable.Acceptance
import WhereClause.Proofs.SingleTable.Meaning

/-!
# Where a compilation fails

An object is looked at as a whole before its entries are gone through in their order, what is
negated is counted before it is looked at, and the first part that is wrong decides. Main
statement: a compilation that is rejected has compiled the conditions in front of that part, in
the order of the document, and has bound nothing else.
-/

namespace WhereClause

namespace Condition

variable {document : Bool} {cause : Rejection}

/-- What is wrong with an operand that the comparator does not take. -/
def operandMisfit (condition : Condition) : Misfit :=
  match condition.comparator.arrangement with
  | .bounds => .notTwoBounds condition.comparator condition.operand
  | _ => .notAnArray condition.comparator condition.operand

/-- A condition that cannot be read is no object with one member, nor a list on a document column,
or its only key names no comparator. -/
theorem ofJson_eq_error_iff {json : Json} :
    ofJson document json = .error cause ↔
      ((∀ symbol operand, json ≠ .obj [(symbol, operand)]) ∧
          (document → ∀ items, json ≠ .arr items) ∧ cause = .malformedCondition json) ∨
        ∃ symbol operand, json = .obj [(symbol, operand)] ∧
          (∀ comparator : Comparator, comparator.symbol ≠ symbol) ∧
          cause = .unknownComparator symbol := by
  match json with
  | .obj [(symbol, operand)] =>
      have unnamed : Comparator.ofSymbol? symbol = none ↔
          ∀ comparator : Comparator, comparator.symbol ≠ symbol := by
        simp only [Option.eq_none_iff_forall_ne_some, ne_eq, Comparator.ofSymbol?_eq_some_iff]
      have single : ¬∀ other content, Json.obj [(symbol, operand)] ≠ .obj [(other, content)] :=
        fun notSingle => notSingle symbol operand rfl
      rw [ofJson, or_iff_right fun malformed => single malformed.1]
      cases found : Comparator.ofSymbol? symbol with
      | some comparator =>
          constructor
          · intro rejected
            cases rejected
          · rintro ⟨_, _, ⟨⟩, unknown, -⟩
            exact absurd (Comparator.ofSymbol?_eq_some_iff.1 found) (unknown comparator)
      | none =>
          constructor
          · intro rejected
            cases rejected
            exact ⟨symbol, operand, rfl, unnamed.1 found, rfl⟩
          · rintro ⟨_, _, ⟨⟩, -, rfl⟩
            rfl
  | .arr items =>
      rw [ofJson]
      cases document <;> simp [eq_comm]
  | .null | .bool _ | .int _ | .double _ | .str _ | .obj [] | .obj (_ :: _ :: _) =>
      simp [ofJson, eq_comm]

/-- The values of a condition cannot be taken from an operand of another kind. -/
theorem values_eq_error_iff {condition : Condition} :
    condition.values document = .error cause ↔
      ¬condition.comparator.Takes condition.operand ∧
        cause = .misfit condition.operandMisfit := by
  have takes : (∃ values, condition.values document = .ok values) ↔
      condition.comparator.Takes condition.operand :=
    exists_values_iff
  rw [← takes]
  obtain ⟨comparator, operand⟩ := condition
  simp only [values, operandMisfit]
  cases comparator.arrangement with
  | single =>
      simp
  | bounds =>
      dsimp only
      split <;> simp [eq_comm]
  | list | array =>
      dsimp only
      split <;> simp [eq_comm]

end Condition

namespace Field

/-- Why a condition on a field cannot be compiled: it is read first, then the first step into a
document has to be declared, and the operand is looked at last. -/
inductive Fails (field : Field) : Json → Rejection → Prop
  | malformed {json : Json} (notSingle : ∀ symbol operand, json ≠ .obj [(symbol, operand)])
      (notElements : field.isDocument → ∀ items, json ≠ .arr items) :
      Fails field json (.malformedCondition json)
  | unknownComparator {symbol : String} {operand : Json}
      (unknown : ∀ comparator : Comparator, comparator.symbol ≠ symbol) :
      Fails field (.obj [(symbol, operand)]) (.unknownComparator symbol)
  | unknownAttribute {json : Json} {condition : Condition} {document : DocumentColumn}
      {first : String} {rest : List String}
      (read : Condition.ofJson field.isDocument json = .ok condition)
      (isPath : field = .path document (first :: rest))
      (undeclared : ∀ declared ∈ document.attributes, declared.name ≠ first) :
      Fails field json (.unknownAttribute document.property first)
  | operand {json : Json} {condition : Condition}
      (read : Condition.ofJson field.isDocument json = .ok condition)
      (isDeclared : field.IsDeclared)
      (notTaken : ¬condition.comparator.Takes condition.operand) :
      Fails field json (.misfit condition.operandMisfit)

variable {field : Field} {json : Json} {cause : Rejection}

theorem sql_eq_error_iff :
    field.sql = .error cause ↔
      ∃ document first rest, field = .path document (first :: rest) ∧
        (∀ declared ∈ document.attributes, declared.name ≠ first) ∧
        cause = .unknownAttribute document.property first := by
  match field with
  | .column _ _ | .path _ [] =>
      simp [sql, pathSql]
  | .path document (first :: rest) =>
      have undeclared : document.attribute? first = none ↔
          ∀ declared ∈ document.attributes, declared.name ≠ first := by
        simp [DocumentColumn.attribute?]
      rw [sql, pathSql]
      cases found : document.attribute? first with
      | none =>
          have missing := undeclared.1 found
          constructor
          · intro rejected
            cases rejected
            exact ⟨document, first, rest, rfl, missing, rfl⟩
          · rintro ⟨_, _, _, ⟨⟩, -, rfl⟩
            rfl
      | some declared =>
          have present : ¬∀ declared ∈ document.attributes, declared.name ≠ first := by
            rw [← undeclared, found]
            exact Option.some_ne_none declared
          constructor
          · intro rejected
            cases rejected
          · rintro ⟨_, _, _, ⟨⟩, missing, -⟩
            exact absurd missing present

/-- The first of the three steps that goes wrong is the reason. -/
theorem valuesOf_eq_error_iff :
    field.valuesOf json = .error cause ↔
      Condition.ofJson field.isDocument json = .error cause ∨
        ∃ condition, Condition.ofJson field.isDocument json = .ok condition ∧
          (field.sql = .error cause ∨
            field.IsDeclared ∧ condition.values field.isDocument = .error cause) := by
  rw [valuesOf, ← exists_sql_iff]
  cases Condition.ofJson field.isDocument json with
  | error found =>
      simp [bind, Except.bind]
  | ok condition =>
      cases field.sql with
      | error found =>
          simp [bind, Except.bind]
      | ok column =>
          simp [bind, Except.bind]

theorem fails_iff : field.Fails json cause ↔ (field.course json).cause = some cause := by
  rw [cause_course, Rejection.of?_eq_some_iff, valuesOf_eq_error_iff]
  constructor
  · intro fails
    cases fails with
    | malformed notSingle notElements =>
        exact Or.inl (Condition.ofJson_eq_error_iff.2 (Or.inl ⟨notSingle, notElements, rfl⟩))
    | unknownComparator unknown =>
        exact Or.inl (Condition.ofJson_eq_error_iff.2 (Or.inr ⟨_, _, rfl, unknown, rfl⟩))
    | unknownAttribute read isPath undeclared =>
        have noSql := sql_eq_error_iff.2 ⟨_, _, _, isPath, undeclared, rfl⟩
        exact Or.inr ⟨_, read, Or.inl noSql⟩
    | operand read isDeclared notTaken =>
        exact Or.inr ⟨_, read, Or.inr ⟨isDeclared,
          Condition.values_eq_error_iff.2 ⟨notTaken, rfl⟩⟩⟩
  · rintro (unread | ⟨condition, read, noSql | ⟨isDeclared, noValues⟩⟩)
    · rcases Condition.ofJson_eq_error_iff.1 unread with
        ⟨notSingle, notElements, rfl⟩ | ⟨symbol, operand, rfl, unknown, rfl⟩
      · exact .malformed notSingle notElements
      · exact .unknownComparator unknown
    · obtain ⟨document, first, rest, isPath, undeclared, rfl⟩ := sql_eq_error_iff.1 noSql
      exact .unknownAttribute read isPath undeclared
    · obtain ⟨notTaken, rfl⟩ := Condition.values_eq_error_iff.1 noValues
      exact .operand read isDeclared notTaken

end Field

/-! ## Filters that fail -/

namespace Scope

/-- Why a condition under a key cannot be compiled on a table: the field is looked up first. -/
inductive ConditionFails (scope : Scope) (key : String) (json : Json) : Rejection → Prop
  | unknownField (unknown : scope.field? key = none) :
      ConditionFails scope key json (.unknownField key)
  | condition {field : Field} {cause : Rejection} (found : scope.field? key = some field)
      (fails : field.Fails json cause) : ConditionFails scope key json cause

/-- Whether compiling an object comes to one of its entries, behind those before it: the object is
in order as a whole, and the entries before are entries of the grammar. -/
structure Reaches (scope : Scope) (members before : List (String × Json)) (key : String)
    (value : Json) : Prop where
  fits : (Json.obj members).misfit? = none
  passed : scope.grammar.IsFilter (.obj before)
  split : ∃ after, members = before ++ (key, value) :: after

/-- Compiling a filter on a table fails for a reason, after the given conditions. JSON that is no
object, or an object that has a value of the wrong kind, fails as a whole. An object that is in
order fails at the first of its entries that does: at the first filter of a set that does, at what
is negated, of which there has to be one entry, or at a condition. -/
inductive FailsAfter (scope : Scope) : Json → List (String × Json) → Rejection → Prop
  | whole {json : Json} {misfit : Misfit} (isMisfit : json.misfit? = some misfit) :
      FailsAfter scope json [] (.misfit misfit)
  | set {members before : List (String × Json)} {key : String} {earlier later : List Json}
      {item : Json} {leaves : List (String × Json)} {cause : Rejection}
      (reached : scope.Reaches members before key (.arr (earlier ++ item :: later)))
      (isSet : (Connective.ofKey? key).isSome)
      (passed : ∀ other ∈ earlier, scope.grammar.IsFilter other)
      (fails : FailsAfter scope item leaves cause) :
      FailsAfter scope (.obj members)
        ((Filter.ofJson (.obj before)).leaves ++
          (Filter.leavesOfAll (Filter.readAll earlier) ++ leaves)) cause
  | count {members before child : List (String × Json)}
      (reached : scope.Reaches members before "not" (.obj child)) (several : child.length ≠ 1) :
      FailsAfter scope (.obj members) (Filter.ofJson (.obj before)).leaves
        (.negationOfSeveral child.length)
  | negation {members before leaves : List (String × Json)} {key : String} {value : Json}
      {cause : Rejection} (reached : scope.Reaches members before "not" (.obj [(key, value)]))
      (fails : FailsAfter scope (.obj [(key, value)]) leaves cause) :
      FailsAfter scope (.obj members) ((Filter.ofJson (.obj before)).leaves ++ leaves) cause
  | condition {members before : List (String × Json)} {key : String} {json : Json}
      {cause : Rejection} (reached : scope.Reaches members before key json)
      (isNotSet : Connective.ofKey? key = none) (isNotNegation : key ≠ "not")
      (fails : scope.ConditionFails key json cause) :
      FailsAfter scope (.obj members) (Filter.ofJson (.obj before)).leaves cause

variable {scope : Scope}

theorem conditionFails_iff {key : String} {json : Json} {cause : Rejection} :
    scope.ConditionFails key json cause ↔
      (scope.judge.condition key json).cause = some cause := by
  simp only [judge]
  cases found : scope.field? key with
  | none =>
      constructor
      · intro fails
        cases fails with
        | unknownField =>
            rfl
        | condition other =>
            rw [found] at other
            cases other
      · rintro ⟨⟩
        exact .unknownField found
  | some field =>
      rw [← Field.fails_iff]
      constructor
      · intro fails
        cases fails with
        | unknownField unknown =>
            rw [found] at unknown
            cases unknown
        | condition other fails =>
            rw [found] at other
            cases other
            exact fails
      · exact .condition found

/-- An object fails as a whole, or somewhere below if it is in order. -/
theorem exists_failsAfter_obj
    {members : List (String × Json)}
    (inOrder : (Json.obj members).misfit? = none →
      ∃ leaves cause, scope.FailsAfter (.obj members) leaves cause) :
    ∃ leaves cause, scope.FailsAfter (.obj members) leaves cause := by
  cases misfits : (Json.obj members).misfit? with
  | some misfit =>
      exact ⟨[], .misfit misfit, .whole misfits⟩
  | none =>
      exact inOrder misfits

mutual

/-- What is no filter of the grammar fails somewhere. -/
theorem exists_failsAfter (json : Json) (noFilter : ¬scope.grammar.IsFilter json) :
    ∃ leaves cause, scope.FailsAfter json leaves cause := by
  cases json with
  | obj members =>
      rw [Grammar.isFilter_obj_iff] at noFilter
      exact exists_failsAfter_obj fun fits =>
        exists_failsAfter_of_members members noFilter [] (.object (by simp)) fits
  | _ =>
      exact ⟨[], _, .whole rfl⟩

theorem exists_failsAfter_of_items
    (items : List Json) (noFilters : ¬∀ item ∈ items, scope.grammar.IsFilter item) :
    ∃ earlier item later leaves cause, items = earlier ++ item :: later ∧
      (∀ other ∈ earlier, scope.grammar.IsFilter other) ∧
      scope.FailsAfter item leaves cause := by
  cases items with
  | nil =>
      simp at noFilters
  | cons item rest =>
      by_cases isFilter : scope.grammar.IsFilter item
      · rw [List.forall_mem_cons, and_iff_right isFilter] at noFilters
        obtain ⟨earlier, failing, later, leaves, cause, rfl, passed, fails⟩ :=
          exists_failsAfter_of_items rest noFilters
        exact ⟨item :: earlier, failing, later, leaves, cause, rfl,
          List.forall_mem_cons.2 ⟨isFilter, passed⟩, fails⟩
      · obtain ⟨leaves, cause, fails⟩ := exists_failsAfter item isFilter
        exact ⟨[], item, rest, leaves, cause, rfl, by simp, fails⟩

theorem exists_failsAfter_of_value
    (key : String) (json : Json) (noEntry : ¬scope.grammar.IsEntry key json)
    (fits : Json.misfitUnder? key json = none) {members before : List (String × Json)}
    (reached : scope.Reaches members before key json) :
    ∃ leaves cause, scope.FailsAfter (.obj members) leaves cause := by
  unfold Json.misfitUnder? at fits
  cases role : KeyRole.ofKey key with
  | set connective =>
      rw [role] at fits
      rw [Grammar.isEntry_of_set_iff role] at noEntry
      have isSet : (Connective.ofKey? key).isSome := by
        rw [KeyRole.ofKey_eq_set_iff.1 role, Option.isSome_some]
      cases json with
      | arr items =>
          obtain ⟨earlier, item, later, leaves, cause, rfl, passed, fails⟩ :=
            exists_failsAfter_of_items items fun filters => noEntry ⟨items, rfl, filters⟩
          exact ⟨_, cause, .set reached isSet passed fails⟩
      | _ =>
          cases fits
  | negation =>
      rw [role] at fits
      rw [Grammar.isEntry_of_negation_iff role] at noEntry
      obtain rfl := KeyRole.ofKey_eq_negation_iff.1 role
      cases json with
      | obj child =>
          by_cases single : child.length = 1
          · have noEntries : ¬∀ member ∈ child, scope.grammar.IsEntry member.1 member.2 := by
              obtain ⟨⟨inner, value⟩, same⟩ := List.length_eq_one_iff.1 single
              intro entries
              rw [same] at entries
              exact noEntry ⟨inner, value, by rw [same], trivial, .object entries⟩
            obtain ⟨leaves, cause, fails⟩ :=
              exists_failsAfter_obj fun fits =>
                exists_failsAfter_of_members child noEntries [] (.object (by simp)) fits
            obtain ⟨⟨inner, value⟩, rfl⟩ := List.length_eq_one_iff.1 single
            exact ⟨_, cause, .negation reached fails⟩
          · exact ⟨_, _, .count reached single⟩
      | _ =>
          cases fits
  | field =>
      rw [Grammar.isEntry_of_field_iff role, ← cause_condition_eq_none_iff] at noEntry
      obtain ⟨isNotSet, isNotNegation⟩ := KeyRole.ofKey_eq_field_iff.1 role
      obtain ⟨cause, fails⟩ := Option.ne_none_iff_exists'.1 noEntry
      exact ⟨_, cause, .condition reached isNotSet isNotNegation (conditionFails_iff.2 fails)⟩

/-- Behind members that are entries of the grammar, the first one that is not fails. -/
theorem exists_failsAfter_of_members
    (rest : List (String × Json))
    (noEntries : ¬∀ member ∈ rest, scope.grammar.IsEntry member.1 member.2)
    (before : List (String × Json)) (passed : scope.grammar.IsFilter (.obj before))
    (fits : (Json.obj (before ++ rest)).misfit? = none) :
    ∃ leaves cause, scope.FailsAfter (.obj (before ++ rest)) leaves cause := by
  cases rest with
  | nil =>
      simp at noEntries
  | cons member others =>
      obtain ⟨key, value⟩ := member
      by_cases isEntry : scope.grammar.IsEntry key value
      · rw [List.forall_mem_cons, and_iff_right isEntry] at noEntries
        have later := exists_failsAfter_of_members others noEntries (before ++ [(key, value)])
        rw [List.append_assoc, Grammar.isFilter_obj_iff] at later
        refine later ?_ fits
        rw [List.forall_mem_append, List.forall_mem_singleton]
        exact ⟨Grammar.isFilter_obj_iff.1 passed, isEntry⟩
      · have valueFits := List.findSome?_eq_none_iff.1 fits (key, value) (by simp)
        exact exists_failsAfter_of_value key value isEntry valueFits ⟨fits, passed, others, rfl⟩

end

end Scope

/-! ## Running up to a failure -/

theorem Compilation.runFrom_mapM_eq_error
    {α β : Type} {visit : α → Compilation β} {left right : List α} {item : α} {made : List β}
    {parameters bound final : Parameters} {cause : Rejection}
    (leftRun : (left.mapM visit).runFrom parameters = (.ok made, bound))
    (itemRun : (visit item).runFrom bound = (.error cause, final)) :
    ((left ++ item :: right).mapM visit).runFrom parameters = (.error cause, final) := by
  rw [List.mapM_append, List.mapM_cons, runFrom_bind, leftRun]
  simp only [runFrom_bind, itemRun]

namespace Filter

variable {label : String → Json → Compilation String}

theorem outlineClauses_eq_mapM (clauses : List Clause) :
    outlineClauses label clauses = clauses.mapM (outlineClause label) := by
  induction clauses with
  | nil =>
      rfl
  | cons clause rest inductionHypothesis =>
      rw [outlineClauses, List.mapM_cons, inductionHypothesis]

theorem outlineAll_eq_mapM (filters : List Filter) :
    outlineAll label filters = filters.mapM (outline label) := by
  induction filters with
  | nil =>
      rfl
  | cons filter rest inductionHypothesis =>
      rw [outlineAll, List.mapM_cons, inductionHypothesis]

theorem readAll_append (left right : List Json) :
    readAll (left ++ right) = readAll left ++ readAll right := by
  induction left with
  | nil =>
      rfl
  | cons item rest inductionHypothesis =>
      rw [List.cons_append, readAll, readAll, inductionHypothesis, List.cons_append]

/-- Where members are read, those in front of one of them are, and so is that one. -/
theorem exists_of_readClauses_append
    {before after : List (String × Json)} {key : String} {value : Json} {clauses : List Clause}
    (read : readClauses (before ++ (key, value) :: after) = .ok clauses) :
    ∃ earlier clause later, readClauses before = .ok earlier ∧
      readClause key value = .ok clause ∧ clauses = earlier ++ clause :: later := by
  induction before generalizing clauses with
  | nil =>
      obtain ⟨clause, later, head, -, rfl⟩ := exists_of_readClauses_cons read
      exact ⟨[], clause, later, rfl, head, rfl⟩
  | cons member rest inductionHypothesis =>
      obtain ⟨first, others, head, tail, rfl⟩ := exists_of_readClauses_cons read
      obtain ⟨earlier, clause, later, restRead, valueRead, rfl⟩ := inductionHypothesis tail
      refine ⟨first :: earlier, clause, later, ?_, valueRead, rfl⟩
      rw [readClauses_cons, head, restRead]

theorem ofJson_of_misfit
    {json : Json} {misfit : Misfit} (isMisfit : json.misfit? = some misfit) :
    ofJson json = .rejected (.misfit misfit) := by
  cases json with
  | obj members =>
      have unread := of?_readClauses members
      rw [isMisfit] at unread
      rw [ofJson, Rejection.of?_eq_some_iff.1 unread, ofClauses]
  | _ =>
      cases isMisfit
      rfl

end Filter

namespace Target

variable {target : Target}

/-- A condition that cannot be compiled binds nothing. -/
theorem runFrom_conditionText_of_conditionFails
    {key : String} {json : Json} {cause : Rejection}
    (fails : target.scope.ConditionFails key json cause)
    (parameters : Parameters) :
    (target.conditionText key json).runFrom parameters = (.error cause, parameters) := by
  have rejected := Scope.conditionFails_iff.1 fails
  obtain ⟨ends, binds⟩ := target.takes_conditionText key json parameters
  have nothing : (target.scope.judge.condition key json).bound = [] := by
    simp only [Scope.judge] at rejected ⊢
    cases found : target.scope.field? key with
    | none =>
        rfl
    | some field =>
        rw [found] at rejected
        exact Field.bound_course_of_cause rejected
  rw [rejected, Rejection.of?_eq_some_iff] at ends
  rw [nothing] at binds
  exact Prod.ext ends binds

/-- A filter of the grammar is compiled by compiling its conditions. -/
theorem exists_outline_of_isFilter
    {json : Json} (filter : target.scope.grammar.IsFilter json) (parameters : Parameters) :
    ∃ formula bound,
      ((Filter.ofJson json).outline target.conditionText).runFrom parameters =
        (.ok formula, bound) ∧
      (Filter.labelAll target.conditionText (Filter.ofJson json).leaves).runFrom parameters =
        (.ok formula.leaves, bound) := by
  rw [← Scope.grammar_judge, ← Judge.passes_checks_iff, ← Judge.cause_course_eq_none_iff]
    at filter
  have outlined := Filter.takes_outline target.takes_conditionText (fun _ => rfl) json parameters
  rw [filter, Rejection.of?_eq_none_iff] at outlined
  obtain ⟨⟨formula, made⟩, -⟩ := outlined
  have run : ((Filter.ofJson json).outline target.conditionText).runFrom parameters =
      (.ok formula, _) :=
    Prod.ext made rfl
  exact ⟨formula, _, run, Filter.labelAll_leaves_of_outline run⟩

theorem exists_outlineAll_of_forall_isFilter
    {items : List Json} (filters : ∀ item ∈ items, target.scope.grammar.IsFilter item)
    (parameters : Parameters) :
    ∃ formulas bound,
      (Filter.outlineAll target.conditionText (Filter.readAll items)).runFrom parameters =
        (.ok formulas, bound) ∧
      (Filter.labelAll target.conditionText
          (Filter.leavesOfAll (Filter.readAll items))).runFrom parameters =
        (.ok (Formula.leavesOfAll formulas), bound) := by
  rw [← Scope.grammar_judge, ← Judge.passes_checksOfAll_iff, ← Judge.cause_course_eq_none_iff]
    at filters
  have outlined :=
    Filter.takes_outlineAll target.takes_conditionText (fun _ => rfl) items parameters
  rw [filters, Rejection.of?_eq_none_iff] at outlined
  obtain ⟨⟨formulas, made⟩, -⟩ := outlined
  have run : (Filter.outlineAll target.conditionText (Filter.readAll items)).runFrom parameters =
      (.ok formulas, _) :=
    Prod.ext made rfl
  exact ⟨formulas, _, run, Filter.labelAll_leavesOfAll_of_outline run⟩

/-- Where an entry that is reached is rejected, so is the filter, and the conditions before the
entry have been compiled. -/
theorem runFrom_outline_of_reaches
    {members before leaves : List (String × Json)} {key : String} {value : Json}
    {cause : Rejection} (reached : target.scope.Reaches members before key value)
    (entry : ∀ clause bound, Filter.readClause key value = .ok clause → ∃ texts final,
      (Filter.labelAll target.conditionText leaves).runFrom bound = (.ok texts, final) ∧
      (Filter.outlineClause target.conditionText clause).runFrom bound = (.error cause, final))
    (parameters : Parameters) :
    ∃ texts final,
      (Filter.labelAll target.conditionText
          ((Filter.ofJson (.obj before)).leaves ++ leaves)).runFrom parameters =
        (.ok texts, final) ∧
      ((Filter.ofJson (.obj members)).outline target.conditionText).runFrom parameters =
        (.error cause, final) := by
  obtain ⟨fits, passed, after, rfl⟩ := reached
  have read := Filter.of?_readClauses (before ++ (key, value) :: after)
  rw [fits, Option.map_none, Rejection.of?_eq_none_iff] at read
  obtain ⟨clauses, read⟩ := read
  obtain ⟨earlier, clause, later, beforeRead, clauseRead, rfl⟩ :=
    Filter.exists_of_readClauses_append read
  obtain ⟨formula, bound, beforeRun, beforeLabelled⟩ :=
    exists_outline_of_isFilter passed parameters
  obtain ⟨texts, final, labelled, clauseRun⟩ := entry clause bound clauseRead
  refine ⟨_, final, Filter.runFrom_labelAll_append beforeLabelled labelled, ?_⟩
  rw [Filter.ofJson, beforeRead, Filter.ofClauses, Filter.outline,
    Compilation.runFrom_bind_eq_ok_iff] at beforeRun
  obtain ⟨conjuncts, _, earlierRun, done⟩ := beforeRun
  cases done
  rw [Filter.outlineClauses_eq_mapM] at earlierRun
  rw [Filter.ofJson, read, Filter.ofClauses, Filter.outline, Compilation.runFrom_bind,
    Filter.outlineClauses_eq_mapM, Compilation.runFrom_mapM_eq_error earlierRun clauseRun]

/-- A filter that fails after some conditions has these compiled, and nothing else. -/
theorem runFrom_outline_of_failsAfter
    {json : Json} {leaves : List (String × Json)} {cause : Rejection}
    (fails : target.scope.FailsAfter json leaves cause) (parameters : Parameters) :
    ∃ texts final,
      (Filter.labelAll target.conditionText leaves).runFrom parameters = (.ok texts, final) ∧
      ((Filter.ofJson json).outline target.conditionText).runFrom parameters =
        (.error cause, final) := by
  induction fails generalizing parameters with
  | whole isMisfit =>
      rw [Filter.ofJson_of_misfit isMisfit]
      exact ⟨[], parameters, rfl, rfl⟩
  | set reached isSet passed _ inductionHypothesis =>
      refine runFrom_outline_of_reaches reached (fun clause bound read => ?_) parameters
      obtain ⟨connective, named⟩ := Option.isSome_iff_exists.1 isSet
      obtain ⟨_, ⟨⟩, rfl⟩ :=
        Filter.exists_items_of_readClause (KeyRole.ofKey_eq_set_iff.2 named) read
      obtain ⟨formulas, middle, earlierRun, earlierLabelled⟩ :=
        exists_outlineAll_of_forall_isFilter passed bound
      obtain ⟨texts, final, labelled, itemRun⟩ := inductionHypothesis middle
      refine ⟨_, final, Filter.runFrom_labelAll_append earlierLabelled labelled, ?_⟩
      rw [Filter.outlineAll_eq_mapM] at earlierRun
      rw [Filter.outlineClause, Compilation.runFrom_bind, Filter.readAll_append, Filter.readAll,
        Filter.outlineAll_eq_mapM, Compilation.runFrom_mapM_eq_error earlierRun itemRun]
  | count reached several =>
      rw [← List.append_nil (Filter.leaves _)]
      refine runFrom_outline_of_reaches reached (fun clause bound read => ?_) parameters
      have role := KeyRole.ofKey_eq_negation_iff.2 (show "not" = "not" from rfl)
      rcases Filter.negation_of_readClause role read with ⟨single, -⟩ | ⟨-, rfl⟩
      · exact absurd single several
      · exact ⟨[], bound, rfl, rfl⟩
  | negation reached _ inductionHypothesis =>
      refine runFrom_outline_of_reaches reached (fun clause bound read => ?_) parameters
      have role := KeyRole.ofKey_eq_negation_iff.2 (show "not" = "not" from rfl)
      rcases Filter.negation_of_readClause role read with ⟨-, rfl⟩ | ⟨several, -⟩
      · obtain ⟨texts, final, labelled, childRun⟩ := inductionHypothesis bound
        rw [Filter.ofJson] at childRun
        refine ⟨texts, final, labelled, ?_⟩
        rw [Filter.outlineClause, Compilation.runFrom_bind, childRun]
      · exact absurd rfl several
  | condition reached isNotSet isNotNegation fails =>
      rw [← List.append_nil (Filter.leaves _)]
      refine runFrom_outline_of_reaches reached (fun clause bound read => ?_) parameters
      have role := KeyRole.ofKey_eq_field_iff.2 ⟨isNotSet, isNotNegation⟩
      rw [Filter.readClause_of_field role] at read
      cases read
      refine ⟨[], bound, rfl, ?_⟩
      rw [Filter.outlineClause, Compilation.runFrom_bind,
        runFrom_conditionText_of_conditionFails fails]

/-- A filter is rejected where its outline is. -/
theorem compile_eq_error_iff_outline
    {json : Json} {parameters final : Parameters} {cause : Rejection} :
    compile target json parameters = (.error cause, final) ↔
      target.outline json parameters = (.error cause, final) := by
  have composed :
      compile target json parameters =
        ((target.phrase json parameters).1.map Phrase.text,
          (target.phrase json parameters).2) := rfl
  rw [composed, phrase_eq_outline]
  rcases target.outline json parameters with ⟨_ | formula, bound⟩
  · simp [Except.map]
  · simp [Except.map]

end Target

/-- A filter is rejected for a reason exactly where compiling it fails for that reason after some
conditions. Exactly these have then been compiled, one after the other; an object that has a value
of the wrong kind fails before any of its own. -/
theorem compile_eq_error_iff_failsAfter
    (target : Target) (json : Json) (parameters final : Parameters) (cause : Rejection) :
    (compile target json parameters = (.error cause, final) ↔
      ∃ leaves texts, target.scope.FailsAfter json leaves cause ∧
        (Filter.labelAll target.conditionText leaves).runFrom parameters = (.ok texts, final)) ∧
      ∀ members misfit, (Json.obj members).misfit? = some misfit → ∀ leaves other,
        target.scope.FailsAfter (.obj members) leaves other ↔
          leaves = [] ∧ other = .misfit misfit := by
  constructor
  · rw [Target.compile_eq_error_iff_outline]
    constructor
    · intro rejected
      have noFilter : ¬target.scope.grammar.IsFilter json := by
        intro filter
        obtain ⟨formula, bound, run, -⟩ := Target.exists_outline_of_isFilter filter parameters
        rw [Target.outline, run] at rejected
        cases rejected
      obtain ⟨leaves, found, fails⟩ := Scope.exists_failsAfter json noFilter
      obtain ⟨texts, bound, labelled, run⟩ := Target.runFrom_outline_of_failsAfter fails parameters
      rw [Target.outline, run] at rejected
      cases rejected
      exact ⟨leaves, texts, fails, labelled⟩
    · rintro ⟨leaves, texts, fails, labelled⟩
      obtain ⟨_, bound, relabelled, run⟩ := Target.runFrom_outline_of_failsAfter fails parameters
      rw [labelled] at relabelled
      cases relabelled
      exact run
  · intro members misfit isMisfit leaves other
    constructor
    · intro fails
      cases fails with
      | whole found =>
          rw [isMisfit] at found
          cases found
          exact ⟨rfl, rfl⟩
      | set reached | count reached | negation reached | condition reached =>
          have fits := reached.fits
          rw [isMisfit] at fits
          cases fits
    · rintro ⟨rfl, rfl⟩
      exact .whole isMisfit

/-- An object with a value of the wrong kind behind a condition. -/
def botOrFive : Json :=
  .obj [("isBot", .obj [("eq", .bool true)]), ("or", .int 5)]

/-- The condition before the object is compiled, and the one within it is not. -/
theorem compile_eq_error_iff_failsAfter_of_botOrFive :
    ∃ final,
      compile memberTable
          (.obj [("and", .arr [.obj [("score", .obj [("gt", .int 1)])], botOrFive])]) Dict.empty =
        (.error (.misfit (.notAList "or" (.int 5))), final) ∧
      final.entries = [("score_1", .int 1)] := by
  have score : memberTable.scope.grammar.IsFilter (.obj [("score", .obj [("gt", .int 1)])]) := by
    have isNotSet :=
      Connective.ofKey?_eq_none_iff.1 (show Connective.ofKey? "score" = none by decide)
    refine .object (List.forall_mem_singleton.2 (.condition isNotSet (by decide) ?_))
    exact ⟨.column "score" "m.score", by decide, trivial, .comparison .greater trivial⟩
  have reached :
      memberTable.scope.Reaches
        [("and", .arr ([.obj [("score", .obj [("gt", .int 1)])]] ++ botOrFive :: []))] [] "and"
        (.arr ([.obj [("score", .obj [("gt", .int 1)])]] ++ botOrFive :: [])) :=
    ⟨by decide, .object (by simp), [], rfl⟩
  have fails := Scope.FailsAfter.set reached (by decide) (List.forall_mem_singleton.2 score)
    (.whole (show botOrFive.misfit? = some (.notAList "or" (.int 5)) from rfl))
  exact ⟨_, ((compile_eq_error_iff_failsAfter _ _ _ _ _).1).2 ⟨_, _, fails, rfl⟩, rfl⟩

end WhereClause
