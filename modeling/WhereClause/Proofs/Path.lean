import WhereClause.Field
import WhereClause.Proofs.Lexeme

/-!
# Paths into a document column

Main statement: the SQL text of a path is scanned to the segments of the key, one literal for
each, exactly when no segment has a quote in it.
-/

namespace WhereClause

theorem Scope.segments_of_field?
    {scope : Scope} {key : String} {document : DocumentColumn} {nested : List String}
    (resolved : scope.field? key = some (.path document nested)) :
    document ∈ scope.documents ∧ Key.segments key = (document.property, nested) := by
  rw [field?] at resolved
  cases found : scope.path? key with
  | none =>
      simp [found, column?] at resolved
  | some field =>
      rw [found] at resolved
      cases resolved
      obtain ⟨owner, isFirst, same⟩ := Option.map_eq_some_iff.1 found
      cases same
      have property := List.find?_some isFirst
      rw [decide_eq_true_eq] at property
      refine ⟨List.mem_of_find?_eq_some isFirst, ?_⟩
      rw [property]
      rfl

namespace Field

open Lexeme

/-- The lexemes of the steps into a document: an arrow and a literal for each segment,
where the last arrow into a textual attribute is the one for text. -/
def stepLexemes (textual : Bool) (nested : List String) : List Lexeme :=
  nested.dropLast.flatMap (fun segment => [.word "->", .literal segment]) ++
    nested.getLast?.toList.flatMap fun last =>
      [.word (if textual then "->>" else "->"), .literal last]

/-- The lexemes of a path into a document column that has the given lexemes. -/
def pathLexemes (column : List Lexeme) (kind : AttributeKind) (nested : List String) :
    List Lexeme :=
  .opening :: column ++ stepLexemes kind.isTextual nested ++
    .closing :: kind.cast?.toList.map Lexeme.word

theorem scanCode_step
    (textual : Bool) {segment : List Char} (unquoted : '\'' ∉ segment) {right : List Char}
    (alone : right.head? ≠ some '\'') :
    scanCode []
        ((if textual then " ->> '" else " -> '" : String).toList ++
          (segment ++ '\'' :: right)) =
      (scanCode [] right).map
        ([.word (if textual then "->>" else "->"), .literal (String.ofList segment)] ++ ·) := by
  have literal := scanLiteral_append unquoted [] alone
  cases textual <;>
    simp [scanCode, ofSeparator?, literal, ofWord, Function.comp_def]

theorem head?_steps (textual : Bool) (segment : String) (rest : List String) :
    (steps textual (segment :: rest)).toList.head? = some ' ' := by
  cases rest with
  | nil =>
      cases textual <;> simp [steps]
  | cons next others =>
      simp [steps]

theorem stepLexemes_cons (textual : Bool) (segment next : String) (others : List String) :
    stepLexemes textual (segment :: next :: others) =
      [.word "->", .literal segment] ++ stepLexemes textual (next :: others) := by
  simp [stepLexemes]

/-- The steps are scanned segment by segment, up to the parenthesis behind them. -/
theorem scanCode_steps
    (textual : Bool) {segments : List String} (nonempty : segments ≠ [])
    (unquoted : ∀ segment ∈ segments, '\'' ∉ segment.toList) (right : List Char) :
    scanCode [] ((steps textual segments).toList ++ ')' :: right) =
      (scanCode [] (')' :: right)).map (stepLexemes textual segments ++ ·) := by
  induction segments with
  | nil =>
      exact absurd rfl nonempty
  | cons segment rest inductionHypothesis =>
      obtain ⟨segmentUnquoted, restUnquoted⟩ := List.forall_mem_cons.1 unquoted
      cases rest with
      | nil =>
          have alone : (')' :: right).head? ≠ some '\'' := by
            simp
          have last := scanCode_step textual segmentUnquoted alone
          simpa [steps, stepLexemes] using last
      | cons next others =>
          have alone :
              ((steps textual (next :: others)).toList ++ ')' :: right).head? ≠
                some '\'' := by
            simp [List.head?_append, head?_steps]
          have first := scanCode_step false segmentUnquoted alone
          have later := inductionHypothesis (List.cons_ne_nil next others) restUnquoted
          rw [later, Option.map_map] at first
          rw [stepLexemes_cons]
          simpa [steps, Function.comp_def] using first

theorem scanCode_cast (kind : AttributeKind) :
    scanCode [] (')' :: (kind.cast?.getD "").toList) =
      some (.closing :: kind.cast?.toList.map Lexeme.word) := by
  cases kind <;> rfl

theorem count_quote_steps (textual : Bool) (segments : List String) :
    (steps textual segments).toList.count '\'' =
      (segments.map fun segment => segment.toList.count '\'' + 2).sum := by
  induction segments with
  | nil =>
      rfl
  | cons segment rest inductionHypothesis =>
      cases rest with
      | nil =>
          cases textual <;> simp [steps]
      | cons next others =>
          rw [List.map_cons, List.sum_cons, ← inductionHypothesis]
          simp [steps]
          omega

theorem sum_quotes_stepLexemes (textual : Bool) (segments : List String) :
    ((stepLexemes textual segments).map Lexeme.quotes).sum =
      (segments.map fun segment => segment.toList.count '\'').sum +
        (segments.map fun segment => segment.toList.count '\'' + 2).sum := by
  induction segments with
  | nil =>
      rfl
  | cons segment rest inductionHypothesis =>
      cases rest with
      | nil =>
          cases textual <;> simp [stepLexemes, Lexeme.quotes] <;> omega
      | cons next others =>
          rw [stepLexemes_cons, List.map_append, List.sum_append, inductionHypothesis]
          simp [Lexeme.quotes]
          omega

theorem count_quote_cast? (kind : AttributeKind) :
    (kind.cast?.getD "").toList.count '\'' = 0 := by
  cases kind <;> rfl

section Path

variable {document : DocumentColumn} {kind : AttributeKind} {nested : List String}

/-- Where no segment has a quote in it, the path is scanned to what it is to stand for. -/
theorem scan_path
    {column : List Lexeme} (columnScanned : scan document.column = some column)
    (columnUnquoted : '\'' ∉ document.column.toList) (nonempty : nested ≠ [])
    (unquoted : ∀ segment ∈ nested, '\'' ∉ segment.toList) :
    scan ("(" ++ document.column ++ steps kind.isTextual nested ++ ")" ++
        kind.cast?.getD "") =
      some (pathLexemes column kind nested) := by
  obtain ⟨segment, rest, rfl⟩ := List.exists_cons_of_ne_nil nonempty
  obtain ⟨behind, stepsAre⟩ :
      ∃ behind, (steps kind.isTextual (segment :: rest)).toList = ' ' :: behind :=
    List.head?_eq_some_iff.1 (head?_steps kind.isTextual segment rest)
  have inside :=
    scanCode_steps kind.isTextual nonempty unquoted (kind.cast?.getD "").toList
  rw [scanCode_cast, stepsAre] at inside
  -- the blank that begins the steps ends the last word of the column
  have blank : ofSeparator? ' ' = some [] := rfl
  obtain ⟨lexemes, found, split⟩ :=
    scanCode_append columnUnquoted [] blank
      (behind ++ ')' :: (kind.cast?.getD "").toList)
  have same : lexemes = column := by
    rw [scan, found] at columnScanned
    exact Option.some.inj columnScanned
  have opening : ofSeparator? '(' = some [.opening] := rfl
  have text :
      ("(" ++ document.column ++ steps kind.isTextual (segment :: rest) ++ ")" ++
          kind.cast?.getD "").toList =
        '(' :: (document.column.toList ++
          ' ' :: (behind ++ ')' :: (kind.cast?.getD "").toList)) := by
    simp [stepsAre]
  have later :
      scanCode [] (behind ++ ')' :: (kind.cast?.getD "").toList) =
        some (stepLexemes kind.isTextual (segment :: rest) ++
          .closing :: kind.cast?.toList.map Lexeme.word) := by
    simpa [scanCode, blank, ofWord] using inside
  rw [scan, text, scanCode, if_neg (by decide), opening]
  simp [split, later, same, ofWord, pathLexemes]

/-- Where a segment has a quote in it, the path has fewer quotes than it is to be written
with. -/
theorem unquoted_of_scan_path
    {column : List Lexeme} (columnScanned : scan document.column = some column)
    (columnUnquoted : '\'' ∉ document.column.toList)
    (scanned :
      scan ("(" ++ document.column ++ steps kind.isTextual nested ++ ")" ++
          kind.cast?.getD "") =
        some (pathLexemes column kind nested)) :
    ∀ segment ∈ nested, '\'' ∉ segment.toList := by
  have ofColumn := count_quote_of_scanCode columnScanned
  have ofPath := count_quote_of_scanCode scanned
  have none : document.column.toList.count '\'' = 0 := List.count_eq_zero.2 columnUnquoted
  have written :
      ("(" ++ document.column ++ steps kind.isTextual nested ++ ")" ++
          kind.cast?.getD "").toList.count '\'' =
        (nested.map fun segment => segment.toList.count '\'' + 2).sum := by
    simp [none, count_quote_steps, count_quote_cast?]
  have meant :
      ((pathLexemes column kind nested).map Lexeme.quotes).sum =
        (nested.map fun segment => segment.toList.count '\'').sum +
          (nested.map fun segment => segment.toList.count '\'' + 2).sum := by
    have ofCast : ((kind.cast?.toList.map Lexeme.word).map Lexeme.quotes).sum = 0 := by
      cases kind <;> rfl
    simp only [pathLexemes, List.cons_append, List.map_cons, List.map_append,
      List.sum_cons, List.sum_append, sum_quotes_stepLexemes, ← ofColumn, none, ofCast]
    simp [Lexeme.quotes]
  have noQuotes : (nested.map fun segment => segment.toList.count '\'').sum = 0 := by
    omega
  intro segment member
  exact List.count_eq_zero.1
    (List.sum_eq_zero_iff_forall_eq_nat.1 noQuotes _ (List.mem_map_of_mem member))

end Path

/-- A table with a column of documents, of which one textual attribute is declared. -/
def attributeScope : Scope :=
  ⟨Dict.empty, [⟨"attributes", "m.attributes", [⟨"url", .url⟩]⟩]⟩

/-- A path into a document column is scanned to its segments, one literal for each, exactly
when no segment of the key has a quote in it. -/
theorem scan_sql_eq_iff
    {scope : Scope} {key : String} {document : DocumentColumn} {first : String}
    {others : List String} {declared : Attribute}
    (resolved : scope.field? key = some (.path document (first :: others)))
    (isDeclared : document.attribute? first = some declared)
    (columnUnquoted : '\'' ∉ document.column.toList) :
    ∃ column sql,
      document ∈ scope.documents ∧
      Key.segments key = (document.property, first :: others) ∧
      Lexeme.scan document.column = some column ∧
      (Field.path document (first :: others)).sql = .ok sql ∧
      (Lexeme.scan sql = some (pathLexemes column declared.kind (first :: others)) ↔
        ∀ segment ∈ first :: others, '\'' ∉ segment.toList) := by
  obtain ⟨column, columnScanned, -⟩ :=
    Lexeme.scanCode_append columnUnquoted [] (show Lexeme.ofSeparator? ' ' = some [] from rfl) []
  obtain ⟨member, segments⟩ := Scope.segments_of_field? resolved
  refine ⟨column, _, member, segments, columnScanned, by rw [sql, pathSql, isDeclared], ?_, ?_⟩
  · exact unquoted_of_scan_path columnScanned columnUnquoted
  · exact scan_path columnScanned columnUnquoted (List.cons_ne_nil first others)

/-- Whatever else a segment holds stays within its literal. -/
theorem scan_sql_eq_iff_of_url :
    ∃ sql,
      attributeScope.field? "attributes.url.x) or (1=1" =
        some (.path ⟨"attributes", "m.attributes", [⟨"url", .url⟩]⟩ ["url", "x) or (1=1"]) ∧
      (Field.path ⟨"attributes", "m.attributes", [⟨"url", .url⟩]⟩
        ["url", "x) or (1=1"]).sql = .ok sql ∧
      sql = "(m.attributes -> 'url' ->> 'x) or (1=1')" ∧
      Lexeme.scan sql =
        some [.opening, .word "m.attributes", .word "->", .literal "url", .word "->>",
          .literal "x) or (1=1", .closing] := by
  have resolved :
      attributeScope.field? "attributes.url.x) or (1=1" =
        some (.path ⟨"attributes", "m.attributes", [⟨"url", .url⟩]⟩ ["url", "x) or (1=1"]) := by
    decide +kernel
  obtain ⟨column, sql, -, -, columnScanned, compiled, exactly⟩ :=
    scan_sql_eq_iff resolved
      (show DocumentColumn.attribute? _ "url" = some ⟨"url", .url⟩ by decide) (by decide)
  have columnIs : column = [.word "m.attributes"] := by
    rw [show Lexeme.scan "m.attributes" = some [.word "m.attributes"] by decide]
      at columnScanned
    exact (Option.some.inj columnScanned).symm
  cases compiled
  refine ⟨_, resolved, rfl, by decide, ?_⟩
  rw [exactly.2 (by decide), columnIs]
  rfl

/-- A quote in a segment ends its literal: the text behind it is no longer part of one. -/
theorem not_forall_scan_sql_eq :
    ¬ ∀ (scope : Scope) (key : String) (document : DocumentColumn) (first : String)
        (others : List String) (declared : Attribute) (column : List Lexeme) (sql : String),
      scope.field? key = some (.path document (first :: others)) →
      document.attribute? first = some declared →
      '\'' ∉ document.column.toList →
      Lexeme.scan document.column = some column →
      (Field.path document (first :: others)).sql = .ok sql →
      Lexeme.scan sql = some (pathLexemes column declared.kind (first :: others)) := by
  intro keeps
  have scanned :=
    keeps attributeScope "attributes.url.o'brien"
      ⟨"attributes", "m.attributes", [⟨"url", .url⟩]⟩ "url" ["o'brien"] ⟨"url", .url⟩
      [.word "m.attributes"] "(m.attributes -> 'url' ->> 'o'brien')" (by decide +kernel) (by decide)
      (by decide) (by decide) rfl
  exact absurd scanned (by decide)

end Field

end WhereClause
