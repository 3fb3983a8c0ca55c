import Mathlib.Algebra.GroupWithZero.Nat

/-!
# Lexemes of SQL text

A string literal runs from a quote to the next quote that is not doubled, and a doubled quote
within it stands for one. Main statements: text without quotes is scanned on its own up to a
separator; a literal without quotes in it ends at the next one; and the quotes of a text are those
that its lexemes are written with.
-/

namespace WhereClause

/-- What SQL text is made of, with the blanks left out. -/
inductive Lexeme where
  | opening
  | closing
  | word (text : String)
  | literal (content : String)
  deriving DecidableEq, Repr

namespace Lexeme

/-- The word of the characters scanned so far, if there are any. -/
def ofWord (characters : List Char) : List Lexeme :=
  if characters.isEmpty then [] else [.word (String.ofList characters)]

/-- What a character between words stands for: parentheses for themselves, blanks for
nothing. -/
def ofSeparator? (character : Char) : Option (List Lexeme) :=
  if character = '(' then some [.opening]
  else if character = ')' then some [.closing]
  else if character.isWhitespace then some []
  else none

mutual

/-- Scans on outside of literals, behind the characters of an unfinished word. -/
def scanCode (word : List Char) : List Char → Option (List Lexeme)
  | [] => some (ofWord word)
  | character :: rest =>
      if character = '\'' then (scanLiteral [] rest).map (ofWord word ++ ·)
      else
        match ofSeparator? character with
        | some marks => (scanCode [] rest).map (ofWord word ++ marks ++ ·)
        | none => scanCode (word ++ [character]) rest

/-- Scans on inside a literal, behind its content so far. A quote ends it unless another
one follows. -/
def scanLiteral (content : List Char) : List Char → Option (List Lexeme)
  | [] => none
  | '\'' :: '\'' :: rest => scanLiteral (content ++ ['\'']) rest
  | '\'' :: rest => (scanCode [] rest).map (.literal (String.ofList content) :: ·)
  | character :: rest => scanLiteral (content ++ [character]) rest

end

/-- The lexemes of a text, unless a literal in it is never closed. -/
def scan (text : String) : Option (List Lexeme) :=
  scanCode [] text.toList

/-- Text without quotes is scanned on its own up to a separator. -/
theorem scanCode_append
    {left : List Char} (unquoted : '\'' ∉ left) (word : List Char)
    {separator : Char} {marks : List Lexeme}
    (separates : ofSeparator? separator = some marks) (right : List Char) :
    ∃ lexemes, scanCode word left = some lexemes ∧
      scanCode word (left ++ separator :: right) =
        (scanCode [] right).map (lexemes ++ marks ++ ·) := by
  induction left generalizing word with
  | nil =>
      have notQuote : separator ≠ '\'' := by
        rintro rfl
        cases separates
      refine ⟨ofWord word, by rw [scanCode], ?_⟩
      rw [List.nil_append, scanCode, if_neg notQuote, separates]
  | cons character rest inductionHypothesis =>
      rw [List.mem_cons, not_or] at unquoted
      obtain ⟨different, restUnquoted⟩ := unquoted
      rw [List.cons_append, scanCode, scanCode, if_neg (Ne.symm different),
        if_neg (Ne.symm different)]
      cases ofSeparator? character with
      | none =>
          exact inductionHypothesis restUnquoted (word ++ [character])
      | some between =>
          obtain ⟨lexemes, scanned, split⟩ := inductionHypothesis restUnquoted []
          refine ⟨ofWord word ++ between ++ lexemes, by simp [scanned], ?_⟩
          simp only [split, Option.map_map]
          congr 1
          funext later
          simp [List.append_assoc]

/-- A literal without quotes in it ends at the next one. -/
theorem scanLiteral_append
    {segment : List Char} (unquoted : '\'' ∉ segment) (content : List Char)
    {right : List Char} (alone : right.head? ≠ some '\'') :
    scanLiteral content (segment ++ '\'' :: right) =
      (scanCode [] right).map (.literal (String.ofList (content ++ segment)) :: ·) := by
  induction segment generalizing content with
  | nil =>
      rw [List.nil_append, scanLiteral, List.append_nil]
      rintro rest rfl
      exact alone rfl
  | cons character rest inductionHypothesis =>
      rw [List.mem_cons, not_or] at unquoted
      obtain ⟨different, restUnquoted⟩ := unquoted
      rw [List.cons_append, scanLiteral, inductionHypothesis restUnquoted,
        List.append_assoc, List.singleton_append]
      · rintro _ rfl
        exact absurd rfl different
      · rintro rfl
        exact absurd rfl different

/-- How many quotes a lexeme is written with. -/
def quotes : Lexeme → Nat
  | .literal content => 2 * content.toList.count '\'' + 2
  | _ => 0

theorem sum_quotes_ofWord (word : List Char) : ((ofWord word).map quotes).sum = 0 := by
  rw [ofWord]
  split <;> rfl

theorem sum_quotes_ofSeparator?
    {character : Char} {marks : List Lexeme} (separates : ofSeparator? character = some marks) :
    (marks.map quotes).sum = 0 := by
  rw [ofSeparator?] at separates
  split at separates
  · cases separates
    rfl
  · split at separates
    · cases separates
      rfl
    · split at separates
      · cases separates
        rfl
      · cases separates

mutual

/-- The quotes of a text are those that its lexemes are written with. -/
theorem count_quote_of_scanCode
    {word characters : List Char} {lexemes : List Lexeme}
    (scanned : scanCode word characters = some lexemes) :
    characters.count '\'' = (lexemes.map quotes).sum := by
  cases characters with
  | nil =>
      rw [scanCode] at scanned
      cases scanned
      rw [sum_quotes_ofWord, List.count_nil]
  | cons character rest =>
      rw [scanCode] at scanned
      split at scanned
      · rename_i isQuote
        obtain ⟨later, laterScanned, rfl⟩ := Option.map_eq_some_iff.1 scanned
        have inside := count_quote_of_scanLiteral laterScanned
        rw [isQuote, List.count_cons_self, List.map_append, List.sum_append,
          sum_quotes_ofWord]
        simpa using inside
      · rename_i notQuote
        rw [List.count_cons_of_ne notQuote]
        split at scanned
        · rename_i marks separates
          obtain ⟨later, laterScanned, rfl⟩ := Option.map_eq_some_iff.1 scanned
          rw [count_quote_of_scanCode laterScanned]
          simp [sum_quotes_ofWord, sum_quotes_ofSeparator? separates]
        · exact count_quote_of_scanCode scanned

theorem count_quote_of_scanLiteral
    {content characters : List Char} {lexemes : List Lexeme}
    (scanned : scanLiteral content characters = some lexemes) :
    characters.count '\'' + 2 * content.count '\'' + 1 = (lexemes.map quotes).sum := by
  unfold scanLiteral at scanned
  split at scanned
  · cases scanned
  · rename_i rest
    have inside := count_quote_of_scanLiteral scanned
    simp only [List.count_append, List.count_cons_self, List.count_nil] at inside ⊢
    omega
  · rename_i rest _
    obtain ⟨later, laterScanned, rfl⟩ := Option.map_eq_some_iff.1 scanned
    rw [List.count_cons_self, count_quote_of_scanCode laterScanned, List.map_cons,
      List.sum_cons, quotes, String.toList_ofList]
    omega
  · rename_i character rest _ notQuote
    have different : character ≠ '\'' := fun same => notQuote same
    have inside := count_quote_of_scanLiteral scanned
    rw [List.count_append, List.count_singleton] at inside
    rw [List.count_cons_of_ne different]
    simpa [different] using inside

end

end Lexeme

end WhereClause
