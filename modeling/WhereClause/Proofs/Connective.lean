import Mathlib.Data.List.TakeWhile
import WhereClause.Filter

/-!
# Keys that name connectives

Main statement: a connective is named by the keys that spell its word, in small letters or
capitals, between blanks; every key has one spelling, which is kept where the key names no
connective.
-/

namespace WhereClause

namespace Text

/-- Blanks have no case. -/
theorem toLower_of_isBlank {character : Char} (blank : isBlank character = true) :
    character.toLower = character := by
  have notCapital : ¬ (65 ≤ character.toNat ∧ character.toNat ≤ 90) := by
    simp only [isBlank, blankRanges, List.any_cons, List.any_nil, Bool.or_eq_true,
      Bool.and_eq_true, decide_eq_true_eq, Bool.or_false] at blank
    omega
  exact dif_neg notCapital

theorem dropWhile_append_of_solid
    {word : List Char} (some : word ≠ [])
    (solid : ∀ character ∈ word, isBlank character = false) (rest : List Char) :
    (word ++ rest).dropWhile isBlank = word ++ rest := by
  obtain ⟨first, others, rfl⟩ := List.exists_cons_of_ne_nil some
  have solidFirst := solid first List.mem_cons_self
  exact List.dropWhile_cons_of_neg (by simp [solidFirst])

theorem trim_append
    {before word after : List Char} (blankBefore : ∀ character ∈ before, isBlank character = true)
    (some : word ≠ [])
    (solid : ∀ character ∈ word, isBlank character = false)
    (blankAfter : ∀ character ∈ after, isBlank character = true) :
    trim (before ++ (word ++ after)) = word := by
  have front : (before ++ (word ++ after)).dropWhile isBlank = word ++ after := by
    rw [List.dropWhile_append_of_pos blankBefore, dropWhile_append_of_solid some solid]
  have back : (after.reverse ++ word.reverse).dropWhile isBlank = word.reverse := by
    rw [List.dropWhile_append_of_pos (by simpa using blankAfter), ← List.append_nil word.reverse,
      dropWhile_append_of_solid (by simpa using some) (by simpa using solid)]
  rw [trim, front, List.reverse_append, back, List.reverse_reverse]

theorem exists_append_trim (text : List Char) :
    ∃ before after, text = before ++ (trim text ++ after) ∧
      (∀ character ∈ before, isBlank character = true) ∧
      ∀ character ∈ after, isBlank character = true := by
  let rest := text.dropWhile isBlank
  have front : text.takeWhile isBlank ++ rest = text := List.takeWhile_append_dropWhile
  have back : trim text ++ (rest.reverse.takeWhile isBlank).reverse = rest := by
    rw [trim, ← List.reverse_append, List.takeWhile_append_dropWhile, List.reverse_reverse]
  refine ⟨text.takeWhile isBlank, (rest.reverse.takeWhile isBlank).reverse, ?_, ?_, ?_⟩
  · rw [back, front]
  · exact fun character member => List.mem_takeWhile_imp member
  · exact fun character member => List.mem_takeWhile_imp (List.mem_reverse.1 member)

/-- A word has no blank, if the word that it spells has none. -/
theorem isBlank_eq_false_of_mem
    {word : List Char} {spelled : String}
    (same : sameUpToCase (String.ofList word) spelled = true)
    (solid : (fold spelled).all (fun character => !isBlank character) = true) :
    ∀ character ∈ word, isBlank character = false := by
  intro character member
  rw [sameUpToCase, decide_eq_true_eq, fold, String.toList_ofList] at same
  have small : character.toLower ∈ fold spelled := by
    rw [← same]
    exact List.mem_map_of_mem member
  have solidSmall := List.all_eq_true.1 solid _ small
  rw [Bool.not_eq_true'] at solidSmall
  by_contra blank
  rw [Bool.not_eq_false] at blank
  rw [toLower_of_isBlank blank, blank] at solidSmall
  cases solidSmall

end Text

namespace Connective

theorem ofKey?_eq_some_iff_sameUpToCase {key : String} {connective : Connective} :
    ofKey? key = some connective ↔
      Text.sameUpToCase (String.ofList (Text.trim key.toList)) connective.sql = true := by
  have sqlConjunction : conjunction.sql = "and" := rfl
  have sqlDisjunction : disjunction.sql = "or" := rfl
  rw [ofKey?]
  generalize String.ofList (Text.trim key.toList) = trimmed
  by_cases isAnd : Text.sameUpToCase trimmed "and" = true
  · -- no text is a spelling of both words
    have notOr : Text.sameUpToCase trimmed "or" = false := by
      rw [Text.sameUpToCase, decide_eq_true_eq] at isAnd
      rw [Text.sameUpToCase, isAnd]
      decide
    cases connective <;> simp [isAnd, notOr, sqlConjunction, sqlDisjunction]
  · cases connective <;> simp [isAnd, sqlConjunction, sqlDisjunction]

/-- The letters of a connective, as SQL has them. -/
def letters : Connective → List Char
  | .conjunction => ['a', 'n', 'd']
  | .disjunction => ['o', 'r']

/-- Whether a key spells a connective: its letters, small or capital, between blanks. -/
def IsSpelledBy (connective : Connective) (key : String) : Prop :=
  ∃ before word after, key.toList = before ++ (word ++ after) ∧
    (∀ character ∈ before, Text.isBlank character = true) ∧
    word.map Char.toLower = connective.letters ∧
    ∀ character ∈ after, Text.isBlank character = true

theorem sameUpToCase_sql_iff {word : List Char} {connective : Connective} :
    Text.sameUpToCase (String.ofList word) connective.sql = true ↔
      word.map Char.toLower = connective.letters := by
  have letters : Text.fold connective.sql = connective.letters := by
    cases connective <;> rfl
  rw [Text.sameUpToCase, decide_eq_true_eq, letters, Text.fold, String.toList_ofList]

/-- A key names the connective that it spells. -/
theorem ofKey?_eq_some_iff {key : String} {connective : Connective} :
    ofKey? key = some connective ↔ connective.IsSpelledBy key := by
  rw [ofKey?_eq_some_iff_sameUpToCase]
  constructor
  · intro same
    obtain ⟨before, after, parts, blankBefore, blankAfter⟩ := Text.exists_append_trim key.toList
    exact ⟨before, _, after, parts, blankBefore, sameUpToCase_sql_iff.1 same, blankAfter⟩
  · rintro ⟨before, word, after, parts, blankBefore, spelled, blankAfter⟩
    have same := sameUpToCase_sql_iff.2 spelled
    have solid := Text.isBlank_eq_false_of_mem same (by cases connective <;> decide)
    have some : word ≠ [] := by
      rintro rfl
      cases connective <;> cases spelled
    rwa [parts, Text.trim_append blankBefore some solid blankAfter]

theorem ofKey?_eq_none_iff {key : String} :
    ofKey? key = none ↔ ∀ connective : Connective, ¬connective.IsSpelledBy key := by
  simp only [Option.eq_none_iff_forall_ne_some, ne_eq, ofKey?_eq_some_iff]

/-- Capitals between blanks spell `and`; `not` is no connective, however it is spelled. -/
example : ofKey? "\t AND " = some .conjunction ∧ ofKey? " NOT" = none := by
  decide

/-- A key in one spelling: the one of SQL where it names a connective, its own otherwise. -/
def canonicalKey (key : String) : String :=
  match ofKey? key with
  | some connective => connective.sql
  | none => key

theorem ofKey?_sql (connective : Connective) : ofKey? connective.sql = some connective := by
  cases connective <;> rfl

theorem canonicalKey_of_eq_some
    {key : String} {connective : Connective} (named : ofKey? key = some connective) :
    canonicalKey key = connective.sql := by
  rw [canonicalKey, named]

theorem canonicalKey_of_eq_none {key : String} (unnamed : ofKey? key = none) :
    canonicalKey key = key := by
  rw [canonicalKey, unnamed]

theorem ofKey?_canonicalKey (key : String) : ofKey? (canonicalKey key) = ofKey? key := by
  cases named : ofKey? key with
  | none =>
      rw [canonicalKey_of_eq_none named, named]
  | some connective =>
      rw [canonicalKey_of_eq_some named, ofKey?_sql]

theorem canonicalKey_canonicalKey (key : String) :
    canonicalKey (canonicalKey key) = canonicalKey key := by
  cases named : ofKey? key with
  | none =>
      rw [canonicalKey_of_eq_none named, canonicalKey_of_eq_none named]
  | some connective =>
      rw [canonicalKey_of_eq_some named, canonicalKey_of_eq_some (ofKey?_sql connective)]

/-- Two keys are the same in one spelling exactly if they name the same connective, or are the
same key. -/
theorem canonicalKey_eq_iff {key other : String} :
    canonicalKey key = canonicalKey other ↔
      key = other ∨
        ∃ connective, ofKey? key = some connective ∧ ofKey? other = some connective := by
  constructor
  · intro same
    have sameName : ofKey? key = ofKey? other := by
      rw [← ofKey?_canonicalKey key, same, ofKey?_canonicalKey]
    cases named : ofKey? key with
    | none =>
        rw [named] at sameName
        rw [canonicalKey_of_eq_none named, canonicalKey_of_eq_none sameName.symm] at same
        exact Or.inl same
    | some connective =>
        exact Or.inr ⟨connective, rfl, by rw [← sameName, named]⟩
  · rintro (rfl | ⟨connective, named, otherNamed⟩)
    · rfl
    · rw [canonicalKey_of_eq_some named, canonicalKey_of_eq_some otherNamed]

end Connective

theorem KeyRole.ofKey_canonicalKey (key : String) :
    ofKey (Connective.canonicalKey key) = ofKey key := by
  rw [ofKey, ofKey, Connective.ofKey?_canonicalKey]
  cases named : Connective.ofKey? key with
  | none =>
      rw [Connective.canonicalKey_of_eq_none named]
  | some connective =>
      rfl

end WhereClause
