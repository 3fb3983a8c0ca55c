import WhereClause.Phrase

/-!
# Placeholders in a text

Main statements: a text that ends in a separator can be scanned on its own, so the placeholders of
a phrase are those of its conditions one after the other; and texts with colons in pairs only have
none.
-/

namespace WhereClause.Text

/-- Whether a character may stand in a name. -/
def isWordCharacter (character : Char) : Bool :=
  character.isAlphanum || character = '_'

/-- The names behind the colons that are not next to another colon. -/
def placeholdersFrom (afterColon : Bool) : List Char → List String
  | [] => []
  | character :: rest =>
      if character = ':' then
        if afterColon || rest.head? = some ':' then placeholdersFrom true rest
        else String.ofList (rest.takeWhile isWordCharacter) :: placeholdersFrom true rest
      else placeholdersFrom false rest

/-- The placeholders of a text from left to right: a colon not next to another one, and the
longest run of word characters behind it. -/
def placeholders (text : String) : List String :=
  placeholdersFrom false text.toList

/-- Whether every character of a text may stand in a name. -/
def isWord (text : String) : Bool :=
  text.toList.all isWordCharacter

/-- Whether colons come in pairs only. -/
def colonsPaired : List Char → Bool
  | [] => true
  | ':' :: ':' :: rest => colonsPaired rest
  | character :: rest => character ≠ ':' && colonsPaired rest

/-- Whether a character is neither a colon nor part of a name. -/
def isSeparator (character : Char) : Bool :=
  character ≠ ':' && !isWordCharacter character

theorem ne_colon_of_isWordCharacter
    {character : Char} (word : isWordCharacter character) : character ≠ ':' := by
  rintro rfl
  exact absurd word (by decide)

theorem ne_colon_of_isSeparator
    {character : Char} (separator : isSeparator character) : character ≠ ':' := by
  rintro rfl
  exact absurd separator (by decide)

theorem isWordCharacter_of_isSeparator
    {character : Char} (separator : isSeparator character) :
    isWordCharacter character = false := by
  rw [isSeparator, Bool.and_eq_true, Bool.not_eq_true'] at separator
  exact separator.2

theorem isWord_append
    {left right : String} (leftWord : isWord left) (rightWord : isWord right) :
    isWord (left ++ right) := by
  rw [isWord] at leftWord rightWord
  rw [isWord, String.toList_append, List.all_append, leftWord, rightWord]
  rfl

theorem isWord_intercalate
    {segments : List String} (words : ∀ segment ∈ segments, isWord segment) :
    isWord ("_".intercalate segments) := by
  induction segments with
  | nil =>
      rfl
  | cons segment rest inductionHypothesis =>
      obtain ⟨segmentWord, restWords⟩ := List.forall_mem_cons.1 words
      cases rest with
      | nil =>
          simpa using segmentWord
      | cons next others =>
          rw [String.intercalate_cons_cons]
          exact isWord_append (isWord_append segmentWord rfl)
            (inductionHypothesis restWords)

theorem placeholdersFrom_of_ne
    {character : Char} (different : character ≠ ':') (afterColon : Bool)
    (rest : List Char) :
    placeholdersFrom afterColon (character :: rest) = placeholdersFrom false rest := by
  rw [placeholdersFrom, if_neg different]

/-- A text is scanned up to a separator and on from there. -/
theorem placeholdersFrom_append
    {separator : Char} (separates : isSeparator separator) (afterColon : Bool)
    (left right : List Char) :
    placeholdersFrom afterColon (left ++ separator :: right) =
      placeholdersFrom afterColon (left ++ [separator]) ++
        placeholdersFrom false right := by
  have different := ne_colon_of_isSeparator separates
  have notWord := isWordCharacter_of_isSeparator separates
  induction left generalizing afterColon with
  | nil =>
      simp [placeholdersFrom, different]
  | cons character rest inductionHypothesis =>
      have sameHead :
          (rest ++ separator :: right).head? = (rest ++ [separator]).head? := by
        cases rest <;> rfl
      have sameRun :
          (rest ++ separator :: right).takeWhile isWordCharacter =
            (rest ++ [separator]).takeWhile isWordCharacter := by
        simp [List.takeWhile_append, notWord]
      simp only [List.cons_append, placeholdersFrom, sameHead, sameRun,
        inductionHypothesis]
      split
      · split
        · rfl
        · rfl
      · rfl

theorem colonsPaired_append
    {left right : List Char} (leftPaired : colonsPaired left)
    (rightPaired : colonsPaired right) : colonsPaired (left ++ right) := by
  induction left using colonsPaired.induct with
  | case1 =>
      exact rightPaired
  | case2 rest inductionHypothesis =>
      exact inductionHypothesis leftPaired
  | case3 character rest notPair inductionHypothesis =>
      rw [colonsPaired, Bool.and_eq_true, decide_eq_true_eq] at leftPaired
      · obtain ⟨different, restPaired⟩ := leftPaired
        rw [List.cons_append, colonsPaired, inductionHypothesis restPaired]
        · simp [different]
        · rintro _ rfl
          exact absurd rfl different
      · exact notPair

/-- There is no placeholder up to a separator where colons come in pairs only. -/
theorem placeholdersFrom_of_colonsPaired
    {separator : Char} (separates : isSeparator separator) (afterColon : Bool)
    {left : List Char} (paired : colonsPaired left) (right : List Char) :
    placeholdersFrom afterColon (left ++ separator :: right) =
      placeholdersFrom false right := by
  have separatorDiffers := ne_colon_of_isSeparator separates
  induction left using colonsPaired.induct generalizing afterColon with
  | case1 =>
      exact placeholdersFrom_of_ne separatorDiffers afterColon right
  | case2 rest inductionHypothesis =>
      simpa [placeholdersFrom] using inductionHypothesis true paired
  | case3 character rest notPair inductionHypothesis =>
      rw [colonsPaired, Bool.and_eq_true, decide_eq_true_eq] at paired
      · rw [List.cons_append, placeholdersFrom_of_ne paired.1]
        exact inductionHypothesis false paired.2
      · exact notPair

theorem colonsPaired_of_ne
    {characters : List Char} (different : ∀ character ∈ characters, character ≠ ':') :
    colonsPaired characters := by
  induction characters with
  | nil =>
      rfl
  | cons character rest inductionHypothesis =>
      obtain ⟨headDiffers, restDiffers⟩ := List.forall_mem_cons.1 different
      rw [colonsPaired, inductionHypothesis restDiffers]
      · simp [headDiffers]
      · rintro _ rfl
        exact absurd rfl headDiffers

theorem colonsPaired_of_isWord
    {text : String} (word : isWord text) : colonsPaired text.toList := by
  refine colonsPaired_of_ne fun character member => ?_
  exact ne_colon_of_isWordCharacter (List.all_eq_true.1 word character member)

/-- A name behind a colon is a placeholder. -/
theorem placeholdersFrom_name
    {name : String} (word : isWord name)
    {separator : Char} (separates : isSeparator separator) (right : List Char) :
    placeholdersFrom false (':' :: (name.toList ++ separator :: right)) =
      name :: placeholdersFrom false right := by
  have notWord := isWordCharacter_of_isSeparator separates
  have run :
      (name.toList ++ separator :: right).takeWhile isWordCharacter = name.toList := by
    rw [List.takeWhile_append_of_pos (List.all_eq_true.1 word)]
    simp [notWord]
  have alone :
      ¬(false || decide ((name.toList ++ separator :: right).head? = some ':')) := by
    rw [Bool.false_or, decide_eq_true_eq]
    cases found : name.toList with
    | nil =>
        simpa using ne_colon_of_isSeparator separates
    | cons first rest =>
        have firstWord : isWordCharacter first :=
          List.all_eq_true.1 word first (by simp [found])
        simpa using ne_colon_of_isWordCharacter firstWord
  rw [placeholdersFrom, if_pos rfl, if_neg alone,
    placeholdersFrom_of_colonsPaired separates true (colonsPaired_of_isWord word), run,
    String.ofList_toList]

/-- Names behind colons are placeholders, whatever glue is between them. -/
theorem placeholdersFrom_intercalate
    {glue : String} {first last closing : Char} {middle : List Char}
    (glueIs : glue.toList = first :: (middle ++ [last]))
    (firstSeparates : isSeparator first) (middlePaired : colonsPaired middle)
    (lastSeparates : isSeparator last) (closingSeparates : isSeparator closing)
    {names : List String} (words : ∀ name ∈ names, isWord name) (right : List Char) :
    placeholdersFrom false
        ((glue.intercalate (names.map fun name => ":" ++ name)).toList ++
          closing :: right) =
      names ++ placeholdersFrom false right := by
  have character : (":" : String).toList = [':'] := rfl
  induction names with
  | nil =>
      exact placeholdersFrom_of_ne (ne_colon_of_isSeparator closingSeparates) false right
  | cons name rest inductionHypothesis =>
      obtain ⟨nameWord, restWords⟩ := List.forall_mem_cons.1 words
      cases rest with
      | nil =>
          rw [List.map_singleton, String.intercalate_singleton, String.toList_append,
            character]
          exact placeholdersFrom_name nameWord closingSeparates right
      | cons next others =>
          have later := inductionHypothesis restWords
          simp only [List.map_cons, String.intercalate_cons_cons, String.toList_append,
            glueIs, character, List.append_assoc, List.cons_append, List.nil_append]
            at later ⊢
          -- the name ends where the glue begins
          rw [placeholdersFrom_name nameWord firstSeparates,
            placeholdersFrom_of_colonsPaired lastSeparates false middlePaired, later]

/-- Whether nothing behind the text can change its placeholders. -/
def EndsInSeparator (text : String) : Prop :=
  ∃ initial last, text.toList = initial ++ [last] ∧ isSeparator last

theorem placeholders_append
    {left : String} (ends : EndsInSeparator left) (right : String) :
    placeholders (left ++ right) = placeholders left ++ placeholders right := by
  obtain ⟨initial, last, leftIs, separates⟩ := ends
  rw [placeholders, String.toList_append, leftIs, List.append_assoc,
    List.singleton_append, placeholdersFrom_append separates, ← leftIs]
  rfl

end WhereClause.Text
