/-!
# The segments of a text

The segments of a text stand between the places of a separator. Main statement: the segments
joined again are the text.
-/

namespace WhereClause.Text

/-- The first segment of a text, and the segments after it. -/
def segments (separator : Char) : List Char → List Char × List (List Char)
  | [] => ([], [])
  | character :: rest =>
      let (first, others) := segments separator rest
      if character = separator then ([], first :: others)
      else (character :: first, others)

/-- Joins a first segment and the segments after it. -/
def joinSegments (separator : Char) : List Char → List (List Char) → List Char
  | first, [] => first
  | first, next :: others => first ++ separator :: joinSegments separator next others

/-- The segments joined again are the text. -/
theorem joinSegments_segments (separator : Char) (characters : List Char) :
    joinSegments separator (segments separator characters).1
      (segments separator characters).2 = characters := by
  induction characters with
  | nil => rfl
  | cons character rest inductionHypothesis =>
      by_cases isSeparator : character = separator
      · simp [segments, isSeparator, joinSegments, inductionHypothesis]
      · simp only [segments, isSeparator, if_false]
        generalize segments separator rest = parts at inductionHypothesis ⊢
        obtain ⟨first, others⟩ := parts
        cases others with
        | nil => simpa [joinSegments] using inductionHypothesis
        | cons next others =>
            simpa [joinSegments] using inductionHypothesis

end WhereClause.Text
