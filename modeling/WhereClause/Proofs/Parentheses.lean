import Mathlib.Data.List.Basic

/-!
# Parentheses in a text

Parentheses are counted without regard to what is between them. Main statement: where closed texts
are joined by `and`, nothing but this `and` stands outside of parentheses.
-/

namespace WhereClause.Text

/-- How many parentheses are open behind a character; none may be closed that is not open. -/
def depthBehind? (depth : Nat) (character : Char) : Option Nat :=
  if character = '(' then some (depth + 1)
  else if character = ')' then if depth = 0 then none else some (depth - 1)
  else some depth

/-- How many parentheses are open behind a text. -/
def depthAfter? (depth : Nat) (characters : List Char) : Option Nat :=
  characters.foldlM depthBehind? depth

theorem depthAfter?_append (depth : Nat) (left right : List Char) :
    depthAfter? depth (left ++ right) =
      (depthAfter? depth left).bind fun between => depthAfter? between right :=
  List.foldlM_append

theorem depthBehind?_add
    {depth behind : Nat} {character : Char} (found : depthBehind? depth character = some behind)
    (more : Nat) : depthBehind? (depth + more) character = some (behind + more) := by
  unfold depthBehind? at found ⊢
  split_ifs at found ⊢ <;> grind

/-- Parentheses that are open before a text stay open. -/
theorem depthAfter?_add
    {depth after : Nat} {characters : List Char}
    (found : depthAfter? depth characters = some after) (more : Nat) :
    depthAfter? (depth + more) characters = some (after + more) := by
  induction characters generalizing depth with
  | nil =>
      cases found
      rfl
  | cons character rest inductionHypothesis =>
      obtain ⟨behind, head, tail⟩ := Option.bind_eq_some_iff.1 found
      exact Option.bind_eq_some_iff.2
        ⟨behind + more, depthBehind?_add head more, inductionHypothesis tail⟩

/-- Whether a text closes all parentheses that it opens, and never more than are open. -/
def IsBalanced (characters : List Char) : Prop :=
  depthAfter? 0 characters = some 0

instance : DecidablePred IsBalanced := fun characters =>
  inferInstanceAs (Decidable (depthAfter? 0 characters = some 0))

/-- Whether there are no parentheses in a text. -/
def lacksParentheses (characters : List Char) : Bool :=
  characters.all fun character => character ≠ '(' && character ≠ ')'

namespace IsBalanced

variable {left right : List Char}

theorem nil : IsBalanced [] :=
  rfl

/-- A balanced text makes no difference to the depth. -/
theorem depthAfter?_eq (balanced : IsBalanced left) (depth : Nat) :
    depthAfter? depth left = some depth := by
  have raised := depthAfter?_add balanced depth
  rwa [Nat.zero_add] at raised

theorem append_iff (balanced : IsBalanced left) :
    IsBalanced (left ++ right) ↔ IsBalanced right := by
  rw [IsBalanced, depthAfter?_append, balanced, Option.bind_some, IsBalanced]

theorem append (leftBalanced : IsBalanced left) (rightBalanced : IsBalanced right) :
    IsBalanced (left ++ right) :=
  leftBalanced.append_iff.2 rightBalanced

theorem of_lacksParentheses (lacks : lacksParentheses left = true) : IsBalanced left := by
  induction left with
  | nil =>
      exact nil
  | cons character rest inductionHypothesis =>
      rw [lacksParentheses, List.all_cons, Bool.and_eq_true, Bool.and_eq_true,
        decide_eq_true_eq, decide_eq_true_eq] at lacks
      obtain ⟨⟨notOpening, notClosing⟩, restLacks⟩ := lacks
      have same : depthBehind? 0 character = some 0 := by
        rw [depthBehind?, if_neg notOpening, if_neg notClosing]
      exact Option.bind_eq_some_iff.2 ⟨0, same, inductionHypothesis restLacks⟩

theorem enclosed (balanced : IsBalanced left) : IsBalanced ('(' :: (left ++ [')'])) := by
  have inside : depthAfter? 1 (left ++ [')']) = some 0 := by
    rw [depthAfter?_append, balanced.depthAfter?_eq 1]
    rfl
  exact inside

theorem intercalate
    {glue : String} {texts : List String} (glueBalanced : IsBalanced glue.toList)
    (balanced : ∀ text ∈ texts, IsBalanced text.toList) :
    IsBalanced (glue.intercalate texts).toList := by
  induction texts with
  | nil =>
      exact nil
  | cons text rest inductionHypothesis =>
      obtain ⟨textBalanced, restBalanced⟩ := List.forall_mem_cons.1 balanced
      cases rest with
      | nil =>
          rwa [String.intercalate_singleton]
      | cons next others =>
          rw [String.intercalate_cons_cons, String.toList_append, String.toList_append]
          exact (textBalanced.append glueBalanced).append (inductionHypothesis restBalanced)

end IsBalanced

/-- Whether a text is all between one parenthesis and the one that closes it. -/
def IsClosed (text : String) : Prop :=
  ∃ inner, text = "(" ++ inner ++ ")" ∧ IsBalanced inner.toList

theorem IsClosed.exists_toList {text : String} (closed : IsClosed text) :
    ∃ inner, text.toList = '(' :: (inner ++ [')']) ∧ IsBalanced inner := by
  obtain ⟨inner, rfl, balanced⟩ := closed
  refine ⟨inner.toList, ?_, balanced⟩
  rw [String.toList_append, String.toList_append]
  rfl

theorem IsClosed.isBalanced {text : String} (closed : IsClosed text) :
    IsBalanced text.toList := by
  obtain ⟨inner, textIs, balanced⟩ := closed.exists_toList
  rw [textIs]
  exact balanced.enclosed

/-- No part of a closed text from its beginning on is balanced. -/
theorem IsClosed.not_isBalanced_of_append
    {text : String} (closed : IsClosed text) {before left : List Char}
    (within : text.toList = before ++ left) (someBefore : before ≠ []) (someLeft : left ≠ []) :
    ¬ IsBalanced before := by
  intro balanced
  obtain ⟨inner, textIs, innerBalanced⟩ := closed.exists_toList
  obtain ⟨first, others, rfl⟩ := List.exists_cons_of_ne_nil someBefore
  obtain ⟨initial, last, rfl⟩ : ∃ initial last, left = initial ++ [last] :=
    ⟨_, _, (List.dropLast_append_getLast someLeft).symm⟩
  rw [textIs, List.cons_append, List.cons.injEq, ← List.append_assoc] at within
  obtain ⟨rfl, within⟩ := within
  have innerIs : inner = others ++ initial := List.append_inj_left' within rfl
  rw [innerIs, IsBalanced, depthAfter?_append, Option.bind_eq_some_iff] at innerBalanced
  obtain ⟨depth, found, -⟩ := innerBalanced
  -- the parenthesis that begins the text is open up to its end
  have stillOpen : depthAfter? 1 others = some (depth + 1) := by
    have raised := depthAfter?_add found 1
    rwa [Nat.zero_add] at raised
  have none : some (depth + 1) = some 0 := stillOpen.symm.trans balanced
  cases none

/-- A balanced text that begins with a closed one goes over the whole of it. -/
theorem IsClosed.eq_nil_or_exists_append
    {text : String} (closed : IsClosed text) {before after rest : List Char}
    (balanced : IsBalanced before) (same : text.toList ++ rest = before ++ after) :
    before = [] ∨
      ∃ between, IsBalanced between ∧ before = text.toList ++ between ∧
        rest = between ++ after := by
  rcases List.append_eq_append_iff.1 same with ⟨between, beforeIs, restIs⟩ | ⟨left, within, afterIs⟩
  · rw [beforeIs] at balanced
    exact Or.inr ⟨between, closed.isBalanced.append_iff.1 balanced, beforeIs, restIs⟩
  · by_cases someBefore : before = []
    · exact Or.inl someBefore
    · by_cases someLeft : left = []
      · subst someLeft
        rw [List.append_nil] at within
        exact Or.inr ⟨[], .nil, by rw [within, List.append_nil], afterIs.symm⟩
      · exact absurd balanced (closed.not_isBalanced_of_append within someBefore someLeft)

/-- Whether a word stands somewhere in a text where no parenthesis is open. -/
def StandsOutside (word text : String) : Prop :=
  ∃ before after, IsBalanced before ∧ text.toList = before ++ (word.toList ++ after)

theorem exists_toList_intercalate
    (glue : String) {text : String} (closed : IsClosed text) (rest : List String) :
    ∃ behind, (glue.intercalate (text :: rest)).toList = '(' :: behind := by
  obtain ⟨inner, textIs, -⟩ := closed.exists_toList
  cases rest with
  | nil =>
      rw [String.intercalate_singleton]
      exact ⟨_, textIs⟩
  | cons next others =>
      rw [String.intercalate_cons_cons, String.toList_append, String.toList_append, textIs]
      exact ⟨_, rfl⟩

/-- A word with the second letter of `or` and `not` does not begin within `and`, nor right before
a parenthesis. -/
theorem exists_append_of_and
    {first : Char} {before after behind : List Char} (notOpening : first ≠ '(')
    (same : (" and " : String).toList ++ '(' :: behind = before ++ first :: 'o' :: after) :
    ∃ more, before = (" and " : String).toList ++ more ∧
      '(' :: behind = more ++ first :: 'o' :: after := by
  rcases List.append_eq_append_iff.1 same with ⟨more, beforeIs, behindIs⟩ | ⟨left, andIs, wordIs⟩
  · exact ⟨more, beforeIs, behindIs⟩
  · exfalso
    match left with
    | [] =>
        exact notOpening (List.cons.inj wordIs).1
    | [_] =>
        have second := (List.cons.inj (List.cons.inj wordIs).2).1
        exact absurd second (by decide)
    | _ :: second :: _ =>
        have secondIs : 'o' = second := (List.cons.inj (List.cons.inj wordIs).2).1
        have member : 'o' ∈ (" and " : String).toList := by
          rw [andIs, secondIs]
          simp
        exact absurd member (by decide)

/-- Where closed texts are joined by `and`, no other word stands outside of them: one with the
second letter of `or` and `not` does not. -/
theorem not_standsOutside_intercalate
    {word : String} {first : Char} {others : List Char}
    (wordIs : word.toList = first :: 'o' :: others) (notOpening : first ≠ '(')
    {texts : List String} (closed : ∀ text ∈ texts, IsClosed text) :
    ¬ StandsOutside word (" and ".intercalate texts) := by
  induction texts with
  | nil =>
      rintro ⟨before, after, -, textIs⟩
      simp [wordIs] at textIs
  | cons text rest inductionHypothesis =>
      obtain ⟨textClosed, restClosed⟩ := List.forall_mem_cons.1 closed
      rintro ⟨before, after, balanced, textIs⟩
      obtain ⟨behind, begins⟩ := exists_toList_intercalate " and " textClosed rest
      have someBefore : before ≠ [] := by
        rintro rfl
        rw [begins, wordIs] at textIs
        exact notOpening (List.cons.inj textIs).1.symm
      cases rest with
      | nil =>
          rw [String.intercalate_singleton, ← List.append_nil text.toList] at textIs
          obtain ⟨between, -, -, nothing⟩ :=
            (textClosed.eq_nil_or_exists_append balanced textIs).resolve_left someBefore
          simp [wordIs] at nothing
      | cons next others =>
          rw [String.intercalate_cons_cons, String.toList_append, String.toList_append,
            List.append_assoc] at textIs
          obtain ⟨between, betweenBalanced, -, restIs⟩ :=
            (textClosed.eq_nil_or_exists_append balanced textIs).resolve_left someBefore
          obtain ⟨nextClosed, -⟩ := List.forall_mem_cons.1 restClosed
          obtain ⟨behind, nextBegins⟩ := exists_toList_intercalate " and " nextClosed others
          rw [nextBegins, wordIs] at restIs
          obtain ⟨more, rfl, moreIs⟩ := exists_append_of_and notOpening restIs
          refine inductionHypothesis restClosed ⟨more, after, ?_, ?_⟩
          · have andBalanced : IsBalanced (" and " : String).toList := by decide
            exact andBalanced.append_iff.1 betweenBalanced
          · rw [nextBegins, wordIs]
            exact moreIs

end WhereClause.Text
