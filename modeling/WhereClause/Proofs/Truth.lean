import Mathlib.Order.MinMax
import WhereClause.Connective

/-!
# Truth values of SQL

A condition on an absent value is neither true nor false. Main statements: lists side by side
combine to what each of them combines to; a combination does not fall where its operands rise; and
a negation that reaches the first of two conjuncts negates both only where the second makes no
difference.
-/

namespace WhereClause

/-- A truth value of SQL. -/
inductive Truth where
  | false
  | unknown
  | true
  deriving DecidableEq, Repr

namespace Truth

/-- What does not hold of a value holds of its negation; the unknown stays unknown. -/
def not : Truth → Truth
  | .false => .true
  | .unknown => .unknown
  | .true => .false

/-- The lesser of two values, where the unknown stands between false and true. -/
def and : Truth → Truth → Truth
  | .false, _ | _, .false => .false
  | .unknown, _ | _, .unknown => .unknown
  | .true, .true => .true

/-- The greater of two values. -/
def or : Truth → Truth → Truth
  | .true, _ | _, .true => .true
  | .unknown, _ | _, .unknown => .unknown
  | .false, .false => .false

@[simp]
theorem not_not (value : Truth) : value.not.not = value := by
  cases value <;> rfl

@[simp]
theorem true_and (value : Truth) : Truth.true.and value = value := by
  cases value <;> rfl

@[simp]
theorem and_true (value : Truth) : value.and .true = value := by
  cases value <;> rfl

@[simp]
theorem false_or (value : Truth) : Truth.false.or value = value := by
  cases value <;> rfl

@[simp]
theorem or_false (value : Truth) : value.or .false = value := by
  cases value <;> rfl

theorem and_comm (left right : Truth) : left.and right = right.and left := by
  cases left <;> cases right <;> rfl

theorem or_comm (left right : Truth) : left.or right = right.or left := by
  cases left <;> cases right <;> rfl

theorem and_assoc (first second third : Truth) :
    (first.and second).and third = first.and (second.and third) := by
  cases first <;> cases second <;> cases third <;> rfl

theorem or_assoc (first second third : Truth) :
    (first.or second).or third = first.or (second.or third) := by
  cases first <;> cases second <;> cases third <;> rfl

/-- A negation that reaches the first of two conjuncts only has the value of the negated
conjunction when the second conjunct is true, or both are unknown, and in no other
case. -/
theorem not_and_eq_not_and_iff (first rest : Truth) :
    first.not.and rest = (first.and rest).not ↔
      rest = .true ∨ (first = .unknown ∧ rest = .unknown) := by
  cases first <;> cases rest <;> decide

/-- How far up a value stands. -/
def level : Truth → Nat
  | .false => 0
  | .unknown => 1
  | .true => 2

theorem level_injective : Function.Injective level := by
  intro left right same
  cases left <;> cases right <;> simp_all [level]

/-- The unknown stands between false and true. -/
instance : LinearOrder Truth :=
  LinearOrder.lift' level level_injective

theorem and_eq_min (left right : Truth) : left.and right = min left right := by
  cases left <;> cases right <;> rfl

theorem or_eq_max (left right : Truth) : left.or right = max left right := by
  cases left <;> cases right <;> rfl

end Truth

/-! ## Combinations -/

namespace Connective

/-- The value of two operands. -/
def apply : Connective → Truth → Truth → Truth
  | .conjunction => Truth.and
  | .disjunction => Truth.or

/-- The value that changes nothing as an operand. -/
def neutral : Connective → Truth
  | .conjunction => .true
  | .disjunction => .false

/-- The value of a list of operands. -/
def combine (connective : Connective) (values : List Truth) : Truth :=
  values.foldr connective.apply connective.neutral

/-- The value of a list of operands, if there are any. -/
def combine? (connective : Connective) : List Truth → Option Truth
  | [] => none
  | values => some (connective.combine values)

variable (connective : Connective)

theorem apply_comm (left right : Truth) :
    connective.apply left right = connective.apply right left := by
  cases connective
  · exact Truth.and_comm left right
  · exact Truth.or_comm left right

theorem apply_assoc (first second third : Truth) :
    connective.apply (connective.apply first second) third =
      connective.apply first (connective.apply second third) := by
  cases connective
  · exact Truth.and_assoc first second third
  · exact Truth.or_assoc first second third

@[simp]
theorem neutral_apply (value : Truth) :
    connective.apply connective.neutral value = value := by
  cases connective
  · exact Truth.true_and value
  · exact Truth.false_or value

@[simp]
theorem apply_neutral (value : Truth) :
    connective.apply value connective.neutral = value := by
  rw [apply_comm, neutral_apply]

@[simp]
theorem combine_nil : connective.combine [] = connective.neutral :=
  rfl

@[simp]
theorem combine_cons (value : Truth) (values : List Truth) :
    connective.combine (value :: values) =
      connective.apply value (connective.combine values) :=
  rfl

theorem apply_le_apply
    {first second third fourth : Truth} (left : first ≤ second) (right : third ≤ fourth) :
    connective.apply first third ≤ connective.apply second fourth := by
  cases connective with
  | conjunction =>
      simp only [apply, Truth.and_eq_min]
      exact min_le_min left right
  | disjunction =>
      simp only [apply, Truth.or_eq_max]
      exact max_le_max left right

theorem combine_append (left right : List Truth) :
    connective.combine (left ++ right) =
      connective.apply (connective.combine left) (connective.combine right) := by
  induction left with
  | nil =>
      simp
  | cons value values inductionHypothesis =>
      simp [inductionHypothesis, apply_assoc]

theorem combine?_eq (values : List Truth) :
    connective.combine? values =
      if values = [] then none else some (connective.combine values) := by
  cases values <;> simp [combine?]

@[simp]
theorem combine?_singleton (value : Truth) :
    connective.combine? [value] = some value := by
  simp [combine?]

/-- No conjuncts at all are true, whether they count as a value or not. -/
theorem getD_combine?_conjunction (values : List Truth) :
    (Connective.conjunction.combine? values).getD .true =
      Connective.conjunction.combine values := by
  cases values <;> rfl

theorem combine?_toList (value : Option Truth) :
    connective.combine? value.toList = value := by
  cases value <;> simp [combine?]

theorem combine?_append (left right : List Truth) :
    connective.combine? (left ++ right) =
      Option.merge connective.apply (connective.combine? left)
        (connective.combine? right) := by
  cases left with
  | nil =>
      rw [List.nil_append, combine?, Option.merge_none_left]
  | cons value values =>
      cases right with
      | nil =>
          simp [combine?]
      | cons next others =>
          have joint := connective.combine_append (value :: values) (next :: others)
          simpa [combine?] using joint

/-- The value that decides a combination alone. -/
def decisive : Connective → Truth
  | .conjunction => .false
  | .disjunction => .true

variable {connective} {values : List Truth}

theorem decisive_apply (value : Truth) :
    connective.apply connective.decisive value = connective.decisive := by
  cases connective <;> cases value <;> rfl

theorem combine_eq_getD (values : List Truth) :
    connective.combine values = (connective.combine? values).getD connective.neutral := by
  cases values <;> rfl

theorem combine_of_mem_decisive (member : connective.decisive ∈ values) :
    connective.combine values = connective.decisive := by
  induction values with
  | nil =>
      cases member
  | cons value rest inductionHypothesis =>
      rw [combine_cons]
      rcases List.mem_cons.1 member with isFirst | isLater
      · rw [← isFirst, decisive_apply]
      · rw [inductionHypothesis isLater, apply_comm, decisive_apply]

theorem combine_of_forall_neutral (neutral : ∀ value ∈ values, value = connective.neutral) :
    connective.combine values = connective.neutral := by
  induction values with
  | nil =>
      rfl
  | cons value rest inductionHypothesis =>
      obtain ⟨ofFirst, ofRest⟩ := List.forall_mem_cons.1 neutral
      rw [combine_cons, ofFirst, inductionHypothesis ofRest, neutral_apply]

/-- Equal operands combine to themselves. -/
theorem forall_mem_combine?
    {value : Truth} (uniform : ∀ operand ∈ values, operand = value) :
    ∀ combined ∈ connective.combine? values, combined = value := by
  induction values with
  | nil =>
      intro combined none
      cases none
  | cons operand rest inductionHypothesis =>
      obtain ⟨ofFirst, ofRest⟩ := List.forall_mem_cons.1 uniform
      have idempotent : connective.apply value value = value := by
        cases connective <;> cases value <;> rfl
      intro combined found
      have same : connective.apply operand (connective.combine rest) = combined :=
        Option.some.inj found
      cases rest with
      | nil =>
          rw [← same, combine_nil, apply_neutral, ofFirst]
      | cons next others =>
          have tail := inductionHypothesis ofRest _ rfl
          rw [← same, tail, ofFirst, idempotent]

theorem combine_toList_combine? (first second : Connective) (nonempty : values ≠ []) :
    first.combine (second.combine? values).toList = second.combine values := by
  rw [combine?_eq, if_neg nonempty, Option.toList_some, combine_cons, combine_nil,
    apply_neutral]

theorem toList_combine?_eq_nil_iff :
    (connective.combine? values).toList = [] ↔ values = [] := by
  rw [combine?_eq]
  by_cases empty : values = []
  · simp [empty]
  · simp [empty]

/-- A single operand does not tell connectives apart. -/
theorem toList_combine?_of_length_le_one (short : values.length ≤ 1) :
    (connective.combine? values).toList = values := by
  match values with
  | [] =>
      rfl
  | [value] =>
      rw [combine?_singleton, Option.toList_some]
  | _ :: _ :: _ =>
      simp at short

end Connective

end WhereClause
