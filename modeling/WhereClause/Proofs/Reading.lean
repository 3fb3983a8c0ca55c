import Mathlib.Data.List.Forall2
import WhereClause.Phrase
import WhereClause.Proofs.Truth

/-!
# Reading phrases with the precedence of SQL

In SQL `not` binds tighter than `and`, `and` tighter than `or`, and parentheses override. The
grammar says which readings there are; the reader finds the value in one pass. Main statements:
the reader finds exactly the readings of the grammar, so a phrase has at most one value; and
phrases that are joined or united read as the combination of their parts.
-/

namespace WhereClause

/-- How tightly the outermost connective of a phrase binds. -/
inductive Rank where
  | unit
  | factor
  | product
  | sum
  deriving DecidableEq, Repr

/-- The readings of phrases, where `truth` gives the values of the atoms. -/
inductive Reads (truth : String → Truth) : Rank → Phrase → Truth → Prop
  | atom (text : String) : Reads truth .unit (Phrase.atom text) (truth text)
  | tautology : Reads truth .unit Phrase.tautology .true
  | enclosed {phrase : Phrase} {value : Truth} :
      Reads truth .sum phrase value →
      Reads truth .unit (Phrase.enclosed phrase) value
  | unit {phrase : Phrase} {value : Truth} :
      Reads truth .unit phrase value → Reads truth .factor phrase value
  | negated {phrase : Phrase} {value : Truth} :
      Reads truth .factor phrase value →
      Reads truth .factor (.negation :: phrase) value.not
  | factor {phrase : Phrase} {value : Truth} :
      Reads truth .factor phrase value → Reads truth .product phrase value
  | both {left right : Phrase} {first second : Truth} :
      Reads truth .product left first →
      Reads truth .factor right second →
      Reads truth .product (left ++ .junction .conjunction :: right)
        (first.and second)
  | product {phrase : Phrase} {value : Truth} :
      Reads truth .product phrase value → Reads truth .sum phrase value
  | either {left right : Phrase} {first second : Truth} :
      Reads truth .sum left first →
      Reads truth .product right second →
      Reads truth .sum (left ++ .junction .disjunction :: right)
        (first.or second)

/-! ## The reader -/

/-- What has been read of a phrase between two parentheses: the sum of its products before
the last one, the last product so far, and whether the next operand is negated. -/
structure Progress where
  sum : Truth
  product : Truth
  negated : Bool
  deriving DecidableEq, Repr

namespace Progress

def start : Progress :=
  ⟨.false, .true, false⟩

def negate (progress : Progress) : Progress :=
  { progress with negated := !progress.negated }

def take (progress : Progress) (value : Truth) : Progress :=
  ⟨progress.sum,
    progress.product.and (if progress.negated then value.not else value), false⟩

/-- The value of what has been read. -/
def value (progress : Progress) : Truth :=
  progress.sum.or progress.product

end Progress

namespace Phrase

variable (truth : String → Truth)

mutual

/-- Reads on where an operand is due; `outer` is the progress outside of each open
parenthesis. -/
def readOperand (outer : List Progress) (progress : Progress) :
    Phrase → Option Truth
  | .atom text :: rest => readOn outer (progress.take (truth text)) rest
  | .tautology :: rest => readOn outer (progress.take .true) rest
  | .opening :: rest => readOperand (progress :: outer) .start rest
  | .negation :: rest => readOperand outer progress.negate rest
  | _ => none

/-- Reads on after an operand. -/
def readOn (outer : List Progress) (progress : Progress) :
    Phrase → Option Truth
  | [] => if outer.isEmpty then some progress.value else none
  | .closing :: rest =>
      match outer with
      | [] => none
      | enclosing :: others =>
          readOn others (enclosing.take progress.value) rest
  | .junction .conjunction :: rest => readOperand outer progress rest
  | .junction .disjunction :: rest =>
      readOperand outer ⟨progress.value, .true, false⟩ rest
  | _ => none

end

/-- The value of a phrase, if it can be read. -/
def value? (phrase : Phrase) : Option Truth :=
  readOperand truth [] .start phrase

end Phrase

section Complete

variable {truth : String → Truth}

/-- How the reader passes over a phrase of each rank. After a sum its last product stays
open, so that the sum is split there. -/
def Rank.Passes (truth : String → Truth) (phrase : Phrase) (value : Truth) :
    Rank → Prop
  | .unit | .factor =>
      ∀ outer progress rest,
        Phrase.readOperand truth outer progress (phrase ++ rest) =
          Phrase.readOn truth outer (progress.take value) rest
  | .product =>
      ∀ outer sum product rest,
        Phrase.readOperand truth outer ⟨sum, product, false⟩ (phrase ++ rest) =
          Phrase.readOn truth outer ⟨sum, product.and value, false⟩ rest
  | .sum =>
      ∃ before last, before.or last = value ∧
        ∀ outer sum rest,
          Phrase.readOperand truth outer ⟨sum, .true, false⟩ (phrase ++ rest) =
            Phrase.readOn truth outer ⟨sum.or before, last, false⟩ rest

theorem Reads.passes
    {rank : Rank} {phrase : Phrase} {value : Truth}
    (reading : Reads truth rank phrase value) :
    rank.Passes truth phrase value := by
  induction reading with
  | atom text =>
      intro outer progress rest
      rfl
  | tautology =>
      intro outer progress rest
      rfl
  | @enclosed phrase value _ inductionHypothesis =>
      obtain ⟨before, last, split, passes⟩ := inductionHypothesis
      intro outer progress rest
      have inside := passes (progress :: outer) .false (.closing :: rest)
      simpa [Phrase.enclosed, Phrase.readOperand, Phrase.readOn, Progress.start,
        Progress.value, split] using inside
  | unit _ inductionHypothesis =>
      exact inductionHypothesis
  | @negated phrase value _ inductionHypothesis =>
      intro outer progress rest
      rw [List.cons_append, Phrase.readOperand, inductionHypothesis]
      cases negated : progress.negated <;>
        simp [Progress.take, Progress.negate, negated]
  | factor _ inductionHypothesis =>
      intro outer sum product rest
      exact inductionHypothesis outer ⟨sum, product, false⟩ rest
  | @both left right first second _ _ leftPasses rightPasses =>
      intro outer sum product rest
      rw [List.append_assoc, leftPasses, List.cons_append, Phrase.readOn,
        rightPasses]
      simp [Progress.take, Truth.and_assoc]
  | @product phrase value _ inductionHypothesis =>
      refine ⟨.false, value, Truth.false_or value, ?_⟩
      intro outer sum rest
      rw [inductionHypothesis]
      simp
  | @either left right first second _ _ leftPasses rightPasses =>
      obtain ⟨before, last, split, passes⟩ := leftPasses
      refine ⟨first, second, rfl, ?_⟩
      intro outer sum rest
      rw [List.append_assoc, passes, List.cons_append, Phrase.readOn,
        rightPasses]
      simp [Progress.value, Truth.or_assoc, split]

theorem Reads.value?_eq
    {phrase : Phrase} {value : Truth} (reading : Reads truth .sum phrase value) :
    phrase.value? truth = some value := by
  obtain ⟨before, last, split, passes⟩ := reading.passes
  have read := passes [] .false []
  simpa [Phrase.value?, Progress.start, Phrase.readOn, Progress.value, split]
    using read

end Complete

section Sound

variable {truth : String → Truth}

/-- The products of a sum before the last one, with the `or` after them. -/
inductive ReadsBefore (truth : String → Truth) (connective : Connective)
    (rank : Rank) : Phrase → Truth → Prop
  | none : ReadsBefore truth connective rank [] connective.neutral
  | some {phrase : Phrase} {value : Truth} :
      Reads truth rank phrase value →
      ReadsBefore truth connective rank (phrase ++ [.junction connective]) value

/-- What has been read where an operand is due. -/
inductive Progress.Awaits (truth : String → Truth) :
    Progress → Phrase → Prop
  | clear {before last : Phrase} {sum product : Truth} :
      ReadsBefore truth .disjunction .sum before sum →
      ReadsBefore truth .conjunction .product last product →
      Progress.Awaits truth ⟨sum, product, false⟩ (before ++ last)
  | negate {progress : Progress} {phrase : Phrase} :
      Progress.Awaits truth progress phrase →
      Progress.Awaits truth progress.negate (phrase ++ [.negation])

/-- What has been read where an operand has just been read. -/
inductive Progress.Follows (truth : String → Truth) :
    Progress → Phrase → Prop
  | mk {before last : Phrase} {sum product : Truth} :
      ReadsBefore truth .disjunction .sum before sum →
      Reads truth .product last product →
      Progress.Follows truth ⟨sum, product, false⟩ (before ++ last)

/-- What has been read outside of the open parentheses. -/
inductive Outside (truth : String → Truth) :
    List Progress → Phrase → Prop
  | none : Outside truth [] []
  | open {outer : List Progress} {progress : Progress} {before phrase : Phrase} :
      Outside truth outer before →
      Progress.Awaits truth progress phrase →
      Outside truth (progress :: outer) (before ++ phrase ++ [.opening])

theorem ReadsBefore.product
    {before phrase : Phrase} {first second : Truth}
    (left : ReadsBefore truth .conjunction .product before first)
    (right : Reads truth .factor phrase second) :
    Reads truth .product (before ++ phrase) (first.and second) := by
  cases left with
  | none =>
      simpa [Connective.neutral] using right.factor
  | some left =>
      simpa using left.both right

theorem ReadsBefore.sum
    {before phrase : Phrase} {first second : Truth}
    (left : ReadsBefore truth .disjunction .sum before first)
    (right : Reads truth .product phrase second) :
    Reads truth .sum (before ++ phrase) (first.or second) := by
  cases left with
  | none =>
      simpa [Connective.neutral] using right.product
  | some left =>
      simpa using left.either right

theorem Progress.Follows.reads
    {progress : Progress} {phrase : Phrase}
    (follows : progress.Follows truth phrase) :
    Reads truth .sum phrase progress.value := by
  cases follows with
  | mk before last =>
      exact before.sum last

/-- An operand that is read completes what has been read. -/
theorem Progress.Awaits.take
    {progress : Progress} {phrase operand : Phrase} {value : Truth}
    (awaits : progress.Awaits truth phrase)
    (reading : Reads truth .factor operand value) :
    (progress.take value).Follows truth (phrase ++ operand) := by
  induction awaits generalizing operand value with
  | @clear before last sum product first second =>
      rw [List.append_assoc]
      exact .mk first (second.product reading)
  | @negate progress phrase _ inductionHypothesis =>
      have taken := inductionHypothesis reading.negated
      have same : progress.negate.take value = progress.take value.not := by
        cases negated : progress.negated <;>
          simp [Progress.take, Progress.negate, negated]
      rw [same, List.append_assoc]
      exact taken

mutual

theorem reads_of_readOperand
    {outer : List Progress} {progress : Progress} {before phrase rest : Phrase}
    {value : Truth}
    (outside : Outside truth outer before)
    (awaits : progress.Awaits truth phrase)
    (read : Phrase.readOperand truth outer progress rest = some value) :
    Reads truth .sum (before ++ phrase ++ rest) value := by
  cases rest with
  | nil =>
      simp [Phrase.readOperand] at read
  | cons symbol rest =>
      cases symbol with
      | atom text =>
          have taken := awaits.take (Reads.atom text).unit
          simpa [Phrase.atom] using reads_of_readOn outside taken read
      | tautology =>
          have taken := awaits.take Reads.tautology.unit
          simpa [Phrase.tautology] using reads_of_readOn outside taken read
      | opening =>
          have inside : Progress.start.Awaits truth [] := .clear .none .none
          simpa using
            reads_of_readOperand (.open outside awaits) inside read
      | negation =>
          simpa using reads_of_readOperand outside awaits.negate read
      | closing =>
          simp [Phrase.readOperand] at read
      | junction connective =>
          simp [Phrase.readOperand] at read

theorem reads_of_readOn
    {outer : List Progress} {progress : Progress} {before phrase rest : Phrase}
    {value : Truth}
    (outside : Outside truth outer before)
    (follows : progress.Follows truth phrase)
    (read : Phrase.readOn truth outer progress rest = some value) :
    Reads truth .sum (before ++ phrase ++ rest) value := by
  cases rest with
  | nil =>
      cases outside with
      | none =>
          have same : progress.value = value := by
            simpa [Phrase.readOn] using read
          simpa [same] using follows.reads
      | «open» _ _ =>
          simp [Phrase.readOn] at read
  | cons symbol rest =>
      cases symbol with
      | closing =>
          cases outside with
          | none =>
              simp [Phrase.readOn] at read
          | «open» outside awaits =>
              have taken := awaits.take follows.reads.enclosed.unit
              simpa [Phrase.enclosed] using reads_of_readOn outside taken read
      | junction connective =>
          cases follows with
          | @mk first last sum product firstReads lastReads =>
              cases connective with
              | conjunction =>
                  have awaits := Progress.Awaits.clear firstReads (.some lastReads)
                  simpa using reads_of_readOperand outside awaits read
              | disjunction =>
                  have awaits :=
                    Progress.Awaits.clear (.some (firstReads.sum lastReads)) .none
                  simpa using reads_of_readOperand outside awaits read
      | atom text =>
          simp [Phrase.readOn] at read
      | tautology =>
          simp [Phrase.readOn] at read
      | opening =>
          simp [Phrase.readOn] at read
      | negation =>
          simp [Phrase.readOn] at read

end

/-- The reader finds a value exactly where the grammar has a reading with it. -/
theorem Phrase.value?_eq_some_iff (phrase : Phrase) (value : Truth) :
    phrase.value? truth = some value ↔ Reads truth .sum phrase value := by
  constructor
  · intro read
    have awaits : Progress.start.Awaits truth [] := .clear .none .none
    simpa using reads_of_readOperand .none awaits read
  · exact Reads.value?_eq

end Sound

/-! ## Joined phrases -/

namespace Reads

variable {truth : String → Truth}

theorem ofUnit
    {rank : Rank} {phrase : Phrase} {value : Truth}
    (reading : Reads truth .unit phrase value) :
    Reads truth rank phrase value := by
  cases rank
  · exact reading
  · exact reading.unit
  · exact reading.unit.factor
  · exact reading.unit.factor.product

theorem toProduct
    {rank : Rank} {phrase : Phrase} {value : Truth}
    (notSum : rank ≠ .sum) (reading : Reads truth rank phrase value) :
    Reads truth .product phrase value := by
  cases rank
  · exact reading.ofUnit
  · exact reading.factor
  · exact reading
  · exact absurd rfl notSum

theorem toSum
    {rank : Rank} {phrase : Phrase} {value : Truth}
    (reading : Reads truth rank phrase value) :
    Reads truth .sum phrase value := by
  by_cases isSum : rank = .sum
  · rw [← isSum]
    exact reading
  · exact (reading.toProduct isSum).product

theorem unique
    {rank : Rank} {phrase : Phrase} {first second : Truth}
    (left : Reads truth rank phrase first)
    (right : Reads truth rank phrase second) : first = second := by
  have found := left.toSum.value?_eq
  rw [right.toSum.value?_eq] at found
  exact (Option.some.inj found).symm

/-- Products side by side are one product, whichever way they are grouped. -/
theorem conjoin
    {left right : Phrase} {first second : Truth}
    (leftReads : Reads truth .product left first)
    (rightReads : Reads truth .product right second) :
    Reads truth .product (left ++ .junction .conjunction :: right)
      (first.and second) := by
  generalize isProduct : Rank.product = rank at rightReads
  induction rightReads with
  | factor reading _ =>
      exact .both leftReads reading
  | both _ reading innerHypothesis _ =>
      have joined := (innerHypothesis rfl).both reading
      simpa [Truth.and_assoc] using joined
  | atom | tautology | enclosed | unit | negated | product | either =>
      cases isProduct

theorem disjoin
    {left right : Phrase} {first second : Truth}
    (leftReads : Reads truth .sum left first)
    (rightReads : Reads truth .sum right second) :
    Reads truth .sum (left ++ .junction .disjunction :: right)
      (first.or second) := by
  generalize isSum : Rank.sum = rank at rightReads
  induction rightReads with
  | product reading _ =>
      exact .either leftReads reading
  | either _ reading innerHypothesis _ =>
      have joined := (innerHypothesis rfl).either reading
      simpa [Truth.or_assoc] using joined
  | atom | tautology | enclosed | unit | negated | factor | both =>
      cases isSum

/-- Units in a row are a product. -/
theorem conjunction
    {parts : List Phrase} {values : List Truth}
    (readings : List.Forall₂ (Reads truth .product) parts values)
    (nonempty : parts ≠ []) :
    Reads truth .product (Phrase.joined .conjunction parts)
      (Connective.conjunction.combine values) := by
  induction readings with
  | nil =>
      exact absurd rfl nonempty
  | @cons part value rest values reading readings inductionHypothesis =>
      cases readings with
      | nil =>
          simpa [Phrase.joined] using reading
      | cons next others =>
          exact reading.conjoin (inductionHypothesis (List.cons_ne_nil _ _))

theorem disjunction
    {parts : List Phrase} {values : List Truth}
    (readings : List.Forall₂ (Reads truth .product) parts values)
    (nonempty : parts ≠ []) :
    Reads truth .sum (Phrase.joined .disjunction parts)
      (Connective.disjunction.combine values) := by
  induction readings with
  | nil =>
      exact absurd rfl nonempty
  | @cons part value rest values reading readings inductionHypothesis =>
      cases readings with
      | nil =>
          simpa [Phrase.joined] using reading.product
      | cons next others =>
          exact reading.product.disjoin
            (inductionHypothesis (List.cons_ne_nil _ _))

theorem joined
    (connective : Connective) {parts : List Phrase} {values : List Truth}
    (readings : List.Forall₂ (Reads truth .product) parts values)
    (nonempty : parts ≠ []) :
    Reads truth .sum (Phrase.joined connective parts)
      (connective.combine values) := by
  cases connective
  · exact (conjunction readings nonempty).product
  · exact disjunction readings nonempty

/-- Operands that are united read as their combination, and no looser than an operand
alone. -/
theorem united?
    (connective : Connective) {rank : Rank} (notSum : rank ≠ .sum)
    {parts : List Phrase} {values : List Truth}
    (readings : List.Forall₂ (Reads truth rank) parts values) :
    Option.Rel (Reads truth rank) (Phrase.united? connective parts)
      (connective.combine? values) := by
  cases readings with
  | nil =>
      exact .none
  | @cons part value rest values reading readings =>
      cases readings with
      | nil =>
          simpa [Phrase.united?] using reading
      | @cons next second others values nextReading readings =>
          have products :
              List.Forall₂ (Reads truth .product) (part :: next :: others)
                (value :: second :: values) :=
            List.Forall₂.imp (fun _ _ => toProduct notSum)
              (.cons reading (.cons nextReading readings))
          exact .some (joined connective products (List.cons_ne_nil _ _)).enclosed.ofUnit

/-- A unit with a connective after it is not one unit: the parenthesis that opens it is
closed before the connective. -/
theorem not_unit_of_append
    {unit rest : Phrase} {value other : Truth} {connective : Connective}
    (unitReads : Reads truth .unit unit value) :
    ¬ Reads truth .unit (unit ++ .junction connective :: rest) other := by
  intro wholeReads
  generalize wholeIs : unit ++ .junction connective :: rest = whole at wholeReads
  cases unitReads with
  | atom text =>
      cases wholeReads <;> simp [Phrase.atom, Phrase.tautology, Phrase.enclosed] at wholeIs
  | tautology =>
      cases wholeReads <;> simp [Phrase.atom, Phrase.tautology, Phrase.enclosed] at wholeIs
  | @enclosed inner value innerReads =>
      cases wholeReads with
      | atom text =>
          simp [Phrase.atom, Phrase.enclosed] at wholeIs
      | tautology =>
          simp [Phrase.tautology, Phrase.enclosed] at wholeIs
      | @enclosed outer other outerReads =>
          obtain ⟨initial, last, ends⟩ :
              ∃ initial last, Symbol.junction connective :: rest = initial ++ [last] :=
            ⟨_, _, (List.dropLast_append_getLast (List.cons_ne_nil _ rest)).symm⟩
          have split :
              (inner ++ .closing :: initial) ++ [last] = outer ++ [.closing] := by
            simpa [Phrase.enclosed, ends] using wholeIs
          have outerIs : outer = inner ++ .closing :: initial :=
            (List.append_inj_left' split rfl).symm
          -- the reader has no open parenthesis left to close within the outer one
          obtain ⟨before, last, _, passes⟩ := innerReads.passes
          have found := outerReads.value?_eq
          rw [outerIs, Phrase.value?, Progress.start, passes, Phrase.readOn] at found
          cases found

end Reads

end WhereClause
