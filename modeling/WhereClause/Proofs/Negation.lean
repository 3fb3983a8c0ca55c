import WhereClause.Proofs.Formula

/-!
# What is negated

A filter that was read negates filters with one entry only; a literal is a leaf under any number
of negations.
-/

namespace WhereClause

namespace Formula

variable {α : Type}

mutual

/-- Whether the formula is one leaf, under any number of negations. -/
def isLiteral : Formula α → Bool
  | .all [conjunct] => isLiteralConjunct conjunct
  | .all _ => false

def isLiteralConjunct : Conjunct α → Bool
  | .set _ _ => false
  | .negation child => isLiteral child
  | .leaf _ => true

end

mutual

/-- The leaf of a literal, and how many negations it is under. -/
def literal? : Formula α → Option (Nat × α)
  | .all [conjunct] => literalOfConjunct? conjunct
  | .all _ => none

def literalOfConjunct? : Conjunct α → Option (Nat × α)
  | .set _ _ => none
  | .negation child => (literal? child).map fun literal => (literal.1 + 1, literal.2)
  | .leaf label => some (0, label)

end

mutual

/-- Whether every negation in the formula is that of a leaf, or again of such a negation. -/
def negatesLiterals : Formula α → Bool
  | .all conjuncts => conjunctsNegateLiterals conjuncts

def conjunctNegatesLiterals : Conjunct α → Bool
  | .set _ children => allNegateLiterals children
  | .negation child => isLiteral child && negatesLiterals child
  | .leaf _ => true

def conjunctsNegateLiterals : List (Conjunct α) → Bool
  | [] => true
  | conjunct :: rest => conjunctNegatesLiterals conjunct && conjunctsNegateLiterals rest

def allNegateLiterals : List (Formula α) → Bool
  | [] => true
  | formula :: rest => negatesLiterals formula && allNegateLiterals rest

end

variable {α : Type}

mutual

theorem isNarrow_of_isLiteral {formula : Formula α} (literal : formula.isLiteral) :
    formula.isNarrow := by
  match formula with
  | .all [] =>
      cases literal
  | .all [conjunct] =>
      have narrow : isNarrowConjunct conjunct := isNarrowConjunct_of_isLiteral literal
      rw [isNarrow, areNarrowConjuncts, areNarrowConjuncts, narrow]
      rfl
  | .all (_ :: _ :: _) =>
      cases literal

theorem isNarrowConjunct_of_isLiteral
    {conjunct : Conjunct α} (literal : isLiteralConjunct conjunct) :
    isNarrowConjunct conjunct := by
  cases conjunct with
  | set connective children =>
      cases literal
  | negation child =>
      exact isNarrow_of_isLiteral literal
  | leaf label =>
      rfl

end

mutual

/-- Where only literals are negated, no part below a negation has several conjuncts. -/
theorem isNarrowBelowNegation_of_negatesLiterals
    {formula : Formula α} (literals : formula.negatesLiterals) :
    formula.isNarrowBelowNegation := by
  cases formula with
  | all conjuncts =>
      exact areNarrowBelowNegationConjuncts_of_negateLiterals literals

theorem isNarrowBelowNegationConjunct_of_negatesLiterals
    {conjunct : Conjunct α} (literals : conjunctNegatesLiterals conjunct) :
    isNarrowBelowNegationConjunct conjunct := by
  cases conjunct with
  | set connective children =>
      exact areNarrowBelowNegation_of_negateLiterals literals
  | negation child =>
      rw [conjunctNegatesLiterals, Bool.and_eq_true] at literals
      exact isNarrow_of_isLiteral literals.1
  | leaf label =>
      rfl

theorem areNarrowBelowNegationConjuncts_of_negateLiterals
    {conjuncts : List (Conjunct α)} (literals : conjunctsNegateLiterals conjuncts) :
    areNarrowBelowNegationConjuncts conjuncts := by
  cases conjuncts with
  | nil =>
      rfl
  | cons conjunct rest =>
      rw [conjunctsNegateLiterals, Bool.and_eq_true] at literals
      have head := isNarrowBelowNegationConjunct_of_negatesLiterals literals.1
      have tail := areNarrowBelowNegationConjuncts_of_negateLiterals literals.2
      rw [areNarrowBelowNegationConjuncts, head, tail]
      rfl

theorem areNarrowBelowNegation_of_negateLiterals
    {formulas : List (Formula α)} (literals : allNegateLiterals formulas) :
    areNarrowBelowNegation formulas := by
  cases formulas with
  | nil =>
      rfl
  | cons formula rest =>
      rw [allNegateLiterals, Bool.and_eq_true] at literals
      have head := isNarrowBelowNegation_of_negatesLiterals literals.1
      have tail := areNarrowBelowNegation_of_negateLiterals literals.2
      rw [areNarrowBelowNegation, head, tail]
      rfl

end

end Formula

namespace Filter

/-- Whether a filter that has been read has one clause. -/
def isSingle : Filter → Bool
  | .rejected _ => true
  | .all clauses => clauses.length = 1

mutual

/-- Whether everything that is negated in the filter has one clause. -/
def negatesSingle : Filter → Bool
  | .rejected _ => true
  | .all clauses => clausesNegateSingle clauses

def clauseNegatesSingle : Clause → Bool
  | .set _ children => allNegateSingle children
  | .negation child => isSingle child && negatesSingle child
  | .leaf _ _ => true

def clausesNegateSingle : List Clause → Bool
  | [] => true
  | clause :: rest => clauseNegatesSingle clause && clausesNegateSingle rest

def allNegateSingle : List Filter → Bool
  | [] => true
  | filter :: rest => negatesSingle filter && allNegateSingle rest

end

theorem length_readClauses
    {members : List (String × Json)} {clauses : List Clause}
    (read : readClauses members = .ok clauses) : clauses.length = members.length := by
  induction members generalizing clauses with
  | nil =>
      cases read
      rfl
  | cons member rest inductionHypothesis =>
      obtain ⟨key, value⟩ := member
      rw [readClauses] at read
      split at read
      · cases read
      · split at read
        · cases read
        · cases read
          rename_i found
          rw [List.length_cons, List.length_cons, inductionHypothesis found]

theorem isSingle_ofClauses
    {members : List (String × Json)} (single : members.length = 1) :
    (ofClauses (readClauses members)).isSingle := by
  cases read : readClauses members with
  | error cause =>
      rfl
  | ok clauses =>
      simp [ofClauses, isSingle, length_readClauses read, single]

theorem negatesSingle_ofClauses
    {members : List (String × Json)}
    (ofRead : ∀ clauses, readClauses members = .ok clauses →
      clausesNegateSingle clauses) :
    (ofClauses (readClauses members)).negatesSingle := by
  cases read : readClauses members with
  | error cause =>
      rfl
  | ok clauses =>
      exact ofRead clauses read

mutual

/-- Everything that is negated in a filter that was read has one clause. -/
theorem negatesSingle_ofJson (json : Json) : (ofJson json).negatesSingle := by
  cases json with
  | obj members =>
      rw [ofJson]
      exact negatesSingle_ofClauses fun _ => clausesNegateSingle_of_readClauses members
  | _ =>
      rfl

theorem allNegateSingle_readAll (items : List Json) : allNegateSingle (readAll items) := by
  cases items with
  | nil =>
      rfl
  | cons item rest =>
      rw [readAll, allNegateSingle, negatesSingle_ofJson item, allNegateSingle_readAll rest]
      rfl

theorem clauseNegatesSingle_of_readClause
    (key : String) (json : Json) {clause : Clause}
    (read : readClause key json = .ok clause) : clauseNegatesSingle clause := by
  cases json with
  | arr items =>
      simp only [readClause] at read
      split at read <;> cases read
      · exact allNegateSingle_readAll items
      · rfl
  | obj members =>
      simp only [readClause] at read
      split at read
      · cases read
      · split at read
        · rename_i single
          cases read
          have within :=
            negatesSingle_ofClauses fun _ => clausesNegateSingle_of_readClauses members
          rw [clauseNegatesSingle, isSingle_ofClauses single, within]
          rfl
        · cases read
          rfl
      · cases read
        rfl
  | _ =>
      simp only [readClause] at read
      split at read
      · cases read
      · cases read
      · cases read
        rfl

theorem clausesNegateSingle_of_readClauses
    (members : List (String × Json)) {clauses : List Clause}
    (read : readClauses members = .ok clauses) : clausesNegateSingle clauses := by
  cases members with
  | nil =>
      cases read
      rfl
  | cons member rest =>
      obtain ⟨key, value⟩ := member
      rw [readClauses] at read
      split at read
      · cases read
      · rename_i clause clauseRead
        split at read
        · cases read
        · rename_i clauses restRead
          cases read
          rw [clausesNegateSingle, clauseNegatesSingle_of_readClause key value clauseRead,
            clausesNegateSingle_of_readClauses rest restRead]
          rfl

end

end Filter

end WhereClause
