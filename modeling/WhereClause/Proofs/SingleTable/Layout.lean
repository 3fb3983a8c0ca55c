import WhereClause.Filter.SingleTable
import WhereClause.Proofs.Formula

/-!
# Compiling in two steps

For one table the conditions are compiled in the order of the document, and the formula of their
texts is laid out. Main statement: a compilation is its outline laid out, also where it is
rejected.
-/

namespace WhereClause

/-- The text of a condition on a field of the table. -/
def Target.conditionText (target : Target) (key : String) (condition : Json) :
    Compilation String :=
  match target.scope.field? key with
  | none => throw (.unknownField key)
  | some field => field.condition condition

namespace Formula

variable (rule : EmptyRule)

mutual

/-- The phrase of a formula of texts, if some part of it contributes one. -/
def phrase? : Formula String → Option Phrase
  | .all [] => rule.phrase?
  | .all (conjunct :: rest) =>
      Phrase.sideBySide? (phrasesOfConjuncts (conjunct :: rest))

def phraseOfConjunct? : Conjunct String → Option Phrase
  | .set connective children => Phrase.united? connective (phrases children)
  | .negation child => some (Phrase.negated (phrase? child))
  | .leaf text => some (Phrase.atom text)

def phrasesOfConjuncts : List (Conjunct String) → List Phrase
  | [] => []
  | conjunct :: rest =>
      (phraseOfConjunct? conjunct).toList ++ phrasesOfConjuncts rest

def phrases : List (Formula String) → List Phrase
  | [] => []
  | formula :: rest => (phrase? formula).toList ++ phrases rest

end

/-- The phrase of a whole formula; one that contributes nothing always holds. -/
def phrase (formula : Formula String) : Phrase :=
  (formula.phrase? rule).getD Phrase.tautology

end Formula

namespace Phrase

/-- The conditions of a phrase from left to right. -/
def atoms : Phrase → List String
  | [] => []
  | .atom text :: rest => text :: atoms rest
  | _ :: rest => atoms rest

theorem atoms_append (left right : Phrase) :
    atoms (left ++ right) = atoms left ++ atoms right := by
  induction left with
  | nil =>
      rfl
  | cons symbol rest inductionHypothesis =>
      cases symbol <;> simp [atoms, inductionHypothesis]

theorem atoms_enclosed (phrase : Phrase) : (enclosed phrase).atoms = phrase.atoms := by
  simp [enclosed, atoms, atoms_append]

theorem atoms_joined (connective : Connective) (parts : List Phrase) :
    (joined connective parts).atoms = parts.flatMap atoms := by
  induction parts with
  | nil =>
      rfl
  | cons part rest inductionHypothesis =>
      cases rest with
      | nil =>
          simp [joined]
      | cons next others =>
          calc
            (joined connective (part :: next :: others)).atoms
              = part.atoms ++ (joined connective (next :: others)).atoms :=
                atoms_append part _
            _ = (part :: next :: others).flatMap atoms := by
                simp only [inductionHypothesis, List.flatMap_cons]

theorem flatMap_atoms_sideBySide? (parts : List Phrase) :
    (sideBySide? parts).toList.flatMap atoms = parts.flatMap atoms := by
  cases parts with
  | nil =>
      rfl
  | cons part rest =>
      simp [sideBySide?, atoms_joined]

theorem flatMap_atoms_united? (connective : Connective) (parts : List Phrase) :
    (united? connective parts).toList.flatMap atoms = parts.flatMap atoms := by
  rcases parts with _ | ⟨part, _ | ⟨next, others⟩⟩
  · rfl
  · rfl
  · simp [united?, atoms_enclosed, atoms_joined]

theorem atoms_negated (phrase : Option Phrase) :
    (negated phrase).atoms = phrase.toList.flatMap atoms := by
  cases phrase <;> simp [negated, atoms_enclosed, atoms, tautology]

end Phrase

namespace Formula

variable {rule : EmptyRule}

mutual

theorem flatMap_atoms_phrase? (formula : Formula String) :
    (formula.phrase? rule).toList.flatMap Phrase.atoms = formula.leaves := by
  cases formula with
  | all conjuncts =>
      cases conjuncts with
      | nil =>
          cases rule <;> rfl
      | cons conjunct rest =>
          rw [phrase?, Phrase.flatMap_atoms_sideBySide?]
          exact flatMap_atoms_phrasesOfConjuncts (conjunct :: rest)

theorem flatMap_atoms_phraseOfConjunct? (conjunct : Conjunct String) :
    (phraseOfConjunct? rule conjunct).toList.flatMap Phrase.atoms =
      leavesOfConjunct conjunct := by
  cases conjunct with
  | set connective children =>
      rw [phraseOfConjunct?, Phrase.flatMap_atoms_united?]
      exact flatMap_atoms_phrases children
  | negation child =>
      rw [phraseOfConjunct?, leavesOfConjunct, ← flatMap_atoms_phrase? child]
      simp [Phrase.atoms_negated]
  | leaf text =>
      rfl

theorem flatMap_atoms_phrasesOfConjuncts (conjuncts : List (Conjunct String)) :
    (phrasesOfConjuncts rule conjuncts).flatMap Phrase.atoms =
      leavesOfConjuncts conjuncts := by
  cases conjuncts with
  | nil =>
      rfl
  | cons conjunct rest =>
      rw [phrasesOfConjuncts, List.flatMap_append, leavesOfConjuncts,
        flatMap_atoms_phraseOfConjunct? conjunct,
        flatMap_atoms_phrasesOfConjuncts rest]

theorem flatMap_atoms_phrases (formulas : List (Formula String)) :
    (phrases rule formulas).flatMap Phrase.atoms = leavesOfAll formulas := by
  cases formulas with
  | nil =>
      rfl
  | cons formula rest =>
      rw [phrases, List.flatMap_append, leavesOfAll, flatMap_atoms_phrase? formula,
        flatMap_atoms_phrases rest]

end

/-- The conditions of a phrase are the leaves of its formula, in order. -/
theorem atoms_phrase (rule : EmptyRule) (formula : Formula String) :
    (formula.phrase rule).atoms = formula.leaves := by
  rw [← flatMap_atoms_phrase? formula, phrase]
  cases formula.phrase? rule <;> simp [Phrase.tautology, Phrase.atoms]

end Formula

/-! ## Compilation by outline -/

namespace Filter

theorem leafPhrase_eq (target : Target) (key : String) (condition : Json) :
    leafPhrase target key condition =
      Phrase.atom <$> target.conditionText key condition := by
  unfold leafPhrase Target.conditionText
  cases target.scope.field? key with
  | none =>
      rfl
  | some field =>
      simp only [map_eq_pure_bind]

variable (target : Target)

mutual

theorem phrase?_eq_outline (filter : Filter) :
    filter.phrase? target =
      Formula.phrase? target.settings.emptyRule <$>
        filter.outline target.conditionText := by
  cases filter with
  | rejected cause =>
      rfl
  | all clauses =>
      cases clauses with
      | nil =>
          simp [phrase?, outline, outlineClauses, Formula.phrase?]
      | cons clause rest =>
          rw [phrase?, outline, clausePhrases_eq_outline]
          simp only [map_eq_pure_bind, bind_assoc, pure_bind, outlineClauses,
            Formula.phrase?]

theorem clausePhrase?_eq_outline (clause : Clause) :
    clausePhrase? target clause =
      Formula.phraseOfConjunct? target.settings.emptyRule <$>
        outlineClause target.conditionText clause := by
  cases clause with
  | set connective children =>
      rw [clausePhrase?, outlineClause, phrases_eq_outline]
      simp only [map_eq_pure_bind, bind_assoc, pure_bind,
        Formula.phraseOfConjunct?]
  | negation child =>
      rw [clausePhrase?, outlineClause, phrase?_eq_outline child]
      simp only [map_eq_pure_bind, bind_assoc, pure_bind,
        Formula.phraseOfConjunct?]
  | leaf key condition =>
      rw [clausePhrase?, outlineClause, leafPhrase_eq]
      simp only [map_eq_pure_bind, bind_assoc, pure_bind,
        Formula.phraseOfConjunct?]

theorem clausePhrases_eq_outline (clauses : List Clause) :
    clausePhrases target clauses =
      Formula.phrasesOfConjuncts target.settings.emptyRule <$>
        outlineClauses target.conditionText clauses := by
  cases clauses with
  | nil =>
      rfl
  | cons clause rest =>
      rw [clausePhrases, outlineClauses, clausePhrase?_eq_outline clause,
        clausePhrases_eq_outline rest]
      simp only [map_eq_pure_bind, bind_assoc, pure_bind,
        Formula.phrasesOfConjuncts]

theorem phrases_eq_outline (filters : List Filter) :
    phrases target filters =
      Formula.phrases target.settings.emptyRule <$>
        outlineAll target.conditionText filters := by
  cases filters with
  | nil =>
      rfl
  | cons filter rest =>
      rw [phrases, outlineAll, phrase?_eq_outline filter, phrases_eq_outline rest]
      simp only [map_eq_pure_bind, bind_assoc, pure_bind, Formula.phrases]

end

/-- A filter is compiled by laying out its outline. -/
theorem phrase_eq_outline (filter : Filter) :
    filter.phrase target =
      Formula.phrase target.settings.emptyRule <$>
        filter.outline target.conditionText := by
  rw [phrase, phrase?_eq_outline]
  simp only [map_eq_pure_bind, bind_assoc, pure_bind, Formula.phrase]

end Filter

namespace Target

/-- The formula of the texts of a filter's conditions, from the given parameters on. -/
def outline (target : Target) (json : Json) (parameters : Parameters) :
    Except Rejection (Formula String) × Parameters :=
  ((Filter.ofJson json).outline target.conditionText).runFrom parameters

/-- The phrase whose text is the result of a compilation. -/
def phrase (target : Target) (json : Json) (parameters : Parameters) :
    Except Rejection Phrase × Parameters :=
  ((Filter.ofJson json).phrase target).runFrom parameters

theorem phrase_eq_outline (target : Target) (json : Json) (parameters : Parameters) :
    target.phrase json parameters =
      ((target.outline json parameters).1.map
        (Formula.phrase target.settings.emptyRule),
        (target.outline json parameters).2) := by
  rw [phrase, Filter.phrase_eq_outline, Compilation.runFrom_map]
  rfl

variable {target : Target} {json : Json} {parameters bound : Parameters}

theorem phrase_of_outline
    {formula : Formula String}
    (outlined : target.outline json parameters = (.ok formula, bound)) :
    target.phrase json parameters =
      (.ok (formula.phrase target.settings.emptyRule), bound) := by
  rw [phrase_eq_outline, outlined]
  rfl

theorem compile_of_phrase
    {phrase : Phrase} (run : target.phrase json parameters = (.ok phrase, bound)) :
    compile target json parameters = (.ok phrase.text, bound) := by
  rw [Target.phrase] at run
  rw [compile, run]
  rfl

theorem outline_of_compile
    {text : String} (compiled : compile target json parameters = (.ok text, bound)) :
    ∃ formula : Formula String,
      target.outline json parameters = (.ok formula, bound) ∧
        (formula.phrase target.settings.emptyRule).text = text := by
  have composed :
      compile target json parameters =
        ((target.phrase json parameters).1.map Phrase.text,
          (target.phrase json parameters).2) := rfl
  rw [composed, phrase_eq_outline] at compiled
  generalize target.outline json parameters = run at compiled
  obtain ⟨cause | formula, final⟩ := run
  · simp [Except.map] at compiled
  · obtain ⟨same, rfl⟩ : (formula.phrase target.settings.emptyRule).text = text ∧
        final = bound := by
      simpa [Except.map] using compiled
    exact ⟨formula, rfl, same⟩

end Target

end WhereClause
