import WhereClause.Proofs.Distribution.Assembly
import WhereClause.Proofs.Parameters
import WhereClause.Proofs.SingleTable.Row

/-!
# The union of groups as one table

Main statements: a key names in the union what it names in the group that owns it; so a filter
that has an outline over the groups has the same outline over the union, without the owners.
-/

namespace WhereClause

/-- One dictionary laid over another. -/
def Dict.overlay {α : Type} (upper lower : Dict α) : Dict α :=
  upper.entries.foldl (fun dict entry => dict.insert entry.1 entry.2) lower

/-- The columns of two tables; a key of both refers to the upper one. -/
def Scope.overlay (upper lower : Scope) : Scope :=
  ⟨upper.columns.overlay lower.columns, upper.documents ++ lower.documents⟩

/-- The table with the columns of all groups. -/
def Group.union (groups : List Group) : Scope :=
  groups.foldr (fun group below => group.scope.overlay below) Scope.empty

theorem Dict.get?_foldl_insert
    {α : Type} (name : String) {entries : List (String × α)}
    (nodup : (Entries.names entries).Nodup) (dict : Dict α) :
    (entries.foldl (fun dict entry => dict.insert entry.1 entry.2) dict).get? name =
      (Entries.get? name entries).or (dict.get? name) := by
  induction entries generalizing dict with
  | nil =>
      rfl
  | cons entry rest inductionHypothesis =>
      obtain ⟨other, held⟩ := entry
      obtain ⟨fresh, restNodup⟩ : other ∉ Entries.names rest ∧ (Entries.names rest).Nodup :=
        List.nodup_cons.1 nodup
      have tail := inductionHypothesis restNodup (dict.insert other held)
      rw [List.foldl_cons, tail, get?_insert, Entries.get?]
      by_cases same : other = name
      -- the name is not inserted again later, so that its first value stays
      · have absent : Entries.get? name rest = none := by
          rw [← same]
          exact Entries.get?_eq_none_iff.2 fresh
        rw [if_pos same, if_pos same, absent]
        rfl
      · rw [if_neg same, if_neg same]

theorem Dict.get?_overlay {α : Type} (upper lower : Dict α) (name : String) :
    (upper.overlay lower).get? name = (upper.get? name).or (lower.get? name) :=
  get?_foldl_insert name upper.distinct lower

namespace Scope

theorem column?_overlay (upper lower : Scope) (key : String) :
    (upper.overlay lower).column? key = (upper.column? key).or (lower.column? key) := by
  rw [column?, column?, column?, overlay, Dict.get?_overlay]
  cases upper.columns.get? key with
  | none =>
      rfl
  | some expression =>
      rfl

theorem path?_overlay (upper lower : Scope) (key : String) :
    (upper.overlay lower).path? key = (upper.path? key).or (lower.path? key) := by
  rcases segments : Key.segments key with ⟨property, nested⟩
  simp only [path?, segments, overlay, List.find?_append]
  cases upper.documents.find? fun document => document.property = property with
  | none =>
      rfl
  | some document =>
      rfl

end Scope

namespace Group

/-- What is looked up in one layer after the other is found in the first group that has it. -/
theorem find_union
    (find : Scope → Option Field) (ofEmpty : find Scope.empty = none)
    (ofOverlay : ∀ upper lower, find (upper.overlay lower) = (find upper).or (find lower))
    (groups : List Group) :
    find (union groups) = (first? find groups).map Prod.snd := by
  induction groups with
  | nil =>
      exact ofEmpty
  | cons group rest inductionHypothesis =>
      have layers : union (group :: rest) = group.scope.overlay (union rest) := rfl
      rw [layers, ofOverlay, inductionHypothesis, first?, first?, List.findSome?_cons]
      cases find group.scope with
      | none =>
          rfl
      | some field =>
          rfl

/-- A key names in the union what it names in the group that owns it. -/
theorem field?_union (groups : List Group) (key : String) :
    (union groups).field? key = (owner? groups key).map Prod.snd := by
  have paths :=
    find_union (fun scope => scope.path? key) rfl
      (fun upper lower => Scope.path?_overlay upper lower key) groups
  have columns :=
    find_union (fun scope => scope.column? key) rfl
      (fun upper lower => Scope.column?_overlay upper lower key) groups
  rw [Scope.field?, owner?, paths, columns]
  cases first? (fun scope => scope.path? key) groups with
  | none =>
      rfl
  | some owner =>
      rfl

end Group

namespace Formula

section Map

variable {α β : Type} (change : α → β)

mutual

/-- The formula with every label changed. -/
def map : Formula α → Formula β
  | .all conjuncts => .all (mapConjuncts conjuncts)

def mapConjunct : Conjunct α → Conjunct β
  | .set connective children => .set connective (mapAll children)
  | .negation child => .negation (map child)
  | .leaf label => .leaf (change label)

def mapConjuncts : List (Conjunct α) → List (Conjunct β)
  | [] => []
  | conjunct :: rest => mapConjunct conjunct :: mapConjuncts rest

def mapAll : List (Formula α) → List (Formula β)
  | [] => []
  | formula :: rest => map formula :: mapAll rest

end

variable {rule : EmptyRule} {truth : β → Truth}

mutual

theorem row_map (formula : Formula α) :
    (formula.map change).row rule truth = formula.row rule fun label => truth (change label) := by
  match formula with
  | .all [] =>
      rfl
  | .all (conjunct :: rest) =>
      exact rowOfConjuncts_mapConjuncts (conjunct :: rest)

theorem rowOfConjunct_mapConjunct (conjunct : Conjunct α) :
    rowOfConjunct rule truth (mapConjunct change conjunct) =
      rowOfConjunct rule (fun label => truth (change label)) conjunct := by
  cases conjunct with
  | set connective children =>
      have ofChildren := rows_mapAll children
      exact congrArg connective.unite ofChildren
  | negation child =>
      have ofChild := row_map child
      exact congrArg (fun row => [Truth.negateFirst row]) ofChild
  | leaf label =>
      rfl

theorem rowOfConjuncts_mapConjuncts (conjuncts : List (Conjunct α)) :
    rowOfConjuncts rule truth (mapConjuncts change conjuncts) =
      rowOfConjuncts rule (fun label => truth (change label)) conjuncts := by
  cases conjuncts with
  | nil =>
      rfl
  | cons conjunct rest =>
      have head := rowOfConjunct_mapConjunct conjunct
      have tail := rowOfConjuncts_mapConjuncts rest
      rw [mapConjuncts, rowOfConjuncts, head, tail, rowOfConjuncts]

theorem rows_mapAll (formulas : List (Formula α)) :
    rows rule truth (mapAll change formulas) =
      rows rule (fun label => truth (change label)) formulas := by
  cases formulas with
  | nil =>
      rfl
  | cons formula rest =>
      have head := row_map formula
      have tail := rows_mapAll rest
      rw [mapAll, rows, head, tail, rows]

end

end Map

end Formula

namespace Filter

variable {α β : Type} {label : String → Json → Compilation α}
variable {other : String → Json → Compilation β} {change : α → β}

/-- Whether labels of one kind are made where those of another are, from which they can be
read off. -/
def Follows (other : String → Json → Compilation β) (change : α → β)
    (label : String → Json → Compilation α) : Prop :=
  ∀ (key : String) (condition : Json) (parameters bound : Parameters) (made : α),
    (label key condition).runFrom parameters = (.ok made, bound) →
    (other key condition).runFrom parameters = (.ok (change made), bound)

mutual

/-- So are the outlines with these labels. -/
theorem outline_of_follows
    (follows : Follows other change label) {filter : Filter} {formula : Formula α}
    {parameters bound : Parameters}
    (run : (filter.outline label).runFrom parameters = (.ok formula, bound)) :
    (filter.outline other).runFrom parameters = (.ok (formula.map change), bound) := by
  cases filter with
  | rejected cause =>
      simp [outline] at run
  | all clauses =>
      rw [outline, Compilation.runFrom_bind_eq_ok_iff] at run
      obtain ⟨conjuncts, final, clausesRun, done⟩ := run
      cases done
      have outlined := outlineClauses_of_follows follows clausesRun
      rw [outline, Compilation.runFrom_bind_eq_ok_iff]
      exact ⟨_, _, outlined, rfl⟩

theorem outlineClause_of_follows
    (follows : Follows other change label) {clause : Clause} {conjunct : Conjunct α}
    {parameters bound : Parameters}
    (run : (outlineClause label clause).runFrom parameters = (.ok conjunct, bound)) :
    (outlineClause other clause).runFrom parameters =
      (.ok (Formula.mapConjunct change conjunct), bound) := by
  cases clause with
  | set connective children =>
      rw [outlineClause, Compilation.runFrom_bind_eq_ok_iff] at run
      obtain ⟨formulas, final, childrenRun, done⟩ := run
      cases done
      have outlined := outlineAll_of_follows follows childrenRun
      rw [outlineClause, Compilation.runFrom_bind_eq_ok_iff]
      exact ⟨_, _, outlined, rfl⟩
  | negation child =>
      rw [outlineClause, Compilation.runFrom_bind_eq_ok_iff] at run
      obtain ⟨formula, final, childRun, done⟩ := run
      cases done
      have outlined := outline_of_follows follows childRun
      rw [outlineClause, Compilation.runFrom_bind_eq_ok_iff]
      exact ⟨_, _, outlined, rfl⟩
  | leaf key condition =>
      rw [outlineClause, Compilation.runFrom_bind_eq_ok_iff] at run
      obtain ⟨made, final, labelRun, done⟩ := run
      cases done
      have otherRun := follows key condition parameters _ made labelRun
      rw [outlineClause, Compilation.runFrom_bind_eq_ok_iff]
      exact ⟨_, _, otherRun, rfl⟩

theorem outlineClauses_of_follows
    (follows : Follows other change label) {clauses : List Clause}
    {conjuncts : List (Conjunct α)} {parameters bound : Parameters}
    (run : (outlineClauses label clauses).runFrom parameters = (.ok conjuncts, bound)) :
    (outlineClauses other clauses).runFrom parameters =
      (.ok (Formula.mapConjuncts change conjuncts), bound) := by
  cases clauses with
  | nil =>
      cases run
      rfl
  | cons clause rest =>
      simp only [outlineClauses, Compilation.runFrom_bind_eq_ok_iff] at run ⊢
      obtain ⟨conjunct, middle, clauseRun, others, final, restRun, done⟩ := run
      cases done
      have head := outlineClause_of_follows follows clauseRun
      have tail := outlineClauses_of_follows follows restRun
      exact ⟨_, _, head, _, _, tail, rfl⟩

theorem outlineAll_of_follows
    (follows : Follows other change label) {filters : List Filter}
    {formulas : List (Formula α)} {parameters bound : Parameters}
    (run : (outlineAll label filters).runFrom parameters = (.ok formulas, bound)) :
    (outlineAll other filters).runFrom parameters =
      (.ok (Formula.mapAll change formulas), bound) := by
  cases filters with
  | nil =>
      cases run
      rfl
  | cons filter rest =>
      simp only [outlineAll, Compilation.runFrom_bind_eq_ok_iff] at run ⊢
      obtain ⟨formula, middle, filterRun, others, final, restRun, done⟩ := run
      cases done
      have head := outline_of_follows follows filterRun
      have tail := outlineAll_of_follows follows restRun
      exact ⟨_, _, head, _, _, tail, rfl⟩

end

end Filter

/-- A condition on a field of a group has the same text in the union. -/
theorem Target.follows_ownedText (groups : List Group) (settings : Settings) :
    Filter.Follows (Target.conditionText ⟨Group.union groups, settings⟩) Owned.text
      (Group.ownedText groups) := by
  intro key condition parameters bound made run
  rw [conditionText, Group.field?_union]
  rw [Group.ownedText] at run
  cases owner : Group.owner? groups key with
  | none =>
      rw [owner] at run
      cases run
  | some found =>
      obtain ⟨group, field⟩ := found
      simp only [owner, Compilation.runFrom_bind_eq_ok_iff] at run
      obtain ⟨text, final, textRun, done⟩ := run
      cases done
      exact textRun

/-- A filter with an outline over groups has that of their union. -/
theorem Target.outline_union
    {groups : List Group} (settings : Settings) {json : Json} {formula : Formula Owned}
    {parameters bound : Parameters}
    (outlined : ((Filter.ofJson json).outline (Group.ownedText groups)).runFrom parameters =
      (.ok formula, bound)) :
    Target.outline ⟨Group.union groups, settings⟩ json parameters =
      (.ok (formula.map Owned.text), bound) :=
  Filter.outline_of_follows (Target.follows_ownedText groups settings) outlined

end WhereClause
