import WhereClause.Condition
import WhereClause.Filter
import WhereClause.GroupTree

/-!
# Splitting a filter among groups

Every condition goes to the group that owns its field, and the combinations of the filter become
the nodes of a tree.
-/

namespace WhereClause

/-- A condition negated; the condition is put in parentheses. -/
def Phrase.denied (condition : Phrase) : Phrase :=
  .negation :: Phrase.enclosed condition

/-- A tree under construction. -/
abbrev PhraseTree :=
  GroupTree Phrase

namespace Filter

/-- Adds a condition on a field to the entry of the group that owns the field. -/
def addLeaf (groups : List Group) (key : String) (condition : Json)
    (tree : PhraseTree) : Compilation PhraseTree :=
  match Group.owner? groups key with
  | none => throw (.fieldOfNoGroup key)
  | some (group, field) => do
      let text ← field.condition condition
      return tree.push group.name (Phrase.atom text)

/-- Adds the negated conditions of a tree that has exactly one entry. -/
def addDenied (negated tree : PhraseTree) : Compilation PhraseTree :=
  match negated.entries with
  | [entry] => return tree.extend entry.name (entry.conditions.map Phrase.denied)
  | entries => throw (.scatteredNegation entries.length)

mutual

/-- Adds a filter to the node it stands in. -/
def addTo (groups : List Group) :
    Filter → PhraseTree → Compilation PhraseTree
  | .rejected cause, _ => throw cause
  | .all clauses, tree => addClauses groups clauses tree

/-- Adds a clause: a combination becomes a child unless it stays bare, a negation is
built on its own first. -/
def addClause (groups : List Group) :
    Clause → PhraseTree → Compilation PhraseTree
  | .set connective children, tree => do
      let child ← addFilters groups children (GroupTree.bare connective)
      return tree.attach child
  | .negation child, tree => do
      let negated ← addTo groups child (GroupTree.bare .conjunction)
      addDenied negated tree
  | .leaf key condition, tree => addLeaf groups key condition tree

def addClauses (groups : List Group) :
    List Clause → PhraseTree → Compilation PhraseTree
  | [], tree => return tree
  | clause :: rest, tree => do
      let extended ← addClause groups clause tree
      addClauses groups rest extended

def addFilters (groups : List Group) :
    List Filter → PhraseTree → Compilation PhraseTree
  | [], tree => return tree
  | filter :: rest, tree => do
      let extended ← addTo groups filter tree
      addFilters groups rest extended

end

/-- The tree of a combination of filters. -/
def distribute (groups : List Group) (connective : Connective)
    (children : List Filter) : Compilation PhraseTree :=
  addFilters groups children (GroupTree.bare connective)

end Filter

/-- A filter split among groups, with the values it binds. -/
structure GroupedFilter (α : Type) where
  tree : GroupTree α
  parameters : Parameters

/-- Splits the JSON of a filter among groups. -/
def splitAmong (groups : List Group) (json : Json) :
    Except Rejection (GroupedFilter Phrase) :=
  if groups.isEmpty then .error .noGroup
  else
    match Filter.rootOfJson json with
    | .error cause => .error cause
    | .ok (connective, children) =>
        match (Filter.distribute groups connective children).runFrom Dict.empty with
        | (.ok tree, parameters) => .ok ⟨tree, parameters⟩
        | (.error cause, _) => .error cause

end WhereClause
