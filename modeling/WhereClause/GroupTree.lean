import WhereClause.Phrase

/-!
# Trees of conditions by group

The result of splitting a filter among groups. Each node combines its entries and its children
with one connective; an entry holds the conditions of one group.
-/

namespace WhereClause

universe u v

/-- The conditions of one group, all of which have to hold. -/
structure GroupEntry (α : Type u) where
  name : String
  conditions : List α
  deriving DecidableEq, Repr

namespace GroupEntry

variable {α : Type u} {β : Type v}

def map (change : α → β) (entry : GroupEntry α) : GroupEntry β :=
  ⟨entry.name, entry.conditions.map change⟩

def find? (name : String) : List (GroupEntry α) → Option (GroupEntry α)
  | [] => none
  | entry :: rest => if entry.name = name then some entry else find? name rest

/-- Adds conditions to the first entry of a name, which is appended if there is none. -/
def extend (name : String) (added : List α) :
    List (GroupEntry α) → List (GroupEntry α)
  | [] => [⟨name, added⟩]
  | entry :: rest =>
      if entry.name = name then ⟨name, entry.conditions ++ added⟩ :: rest
      else entry :: extend name added rest

end GroupEntry

/-- A tree of conditions by group. -/
structure GroupTree (α : Type u) where
  connective : Connective
  entries : List (GroupEntry α)
  children : List (GroupTree α)
  deriving Repr

namespace GroupTree

variable {α : Type u} {β : Type v}

def bare (connective : Connective) : GroupTree α :=
  ⟨connective, [], []⟩

/-- Whether the root has neither entries nor children. -/
def isBare (tree : GroupTree α) : Bool :=
  tree.entries.isEmpty && tree.children.isEmpty

def entryNamed? (tree : GroupTree α) (name : String) : Option (GroupEntry α) :=
  GroupEntry.find? name tree.entries

def extend (tree : GroupTree α) (name : String) (added : List α) : GroupTree α :=
  { tree with entries := GroupEntry.extend name added tree.entries }

/-- The tree with an entry of the name at the root, empty if it is new. -/
def touch (tree : GroupTree α) (name : String) : GroupTree α :=
  tree.extend name []

def push (tree : GroupTree α) (name : String) (condition : α) : GroupTree α :=
  tree.extend name [condition]

def withChild (tree child : GroupTree α) : GroupTree α :=
  { tree with children := tree.children ++ [child] }

/-- The tree with one more child, unless the child is bare. -/
def attach (tree child : GroupTree α) : GroupTree α :=
  if child.isBare then tree else tree.withChild child

mutual

def map (change : α → β) : GroupTree α → GroupTree β
  | ⟨connective, entries, children⟩ =>
      ⟨connective, entries.map (GroupEntry.map change), mapAll change children⟩

def mapAll (change : α → β) : List (GroupTree α) → List (GroupTree β)
  | [] => []
  | tree :: rest => map change tree :: mapAll change rest

end

/-- Appends the names that are not there yet. -/
def gather (names : List String) : List (GroupEntry α) → List String
  | [] => names
  | entry :: rest =>
      if entry.name ∈ names then gather names rest
      else gather (names ++ [entry.name]) rest

mutual

/-- Appends the names of a tree that are not there yet. -/
def gatherTree (names : List String) : GroupTree α → List String
  | ⟨_, entries, children⟩ => gatherAll (gather names entries) children

def gatherAll (names : List String) : List (GroupTree α) → List String
  | [] => names
  | tree :: rest => gatherAll (gatherTree names tree) rest

end

/-- The names of the groups of a tree in the order of first appearance, the entries of a
node before its children. -/
def groupNames (tree : GroupTree α) : List String :=
  gatherTree [] tree

mutual

/-- The phrase of a tree, with a phrase for each entry. -/
def render (ofEntry : GroupEntry α → Phrase) : GroupTree α → Phrase
  | ⟨connective, entries, children⟩ =>
      Phrase.united connective
        (entries.map ofEntry ++ renderAll ofEntry children)

def renderAll (ofEntry : GroupEntry α → Phrase) :
    List (GroupTree α) → List Phrase
  | [] => []
  | tree :: rest => render ofEntry tree :: renderAll ofEntry rest

end

/-- The node that is reached by child indices from the root. -/
def at? (tree : GroupTree α) : List Nat → Option (GroupTree α)
  | [] => some tree
  | index :: rest =>
      match tree.children[index]? with
      | some child => child.at? rest
      | none => none

/-- Changes the node that is reached by child indices from the root. -/
def updateAt (change : GroupTree α → GroupTree α) (tree : GroupTree α) :
    List Nat → GroupTree α
  | [] => change tree
  | index :: rest =>
      match tree.children[index]? with
      | some child =>
          { tree with
            children := tree.children.set index (child.updateAt change rest) }
      | none => tree

end GroupTree

/-- The conjunction of the conditions of an entry. -/
def GroupEntry.joined (entry : GroupEntry Phrase) : Phrase :=
  Phrase.united .conjunction entry.conditions

end WhereClause
