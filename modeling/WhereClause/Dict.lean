/-!
# Dictionaries in the order of mention

Dictionaries from names to values keep the order in which names were first given. Main statements:
inserting keeps the names distinct, the names of a collapsed list are distinct, and a lookup after
an insertion sees the inserted value and no other change.
-/

namespace WhereClause

universe u v

namespace Entries

variable {α : Type u}

/-- The names of a list of named values, in order. -/
def names (entries : List (String × α)) : List String :=
  entries.map Prod.fst

/-- The value held under a name. -/
def get? (name : String) : List (String × α) → Option α
  | [] => none
  | (other, held) :: rest =>
      if other = name then some held else get? name rest

/-- Gives `name` the value `value`: in place where the name is already present, at the
end where it is not. -/
def insert (name : String) (value : α) :
    List (String × α) → List (String × α)
  | [] => [(name, value)]
  | (other, held) :: rest =>
      if other = name then (name, value) :: rest
      else (other, held) :: insert name value rest

/-- Keeps one entry for each name: the last value given, at the first position. -/
def collapse (entries : List (String × α)) : List (String × α) :=
  entries.foldl (fun kept entry => insert entry.1 entry.2 kept) []

/-- Places one entry into a list ordered by name. -/
def place (entry : String × α) : List (String × α) → List (String × α)
  | [] => [entry]
  | other :: rest =>
      if entry.1 ≤ other.1 then entry :: other :: rest
      else other :: place entry rest

/-- The entries ordered by the code points of their names. -/
def sorted (entries : List (String × α)) : List (String × α) :=
  entries.foldr place []

theorem mem_names_insert_iff
    (name : String) (value : α) (entries : List (String × α))
    (candidate : String) :
    candidate ∈ names (insert name value entries) ↔
      candidate = name ∨ candidate ∈ names entries := by
  induction entries with
  | nil => simp [insert, names]
  | cons head tail inductionHypothesis =>
      obtain ⟨other, held⟩ := head
      simp only [names] at inductionHypothesis
      by_cases same : other = name
      · subst same
        simp [insert, names]
      · simp only [insert, names, same, if_false, List.map_cons,
          List.mem_cons, inductionHypothesis]
        constructor
        · rintro (first | second | third)
          · exact Or.inr (Or.inl first)
          · exact Or.inl second
          · exact Or.inr (Or.inr third)
        · rintro (first | second | third)
          · exact Or.inr (Or.inl first)
          · exact Or.inl second
          · exact Or.inr (Or.inr third)

theorem nodup_names_insert
    (name : String) (value : α) {entries : List (String × α)}
    (nodup : (names entries).Nodup) :
    (names (insert name value entries)).Nodup := by
  induction entries with
  | nil => simp [insert, names]
  | cons head tail inductionHypothesis =>
      obtain ⟨other, held⟩ := head
      simp only [names, List.map_cons, List.nodup_cons] at nodup
      obtain ⟨otherFresh, tailNodup⟩ := nodup
      by_cases same : other = name
      · subst same
        simp only [insert, if_true, names, List.map_cons, List.nodup_cons]
        exact ⟨otherFresh, tailNodup⟩
      · simp only [insert, same, if_false, names, List.map_cons,
          List.nodup_cons]
        refine ⟨?_, inductionHypothesis tailNodup⟩
        intro otherMember
        rcases (mem_names_insert_iff name value tail other).1 otherMember with
          equality | member
        · exact same equality
        · exact otherFresh member

theorem nodup_names_foldl_insert
    (entries kept : List (String × α)) (nodup : (names kept).Nodup) :
    (names (entries.foldl
      (fun kept entry => insert entry.1 entry.2 kept) kept)).Nodup := by
  induction entries generalizing kept with
  | nil => exact nodup
  | cons head tail inductionHypothesis =>
      exact inductionHypothesis _ (nodup_names_insert head.1 head.2 nodup)

/-- Collapsing leaves every name once. -/
theorem nodup_names_collapse (entries : List (String × α)) :
    (names (collapse entries)).Nodup :=
  nodup_names_foldl_insert entries [] List.nodup_nil

/-- After an insertion the name holds the inserted value; nothing else changes. -/
theorem get?_insert
    (name candidate : String) (value : α) (entries : List (String × α)) :
    get? candidate (insert name value entries) =
      if name = candidate then some value else get? candidate entries := by
  induction entries with
  | nil => simp [insert, get?]
  | cons head tail inductionHypothesis =>
      obtain ⟨other, held⟩ := head
      by_cases otherIsName : other = name
      · subst otherIsName
        by_cases same : other = candidate <;> simp [insert, get?, same]
      · by_cases otherIsCandidate : other = candidate
        · subst otherIsCandidate
          simp [insert, get?, otherIsName, Ne.symm otherIsName]
        · simp [insert, get?, otherIsName, otherIsCandidate,
            inductionHypothesis]

end Entries

/-- A dictionary: named values with distinct names, in the order of first mention. -/
structure Dict (α : Type u) where
  entries : List (String × α)
  distinct : (Entries.names entries).Nodup

namespace Dict

variable {α : Type u} {β : Type v}

def empty : Dict α :=
  ⟨[], List.nodup_nil⟩

/-- The dictionary of a list of named values; of a repeated name the last value wins. -/
def ofList (entries : List (String × α)) : Dict α :=
  ⟨Entries.collapse entries, Entries.nodup_names_collapse entries⟩

def get? (dict : Dict α) (name : String) : Option α :=
  Entries.get? name dict.entries

def contains (dict : Dict α) (name : String) : Bool :=
  (dict.get? name).isSome

/-- The dictionary with `name` holding `value`. -/
def insert (dict : Dict α) (name : String) (value : α) : Dict α :=
  ⟨Entries.insert name value dict.entries,
    Entries.nodup_names_insert name value dict.distinct⟩

def size (dict : Dict α) : Nat :=
  dict.entries.length

def sorted (dict : Dict α) : List (String × α) :=
  Entries.sorted dict.entries

theorem get?_insert (dict : Dict α) (name candidate : String) (value : α) :
    (dict.insert name value).get? candidate =
      if name = candidate then some value else dict.get? candidate :=
  Entries.get?_insert name candidate value dict.entries

instance [DecidableEq α] : DecidableEq (Dict α) := fun left right =>
  decidable_of_iff (left.entries = right.entries) <| by
    constructor
    · intro equality
      cases left
      cases right
      simpa using equality
    · exact fun equality => congrArg Dict.entries equality

end Dict

end WhereClause
