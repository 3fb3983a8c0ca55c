import Mathlib.Data.List.Sort
import Mathlib.Data.String.Basic
import WhereClause.Proofs.Parameters

/-!
# Dictionaries in the order of their names

Main statement: the dictionary of the ordered entries holds the same values under the same names,
and ordering it again changes nothing.
-/

namespace WhereClause

namespace Entries

variable {α : Type}

/-- The name of the one comes no later than the name of the other. -/
def Before (left right : String × α) : Prop :=
  left.1 ≤ right.1

instance : DecidableRel (Before (α := α)) := fun left right =>
  inferInstanceAs (Decidable (left.1 ≤ right.1))

instance : Std.Total (Before (α := α)) :=
  ⟨fun left right => le_total left.1 right.1⟩

instance : IsTrans (String × α) Before :=
  ⟨fun _ _ _ first second => le_trans first second⟩

theorem place_eq_orderedInsert (entry : String × α) (entries : List (String × α)) :
    place entry entries = entries.orderedInsert Before entry := by
  induction entries with
  | nil =>
      rfl
  | cons head tail inductionHypothesis =>
      rw [place, inductionHypothesis]
      rfl

theorem sorted_eq_insertionSort (entries : List (String × α)) :
    sorted entries = entries.insertionSort Before := by
  induction entries with
  | nil =>
      rfl
  | cons head tail inductionHypothesis =>
      rw [List.insertionSort_cons, ← inductionHypothesis, ← place_eq_orderedInsert]
      rfl

theorem sorted_perm (entries : List (String × α)) : (sorted entries).Perm entries := by
  rw [sorted_eq_insertionSort]
  exact List.perm_insertionSort Before entries

theorem sorted_sorted (entries : List (String × α)) :
    sorted (sorted entries) = sorted entries := by
  rw [sorted_eq_insertionSort, sorted_eq_insertionSort]
  exact (List.pairwise_insertionSort Before entries).insertionSort_eq

theorem nodup_names_sorted {entries : List (String × α)} (nodup : (names entries).Nodup) :
    (names (sorted entries)).Nodup :=
  ((sorted_perm entries).map Prod.fst).nodup_iff.2 nodup

theorem get?_eq_some_iff
    {name : String} {value : α} {entries : List (String × α)} (nodup : (names entries).Nodup) :
    get? name entries = some value ↔ (name, value) ∈ entries := by
  induction entries with
  | nil =>
      simp [get?]
  | cons head tail inductionHypothesis =>
      obtain ⟨other, held⟩ := head
      obtain ⟨otherFresh, tailNodup⟩ := List.nodup_cons.1 nodup
      by_cases same : other = name
      · subst same
        have absent : (other, value) ∉ tail := fun member =>
          otherFresh (List.mem_map.2 ⟨_, member, rfl⟩)
        simp [get?, absent, eq_comm]
      · rw [get?, if_neg same, inductionHypothesis tailNodup]
        simp [Ne.symm same]

theorem get?_sorted
    (name : String) {entries : List (String × α)} (nodup : (names entries).Nodup) :
    get? name (sorted entries) = get? name entries := by
  ext value
  rw [get?_eq_some_iff nodup, get?_eq_some_iff (nodup_names_sorted nodup),
    (sorted_perm entries).mem_iff]

theorem foldl_insert_of_nodup
    (kept entries : List (String × α)) (nodup : (names (kept ++ entries)).Nodup) :
    entries.foldl (fun held entry => insert entry.1 entry.2 held) kept = kept ++ entries := by
  induction entries generalizing kept with
  | nil =>
      simp
  | cons entry rest inductionHypothesis =>
      have absent : entry.1 ∉ names kept := by
        rw [names, List.map_append, List.nodup_append] at nodup
        intro member
        exact nodup.2.2 _ member _ List.mem_cons_self rfl
      rw [List.foldl_cons, insert_of_not_mem entry.2 absent, inductionHypothesis]
      · simp
      · simpa using nodup

/-- Where no name is repeated, collapsing keeps the entries as they are. -/
theorem collapse_of_nodup {entries : List (String × α)} (nodup : (names entries).Nodup) :
    collapse entries = entries :=
  foldl_insert_of_nodup [] entries nodup

end Entries

namespace Dict

variable {α : Type}

/-- The two dictionaries hold the same values under the same names. -/
def SameAs (left right : Dict α) : Prop :=
  ∀ name, left.get? name = right.get? name

/-- The dictionary with its entries in the order of their names. -/
def ordered (dict : Dict α) : Dict α :=
  ⟨dict.sorted, Entries.nodup_names_sorted dict.distinct⟩

theorem sameAs_ordered (dict : Dict α) : dict.SameAs dict.ordered := fun name =>
  (Entries.get?_sorted name dict.distinct).symm

theorem sorted_ordered (dict : Dict α) : dict.ordered.sorted = dict.sorted :=
  Entries.sorted_sorted dict.entries

theorem ofList_sorted (dict : Dict α) : ofList dict.sorted = dict.ordered :=
  (mk.injEq _ _ _ _).mpr (Entries.collapse_of_nodup dict.ordered.distinct)

end Dict

end WhereClause
