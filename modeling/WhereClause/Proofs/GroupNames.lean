import WhereClause.Proofs.Entries
import WhereClause.Proofs.GroupTree

/-!
# The names in a tree

Main statements: the names of the groups of a tree are those of all its entries, each where it
first appears; a further child of a node only appends names to those of the node.
-/

namespace WhereClause.GroupTree

universe u

variable {α : Type u}

theorem gather_eraseDups (initial : List String) (entries : List (GroupEntry α)) :
    gather initial.eraseDups entries =
      (initial ++ entries.map GroupEntry.name).eraseDups := by
  induction entries generalizing initial with
  | nil =>
      rw [gather, List.map_nil, List.append_nil]
  | cons entry rest inductionHypothesis =>
      have extended := eraseDups_append_singleton initial entry.name
      have tail := inductionHypothesis (initial ++ [entry.name])
      rw [List.append_assoc, List.singleton_append] at tail
      rw [gather, List.map_cons, ← tail, extended]
      by_cases known : entry.name ∈ initial
      · rw [if_pos (List.mem_eraseDups.2 known), if_pos known]
      · rw [if_neg (mt List.mem_eraseDups.1 known), if_neg known]

mutual

theorem gatherTree_eraseDups (initial : List String) (tree : GroupTree α) :
    gatherTree initial.eraseDups tree =
      (initial ++ tree.allEntries.map GroupEntry.name).eraseDups := by
  cases tree with
  | mk connective entries children =>
      rw [gatherTree, gather_eraseDups, gatherAll_eraseDups _ children, allEntries,
        List.map_append, List.append_assoc]

theorem gatherAll_eraseDups (initial : List String) (trees : List (GroupTree α)) :
    gatherAll initial.eraseDups trees =
      (initial ++ (entriesOfAll trees).map GroupEntry.name).eraseDups := by
  cases trees with
  | nil =>
      rw [gatherAll, entriesOfAll, List.map_nil, List.append_nil]
  | cons tree rest =>
      rw [gatherAll, gatherTree_eraseDups initial tree, gatherAll_eraseDups _ rest, entriesOfAll,
        List.map_append, List.append_assoc]

end

/-- The names of the groups of a tree are those of its entries, without repetition. -/
theorem groupNames_eq (tree : GroupTree α) :
    tree.groupNames = (tree.allEntries.map GroupEntry.name).eraseDups := by
  have gathered := gatherTree_eraseDups [] tree
  rwa [List.nil_append] at gathered

section Map

universe v

variable {β : Type v}

mutual

theorem allEntries_map (change : α → β) (tree : GroupTree α) :
    (tree.map change).allEntries = tree.allEntries.map (GroupEntry.map change) := by
  cases tree with
  | mk connective entries children =>
      rw [map, allEntries, allEntries, entriesOfAll_mapAll change children, List.map_append]

theorem entriesOfAll_mapAll (change : α → β) (trees : List (GroupTree α)) :
    entriesOfAll (mapAll change trees) = (entriesOfAll trees).map (GroupEntry.map change) := by
  cases trees with
  | nil =>
      rfl
  | cons tree rest =>
      rw [mapAll, entriesOfAll, entriesOfAll, allEntries_map change tree,
        entriesOfAll_mapAll change rest, List.map_append]

end

theorem groupNames_map (change : α → β) (tree : GroupTree α) :
    (tree.map change).groupNames = tree.groupNames := by
  rw [groupNames_eq, groupNames_eq, allEntries_map, List.map_map]
  rfl

end Map

theorem allEntries_withChild (tree child : GroupTree α) :
    (tree.withChild child).allEntries = tree.allEntries ++ child.allEntries := by
  cases tree with
  | mk connective entries children =>
      rw [withChild, allEntries, entriesOfAll_append, entriesOfAll, entriesOfAll,
        List.append_nil, ← List.append_assoc, ← allEntries]

/-- The names of a further child come last, those that the tree has left out. -/
theorem groupNames_withChild (tree child : GroupTree α) :
    (tree.withChild child).groupNames =
      tree.groupNames ++ child.groupNames.filter fun name => name ∉ tree.groupNames := by
  have added (names known : List String) :
      (names.removeAll known).eraseDups =
        names.eraseDups.filter fun name => name ∉ known.eraseDups := by
    rw [List.removeAll, eraseDups_filter]
    refine List.filter_congr fun name _ => ?_
    simp
  rw [groupNames_eq, groupNames_eq, groupNames_eq, allEntries_withChild, List.map_append,
    List.eraseDups_append, added]

theorem at?_updateAt
    (change : GroupTree α → GroupTree α) (tree : GroupTree α) (address : List Nat) :
    (tree.updateAt change address).at? address = (tree.at? address).map change := by
  induction address generalizing tree with
  | nil =>
      rfl
  | cons index rest inductionHypothesis =>
      rw [updateAt, at?]
      cases found : tree.children[index]? with
      | none =>
          simp [at?, found]
      | some child =>
          have inside : index < tree.children.length :=
            (List.getElem?_eq_some_iff.1 found).1
          have replaced := inductionHypothesis child
          simpa [at?, found, List.getElem?_set_self inside] using replaced

/-- The names of the groups of a tree are those of its entries, depth first and without the
occurrences after the first: they are distinct, and each is carried by an entry. A further child
of a node, anywhere in the tree, appends to the names of that node those of its own that are new
there. -/
theorem groupNames_firstAppearances (tree child : GroupTree α) :
    tree.groupNames = (tree.allEntries.map GroupEntry.name).eraseDups ∧
    tree.groupNames.Nodup ∧
    (∀ name, name ∈ tree.groupNames ↔ ∃ entry ∈ tree.allEntries, entry.name = name) ∧
    ∀ address,
      ((tree.updateAt (fun node => node.withChild child) address).at? address).map groupNames =
        (tree.at? address).map fun node =>
          node.groupNames ++ child.groupNames.filter fun name => name ∉ node.groupNames := by
  have names := tree.groupNames_eq
  refine ⟨names, ?_, ?_, ?_⟩
  · rw [names]
    exact nodup_eraseDups _
  · intro name
    rw [names, List.mem_eraseDups, List.mem_map]
  · intro address
    rw [at?_updateAt, Option.map_map]
    refine congrArg (Option.map · (tree.at? address)) (funext fun node => ?_)
    exact node.groupNames_withChild child

end WhereClause.GroupTree
