import WhereClause.Proofs.Distribution.Node
import WhereClause.Proofs.Ownership

/-!
# Groups that own nothing

Main statement: a group whose table knows none of the keys on which a filter has conditions can
stand anywhere among the others, and what the filter is split into, or why it is rejected, is the
same as without it.
-/

namespace WhereClause

namespace Filter

variable {left right : List Group}

/-- Whether groups and others have the same owners for the keys of some conditions. -/
def AgreeOn (left right : List Group) (leaves : List (String × Json)) : Prop :=
  ∀ leaf ∈ leaves, Group.owner? left leaf.1 = Group.owner? right leaf.1

theorem agreeOn_append_iff {first second : List (String × Json)} :
    AgreeOn left right (first ++ second) ↔
      AgreeOn left right first ∧ AgreeOn left right second :=
  List.forall_mem_append

mutual

/-- A tree is built the same way for groups that agree on the conditions that are added. -/
theorem addTo_congr
    (filter : Filter) (agree : AgreeOn left right filter.leaves) (tree : PhraseTree) :
    filter.addTo left tree = filter.addTo right tree := by
  cases filter with
  | rejected cause =>
      rfl
  | all clauses =>
      exact addClauses_congr clauses agree tree

theorem addClause_congr
    (clause : Clause) (agree : AgreeOn left right (leavesOfClause clause)) (tree : PhraseTree) :
    addClause left clause tree = addClause right clause tree := by
  cases clause with
  | set connective children =>
      have sameChild := addFilters_congr children agree (GroupTree.bare connective)
      rw [addClause, addClause, sameChild]
  | negation child =>
      have sameNegated := addTo_congr child agree (GroupTree.bare .conjunction)
      rw [addClause, addClause, sameNegated]
  | leaf key condition =>
      have sameOwner := agree (key, condition) (List.mem_singleton_self _)
      rw [addClause, addClause, addLeaf, addLeaf, sameOwner]

theorem addClauses_congr
    (clauses : List Clause) (agree : AgreeOn left right (leavesOfClauses clauses))
    (tree : PhraseTree) :
    addClauses left clauses tree = addClauses right clauses tree := by
  cases clauses with
  | nil =>
      rfl
  | cons clause rest =>
      rw [leavesOfClauses, agreeOn_append_iff] at agree
      rw [addClauses, addClauses, addClause_congr clause agree.1 tree]
      exact bind_congr fun extended => addClauses_congr rest agree.2 extended

theorem addFilters_congr
    (filters : List Filter) (agree : AgreeOn left right (leavesOfAll filters))
    (tree : PhraseTree) :
    addFilters left filters tree = addFilters right filters tree := by
  cases filters with
  | nil =>
      rfl
  | cons filter rest =>
      rw [leavesOfAll, agreeOn_append_iff] at agree
      rw [addFilters, addFilters, addTo_congr filter agree.1 tree]
      exact bind_congr fun extended => addFilters_congr rest agree.2 extended

end

end Filter

/-- What a filter is split into depends on the groups only by who owns the keys of its
conditions. -/
theorem splitAmong_congr
    {left right : List Group} {json : Json} (someLeft : left ≠ []) (someRight : right ≠ [])
    (agree : Filter.AgreeOn left right (Filter.ofJson json).leaves) :
    splitAmong left json = splitAmong right json := by
  rw [splitAmong, splitAmong, if_neg (by simpa using someLeft), if_neg (by simpa using someRight)]
  cases read : Filter.rootOfJson json with
  | error cause =>
      rfl
  | ok root =>
      obtain ⟨connective, children⟩ := root
      -- the conditions of the filter are those of the children of its root
      rw [Filter.ofJson_of_rootOfJson read, Filter.leaves, Filter.leavesOfClauses,
        Filter.agreeOn_append_iff] at agree
      have sameTree :
          Filter.distribute left connective children =
            Filter.distribute right connective children :=
        Filter.addFilters_congr children agree.1 (GroupTree.bare connective)
      simp only [sameTree]

/-- A group whose table knows none of the keys of a filter's conditions makes no difference,
wherever it stands among the others: the filter is split into the same tree with the same
parameters, or rejected for the same reason. -/
theorem splitAmong_insert
    {before after : List Group} {group : Group} {json : Json}
    (someGroup : before ++ after ≠ [])
    (unknown : ∀ leaf ∈ (Filter.ofJson json).leaves, group.scope.field? leaf.1 = none) :
    splitAmong (before ++ group :: after) json = splitAmong (before ++ after) json := by
  have someMore : before ++ group :: after ≠ [] := by
    simp
  refine splitAmong_congr someMore someGroup fun leaf member => ?_
  exact Group.owner?_insert (unknown leaf member) before after

/-- A group with a column and a document column of its own. -/
def visitGroup : Group :=
  ⟨"visits", ⟨Dict.ofList [("visitedAt", "v.at")], [⟨"scores", "v.scores", []⟩]⟩⟩

/-- A disjunction whose second part has a condition on the given key. -/
def nestedNegationsOr (key : String) : Json :=
  .obj [("or", .arr [nestedNegations, .obj [(key, .obj [("eq", .int 1)])]])]

/-- The visits make no difference between the members and the accounts, whether the filter is split
or rejected for a key that no group knows. -/
theorem splitAmong_insert_of_visits :
    (∃ result : GroupedFilter Phrase,
      splitAmong [memberGroup, visitGroup, accountGroup] (nestedNegationsOr "plan") =
        .ok result ∧
      splitAmong [memberGroup, accountGroup] (nestedNegationsOr "plan") = .ok result) ∧
    splitAmong [memberGroup, visitGroup, accountGroup] (nestedNegationsOr "visits") =
      .error (.fieldOfNoGroup "visits") := by
  have ofKnown :
      splitAmong ([memberGroup] ++ visitGroup :: [accountGroup]) (nestedNegationsOr "plan") =
        splitAmong ([memberGroup] ++ [accountGroup]) (nestedNegationsOr "plan") :=
    splitAmong_insert (by simp) (by decide +kernel)
  have ofUnknown :
      splitAmong ([memberGroup] ++ visitGroup :: [accountGroup]) (nestedNegationsOr "visits") =
        splitAmong ([memberGroup] ++ [accountGroup]) (nestedNegationsOr "visits") :=
    splitAmong_insert (by simp) (by decide +kernel)
  have split : splitAmong [memberGroup, accountGroup] (nestedNegationsOr "plan") = .ok _ := rfl
  have rejected :
      splitAmong [memberGroup, accountGroup] (nestedNegationsOr "visits") =
        .error (.fieldOfNoGroup "visits") := rfl
  exact ⟨⟨_, ofKnown.trans split, split⟩, ofUnknown.trans rejected⟩

end WhereClause
