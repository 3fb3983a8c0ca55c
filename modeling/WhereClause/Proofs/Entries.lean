import Mathlib.Data.List.Induction
import WhereClause.GroupTree

/-!
# Entries collected by name

Main statement: extending entries by one addition after the other collects the additions, each
name where it first appears and with all that is added under it.
-/

namespace WhereClause

universe u v

theorem eraseDups_append_singleton (names : List String) (name : String) :
    (names ++ [name]).eraseDups =
      if name ∈ names then names.eraseDups else names.eraseDups ++ [name] := by
  rw [List.eraseDups_append]
  by_cases known : name ∈ names
  · simp [known, List.removeAll]
  · simp [known, List.removeAll, List.eraseDups_cons]

theorem nodup_eraseDups (names : List String) : names.eraseDups.Nodup := by
  induction names using List.reverseRecOn with
  | nil =>
      simp
  | append_singleton initial last inductionHypothesis =>
      rw [eraseDups_append_singleton]
      by_cases known : last ∈ initial
      · rwa [if_pos known]
      · rw [if_neg known, List.nodup_append]
        refine ⟨inductionHypothesis, by simp, ?_⟩
        rintro name member other isLast rfl
        rw [List.mem_singleton.1 isLast] at member
        exact known (List.mem_eraseDups.1 member)

theorem eraseDups_filter (keeps : String → Bool) (names : List String) :
    (names.filter keeps).eraseDups = names.eraseDups.filter keeps := by
  induction names using List.reverseRecOn with
  | nil =>
      rfl
  | append_singleton initial last inductionHypothesis =>
      rw [List.filter_append, eraseDups_append_singleton]
      by_cases kept : keeps last = true
      · rw [List.filter_cons_of_pos kept, List.filter_nil, eraseDups_append_singleton,
          inductionHypothesis]
        by_cases known : last ∈ initial <;> simp [known, kept]
      · rw [List.filter_cons_of_neg kept, List.filter_nil, List.append_nil,
          inductionHypothesis]
        by_cases known : last ∈ initial <;> simp [known, kept]

namespace GroupEntry

variable {α : Type u} {β : Type v}

/-- What is added under a name, in order. -/
def addedUnder (name : String) (additions : List (String × List α)) : List α :=
  (additions.filter fun addition => addition.1 = name).flatMap Prod.snd

/-- One entry for each name, where the name first appears, with all that is added under
it. -/
def collect (additions : List (String × List α)) : List (GroupEntry α) :=
  (additions.map Prod.fst).eraseDups.map fun name => ⟨name, addedUnder name additions⟩

theorem map_name_collect (additions : List (String × List α)) :
    (collect additions).map name = (additions.map Prod.fst).eraseDups := by
  rw [collect, List.map_map]
  exact List.map_id _

theorem addedUnder_append_singleton
    (name other : String) (added : List α) (additions : List (String × List α)) :
    addedUnder name (additions ++ [(other, added)]) =
      addedUnder name additions ++ if other = name then added else [] := by
  by_cases same : other = name <;> simp [addedUnder, same]

theorem extend_map
    {names : List String} (distinct : names.Nodup) (name : String) (added : List α)
    (held : String → List α) :
    extend name added (names.map fun other => ⟨other, held other⟩) =
      if name ∈ names then
        names.map fun other => ⟨other, held other ++ if name = other then added else []⟩
      else (names.map fun other => ⟨other, held other⟩) ++ [⟨name, added⟩] := by
  induction names with
  | nil =>
      rfl
  | cons other rest inductionHypothesis =>
      obtain ⟨otherFresh, restDistinct⟩ := List.nodup_cons.1 distinct
      rw [List.map_cons, extend]
      by_cases same : other = name
      · subst same
        rw [if_pos rfl, if_pos List.mem_cons_self, List.map_cons, if_pos rfl]
        congr 1
        refine List.map_congr_left fun later member => ?_
        have different : other ≠ later := fun equality => otherFresh (equality ▸ member)
        rw [if_neg different, List.append_nil]
      · rw [if_neg same, inductionHypothesis restDistinct]
        by_cases known : name ∈ rest
        · rw [if_pos known, if_pos (List.mem_cons_of_mem other known), List.map_cons,
            if_neg (Ne.symm same), List.append_nil]
        · rw [if_neg known, if_neg]
          · rfl
          · simp [known, Ne.symm same]

/-- Extending entries by additions, one after the other, collects them. -/
theorem foldl_extend (additions : List (String × List α)) :
    additions.foldl (fun entries addition => extend addition.1 addition.2 entries) [] =
      collect additions := by
  induction additions using List.reverseRecOn with
  | nil =>
      rfl
  | append_singleton initial last inductionHypothesis =>
      obtain ⟨name, added⟩ := last
      rw [List.foldl_append, inductionHypothesis, List.foldl_cons, List.foldl_nil, collect,
        extend_map (nodup_eraseDups _), collect, List.map_append, List.map_singleton,
        eraseDups_append_singleton]
      simp only [List.mem_eraseDups]
      by_cases known : name ∈ initial.map Prod.fst
      · rw [if_pos known, if_pos known]
        simp only [addedUnder_append_singleton]
      · rw [if_neg known, if_neg known, List.map_append]
        congr 1
        · refine List.map_congr_left fun other member => ?_
          have different : name ≠ other := fun equality =>
            known (List.mem_eraseDups.1 (equality ▸ member))
          rw [addedUnder_append_singleton, if_neg different, List.append_nil]
        · have none : initial.filter (fun addition => addition.1 = name) = [] := by
            refine List.filter_eq_nil_iff.2 fun addition member => ?_
            rw [decide_eq_true_eq]
            rintro rfl
            exact known (List.mem_map_of_mem member)
          rw [List.map_singleton, addedUnder_append_singleton, addedUnder, none, if_pos rfl]
          rfl

theorem map_collect (change : α → β) (additions : List (String × List α)) :
    (collect additions).map (map change) =
      collect (additions.map fun addition => (addition.1, addition.2.map change)) := by
  have sameNames :
      (additions.map fun addition => (addition.1, addition.2.map change)).map Prod.fst =
        additions.map Prod.fst := by
    rw [List.map_map]
    rfl
  rw [collect, collect, List.map_map, sameNames]
  refine List.map_congr_left fun name _ => ?_
  simp only [Function.comp_apply, map, addedUnder, List.map_flatMap, List.filter_map,
    List.flatMap_map]
  rfl

end GroupEntry

end WhereClause
