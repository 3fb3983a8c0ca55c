import WhereClause.Field

/-!
# Who owns a key

A table looks for a path before it looks for a column; several groups are all searched for a path
before any is searched for a column. Main statements: the owner is the first group whose table has
a field of its kind for the key, with the field that this table has, and a column is owned only
where no table has a path; and a group whose table does not know the key makes no difference to
its owner.
-/

namespace WhereClause

namespace Scope

variable {scope : Scope} {key : String} {field : Field}

theorem isDocument_of_path? (found : scope.path? key = some field) : field.isDocument = true := by
  obtain ⟨document, -, rfl⟩ := Option.map_eq_some_iff.1 found
  rfl

theorem isDocument_of_column? (found : scope.column? key = some field) :
    field.isDocument = false := by
  obtain ⟨expression, -, rfl⟩ := Option.map_eq_some_iff.1 found
  rfl

theorem field?_eq_none_iff :
    scope.field? key = none ↔ scope.path? key = none ∧ scope.column? key = none := by
  rw [field?]
  cases scope.path? key with
  | none =>
      simp
  | some path =>
      simp

/-- The field of a key lies in a document column exactly where the key names a path. -/
theorem path?_eq_some_iff :
    scope.path? key = some field ↔ scope.field? key = some field ∧ field.isDocument = true := by
  rw [field?]
  cases found : scope.path? key with
  | none =>
      constructor
      · rintro ⟨⟩
      · rintro ⟨column, isDocument⟩
        rw [isDocument_of_column? column] at isDocument
        cases isDocument
  | some path =>
      constructor
      · rintro ⟨⟩
        exact ⟨rfl, isDocument_of_path? found⟩
      · exact And.left

theorem path?_eq_none_iff :
    scope.path? key = none ↔
      ∀ other, scope.field? key = some other → other.isDocument = false := by
  rw [Option.eq_none_iff_forall_not_mem]
  refine forall_congr' fun other => ?_
  rw [Option.mem_def, path?_eq_some_iff, not_and, Bool.not_eq_true]

/-- Where a key names no path, its field is the column of that key. -/
theorem field?_eq_column? (pathless : scope.path? key = none) :
    scope.field? key = scope.column? key := by
  rw [field?, pathless]

end Scope

namespace Group

variable {find : Scope → Option Field} {groups : List Group}

theorem first?_eq_none_iff :
    first? find groups = none ↔ ∀ group ∈ groups, find group.scope = none := by
  rw [first?, List.findSome?_eq_none_iff]
  simp only [Option.map_eq_none_iff]

theorem first?_eq_some_iff {group : Group} {field : Field} :
    first? find groups = some (group, field) ↔
      ∃ before after, groups = before ++ group :: after ∧ find group.scope = some field ∧
        ∀ earlier ∈ before, find earlier.scope = none := by
  rw [first?, List.findSome?_eq_some_iff]
  simp only [Option.map_eq_none_iff, Option.map_eq_some_iff]
  constructor
  · rintro ⟨before, _, after, same, ⟨_, found, ⟨⟩⟩, blocked⟩
    exact ⟨before, after, same, found, blocked⟩
  · rintro ⟨before, after, same, found, blocked⟩
    exact ⟨before, group, after, same, ⟨field, found, rfl⟩, blocked⟩

/-- A group in which nothing is found is passed over, wherever it stands. -/
theorem first?_insert
    {group : Group} (nothing : find group.scope = none) (before after : List Group) :
    first? find (before ++ group :: after) = first? find (before ++ after) := by
  rw [first?, first?, List.findSome?_append, List.findSome?_append, List.findSome?_cons, nothing]
  rfl

variable {key : String}

/-- A group whose table does not know the key makes no difference to its owner. -/
theorem owner?_insert
    {group : Group} (unknown : group.scope.field? key = none) (before after : List Group) :
    owner? (before ++ group :: after) key = owner? (before ++ after) key := by
  obtain ⟨pathless, columnless⟩ := Scope.field?_eq_none_iff.1 unknown
  rw [owner?, owner?, first?_insert pathless, first?_insert columnless]

theorem owner?_eq_none_iff :
    owner? groups key = none ↔ ∀ group ∈ groups, group.scope.field? key = none := by
  have unowned :
      owner? groups key = none ↔
        first? (fun scope => scope.path? key) groups = none ∧
          first? (fun scope => scope.column? key) groups = none := by
    rw [owner?]
    cases first? (fun scope => scope.path? key) groups with
    | none =>
        simp
    | some owner =>
        simp
  rw [unowned, first?_eq_none_iff, first?_eq_none_iff]
  constructor
  · rintro ⟨pathless, columnless⟩ group member
    exact Scope.field?_eq_none_iff.2 ⟨pathless group member, columnless group member⟩
  · intro unknown
    exact ⟨fun group member => (Scope.field?_eq_none_iff.1 (unknown group member)).1,
      fun group member => (Scope.field?_eq_none_iff.1 (unknown group member)).2⟩

variable {group : Group} {field : Field}

/-- A path is owned by the first group whose table has one. -/
theorem owner?_eq_some_iff_of_path (isDocument : field.isDocument = true) :
    owner? groups key = some (group, field) ↔
      first? (fun scope => scope.path? key) groups = some (group, field) := by
  rw [owner?]
  cases first? (fun scope => scope.path? key) groups with
  | some owner =>
      rfl
  | none =>
      constructor
      · intro owned
        obtain ⟨_, _, -, column, -⟩ := first?_eq_some_iff.1 owned
        rw [Scope.isDocument_of_column? column] at isDocument
        cases isDocument
      · rintro ⟨⟩

/-- A column is owned by the first group whose table has one, if no table has a path. -/
theorem owner?_eq_some_iff_of_column (isColumn : field.isDocument = false) :
    owner? groups key = some (group, field) ↔
      (∀ member ∈ groups, member.scope.path? key = none) ∧
        first? (fun scope => scope.column? key) groups = some (group, field) := by
  have pathless :
      first? (fun scope => scope.path? key) groups = none ↔
        ∀ member ∈ groups, member.scope.path? key = none :=
    first?_eq_none_iff
  rw [owner?, ← pathless]
  cases found : first? (fun scope => scope.path? key) groups with
  | none =>
      simp
  | some owner =>
      obtain ⟨first, path⟩ := owner
      constructor
      · rintro ⟨⟩
        obtain ⟨_, _, -, isPath, -⟩ := first?_eq_some_iff.1 found
        rw [Scope.isDocument_of_path? isPath] at isColumn
        cases isColumn
      · rintro ⟨⟨⟩, -⟩

/-- Searching groups agrees with searching the table of each. No group owns a key exactly where
no table has a field for it. What is owned is the field that the owner's own table has, no group
before the owner has a field of the same kind, and if it is a column, no group at all has a path. -/
theorem owner?_agrees_with_scopes (groups : List Group) (key : String) :
    (owner? groups key = none ↔ ∀ group ∈ groups, group.scope.field? key = none) ∧
    ∀ (group : Group) (field : Field),
      owner? groups key = some (group, field) ↔
        ∃ before after, groups = before ++ group :: after ∧
          group.scope.field? key = some field ∧
          (∀ earlier ∈ before, ∀ other, earlier.scope.field? key = some other →
            other.isDocument ≠ field.isDocument) ∧
          (field.isDocument = false → ∀ member ∈ groups, ∀ other,
            member.scope.field? key = some other → other.isDocument = false) := by
  refine ⟨owner?_eq_none_iff, fun group field => ?_⟩
  cases kind : field.isDocument with
  | true =>
      rw [owner?_eq_some_iff_of_path kind, first?_eq_some_iff]
      simp [Scope.path?_eq_some_iff, Scope.path?_eq_none_iff, kind]
  | false =>
      rw [owner?_eq_some_iff_of_column kind, first?_eq_some_iff]
      simp only [← Scope.path?_eq_none_iff, true_implies]
      constructor
      · rintro ⟨pathless, before, after, rfl, found, blocked⟩
        have ownField := Scope.field?_eq_column? (pathless group (by simp))
        refine ⟨before, after, rfl, ownField.trans found, ?_, pathless⟩
        intro earlier member other hasField
        have field := Scope.field?_eq_column? (pathless earlier (by simp [member]))
        rw [field, blocked earlier member] at hasField
        cases hasField
      · rintro ⟨before, after, rfl, found, blocked, pathless⟩
        have ownField := Scope.field?_eq_column? (pathless group (by simp))
        refine ⟨pathless, before, after, rfl, ownField.symm.trans found, ?_⟩
        intro earlier member
        have earlierPathless := pathless earlier (by simp [member])
        have field := Scope.field?_eq_column? earlierPathless
        rw [← field, Option.eq_none_iff_forall_not_mem]
        intro other hasField
        exact blocked earlier member other hasField
          (Scope.path?_eq_none_iff.1 earlierPathless other hasField)

/-- Groups that disagree about the kind of a key: it is a column of the first one, and a path into
a column of the others, which one of them declares twice. -/
def levelGroups : List Group :=
  [⟨"accounts", ⟨Dict.ofList [("meta.level", "a.level"), ("score", "a.score")], []⟩⟩,
    ⟨"members",
      ⟨Dict.ofList [("score", "m.score")],
        [⟨"meta", "m.meta", [⟨"level", .number⟩]⟩, ⟨"meta", "m.notes", []⟩]⟩⟩,
    ⟨"visits", ⟨Dict.empty, [⟨"meta", "v.meta", []⟩]⟩⟩]

/-- The path is owned although a column of that key comes first, and by the first group that has
one; a column of two groups is owned by the first. -/
theorem owner?_agrees_with_scopes_of_levels :
    (∃ before group after field,
      levelGroups = before ++ group :: after ∧ group.name = "members" ∧
      owner? levelGroups "meta.level" = some (group, field) ∧
      group.scope.field? "meta.level" = some field ∧
      field.sql = .ok "(m.meta -> 'level')::integer" ∧
      ∀ earlier ∈ before, ∀ other, earlier.scope.field? "meta.level" = some other →
        other.isDocument = false) ∧
    (∃ group field,
      owner? levelGroups "score" = some (group, field) ∧ group.name = "accounts" ∧
      ∀ member ∈ levelGroups, ∀ other, member.scope.field? "score" = some other →
        other.isDocument = false) ∧
    owner? levelGroups "level" = none := by
  refine ⟨?_, ?_, ?_⟩
  · have owned : owner? levelGroups "meta.level" =
        some (⟨"members",
            ⟨Dict.ofList [("score", "m.score")],
              [⟨"meta", "m.meta", [⟨"level", .number⟩]⟩, ⟨"meta", "m.notes", []⟩]⟩⟩,
          .path ⟨"meta", "m.meta", [⟨"level", .number⟩]⟩ ["level"]) := by
      decide +kernel
    obtain ⟨before, after, same, found, blocked, -⟩ :=
      ((owner?_agrees_with_scopes levelGroups "meta.level").2 _ _).1 owned
    refine ⟨before, _, after, _, same, rfl, owned, found, rfl, ?_⟩
    intro earlier member other hasField
    exact Bool.eq_false_iff.2 (blocked earlier member other hasField)
  · have owned : owner? levelGroups "score" =
        some (⟨"accounts",
            ⟨Dict.ofList [("meta.level", "a.level"), ("score", "a.score")], []⟩⟩,
          .column "score" "a.score") := by
      decide +kernel
    obtain ⟨_, _, -, -, -, columns⟩ :=
      ((owner?_agrees_with_scopes levelGroups "score").2 _ _).1 owned
    exact ⟨_, _, owned, rfl, columns rfl⟩
  · exact (owner?_agrees_with_scopes levelGroups "level").1.2 (by decide +kernel)

end Group

end WhereClause
