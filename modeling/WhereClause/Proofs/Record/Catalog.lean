import WhereClause.Proofs.Record.Shape
import WhereClause.Record.Catalog

/-!
# Catalogs with groups

Main statement: JSON with an array of groups is read as these groups, one for each item, or not at
all, exactly when the groups are given once and every item has the shape of a group, or the JSON
does not have the shape of a table; otherwise it is read as a table.
-/

namespace WhereClause

open Record

namespace Attribute

def FieldFits (field : String) (value : Json) : Prop :=
  if field = "name" then IsText value
  else IsVariant (AttributeKind.all.map AttributeKind.name) value

def IsFilled (field : String) (draft : Draft) : Prop :=
  if field = "name" then draft.name ≠ none else draft.kind ≠ none

/-- JSON that is read as an attribute. -/
def HasShape : Json → Prop :=
  IsRecord format.fields FieldFits

theorem mem_names_iff {field : String} :
    field ∈ format.names ↔ field = "name" ∨ field = "type" :=
  List.mem_pair

theorem isFieldwise : format.IsFieldwise FieldFits IsFilled where
  nodup := by decide
  blank := by simp [format, Format.names, IsFilled]
  take_iff field known value draft := by
    rcases mem_names_iff.1 known with rfl | rfl
    · exact exists_fill_bind_iff.trans (and_congr not_not.symm accepts_string_iff)
    · exact exists_fill_bind_iff.trans (and_congr not_not.symm accepts_variant_iff)
  filled_iff field known value draft next taken other otherKnown := by
    rcases mem_names_iff.1 known with rfl | rfl
    all_goals
      obtain ⟨_, content, _, rfl⟩ := fill_bind_eq_ok_iff.1 taken
      rcases mem_names_iff.1 otherKnown with rfl | rfl <;> simp [IsFilled]
  finish_iff draft := by
    simp [format, IsFilled, bind_eq_ok_iff, required_eq_ok_iff, pure, Except.pure,
      ← Option.ne_none_iff_exists']

theorem accepts_read_iff (json : Json) : Accepts read json ↔ HasShape json :=
  isFieldwise.accepts_read_iff json

end Attribute

namespace DocumentColumn

def FieldFits (field : String) (value : Json) : Prop :=
  if field = "attributeInfos" then IsList Attribute.HasShape value else IsText value

def IsFilled (field : String) (draft : Draft) : Prop :=
  if field = "property" then draft.property ≠ none
  else if field = "column" then draft.column ≠ none
  else draft.attributes ≠ none

/-- JSON that is read as a document column. -/
def HasShape : Json → Prop :=
  IsRecord format.fields FieldFits

theorem mem_names_iff {field : String} :
    field ∈ format.names ↔ field = "property" ∨ field = "column" ∨ field = "attributeInfos" := by
  simp [format, Format.names]

theorem isFieldwise : format.IsFieldwise FieldFits IsFilled where
  nodup := by decide
  blank := by simp [format, Format.names, IsFilled]
  take_iff field known value draft := by
    rcases mem_names_iff.1 known with rfl | rfl | rfl
    · exact exists_fill_bind_iff.trans (and_congr not_not.symm accepts_string_iff)
    · exact exists_fill_bind_iff.trans (and_congr not_not.symm accepts_string_iff)
    · exact exists_fill_bind_iff.trans
        (and_congr not_not.symm (accepts_list_iff Attribute.accepts_read_iff))
  filled_iff field known value draft next taken other otherKnown := by
    rcases mem_names_iff.1 known with rfl | rfl | rfl
    all_goals
      obtain ⟨_, content, _, rfl⟩ := fill_bind_eq_ok_iff.1 taken
      rcases mem_names_iff.1 otherKnown with rfl | rfl | rfl <;> simp [IsFilled]
  finish_iff draft := by
    simp [format, IsFilled, bind_eq_ok_iff, required_eq_ok_iff, pure, Except.pure,
      ← Option.ne_none_iff_exists']

theorem accepts_read_iff (json : Json) : Accepts read json ↔ HasShape json :=
  isFieldwise.accepts_read_iff json

end DocumentColumn

namespace Scope

def FieldFits (field : String) (value : Json) : Prop :=
  if field = "columnMap" then IsDict IsText value else IsList DocumentColumn.HasShape value

def Draft.IsFilled (field : String) (draft : Draft) : Prop :=
  if field = "columnMap" then draft.columns ≠ none else draft.documents ≠ none

/-- JSON that is read as the columns of a table. -/
def HasShape : Json → Prop :=
  IsRecord format.fields FieldFits

theorem mem_names_iff {field : String} :
    field ∈ format.names ↔ field = "columnMap" ∨ field = "jsonColumnInfos" :=
  List.mem_pair

theorem Draft.exists_take_iff
    {field : String} (known : field ∈ format.names) (value : Json) (draft : Draft) :
    (∃ next, draft.take field value = .ok next) ↔
      ¬draft.IsFilled field ∧ FieldFits field value := by
  rcases mem_names_iff.1 known with rfl | rfl
  · exact exists_fill_bind_iff.trans
      (and_congr not_not.symm (accepts_dict_iff fun _ => accepts_string_iff))
  · exact exists_fill_bind_iff.trans
      (and_congr not_not.symm (accepts_list_iff DocumentColumn.accepts_read_iff))

theorem Draft.isFilled_iff_of_take
    {field : String} (known : field ∈ format.names) {value : Json} {draft next : Draft}
    (taken : draft.take field value = .ok next)
    {other : String} (otherKnown : other ∈ format.names) :
    next.IsFilled other ↔ other = field ∨ draft.IsFilled other := by
  rcases mem_names_iff.1 known with rfl | rfl
  all_goals
    obtain ⟨_, content, _, rfl⟩ := fill_bind_eq_ok_iff.1 taken
    rcases mem_names_iff.1 otherKnown with rfl | rfl <;> simp [Draft.IsFilled]

theorem isFieldwise : format.IsFieldwise FieldFits Draft.IsFilled where
  nodup := by decide
  blank := by simp [format, Format.names, Draft.IsFilled, Draft.blank]
  take_iff _ known value draft := Draft.exists_take_iff known value draft
  filled_iff _ known _ _ _ taken _ otherKnown := Draft.isFilled_iff_of_take known taken otherKnown
  finish_iff draft := by
    simp [format]

theorem accepts_read_iff (json : Json) : Accepts read json ↔ HasShape json :=
  isFieldwise.accepts_read_iff json

end Scope

namespace Group

def FieldFits (field : String) (value : Json) : Prop :=
  if field = "name" then IsText value else Scope.FieldFits field value

def IsFilled (field : String) (draft : Draft) : Prop :=
  if field = "name" then draft.name ≠ none else draft.scope.IsFilled field

/-- JSON that is read as a group. -/
def HasShape : Json → Prop :=
  IsRecord format.fields FieldFits

theorem mem_names_iff {field : String} :
    field ∈ format.names ↔ field = "name" ∨ field ∈ Scope.format.names :=
  List.mem_cons

theorem ne_name {field : String} (known : field ∈ Scope.format.names) : field ≠ "name" := by
  rintro rfl
  exact absurd known (by decide)

theorem isFieldwise : format.IsFieldwise FieldFits IsFilled where
  nodup := by decide
  blank := by simp [format, Format.names, IsFilled, Scope.Draft.IsFilled, Scope.Draft.blank]
  take_iff field known value draft := by
    rcases mem_names_iff.1 known with rfl | scopeKnown
    · exact exists_fill_bind_iff.trans (and_congr not_not.symm accepts_string_iff)
    · have taken := Scope.Draft.exists_take_iff scopeKnown value draft.scope
      simp only [format, IsFilled, FieldFits, if_neg (ne_name scopeKnown), ← taken,
        bind_eq_ok_iff]
      constructor
      · rintro ⟨_, scope, read, _⟩
        exact ⟨scope, read⟩
      · rintro ⟨scope, read⟩
        exact ⟨_, scope, read, rfl⟩
  filled_iff field known value draft next taken other otherKnown := by
    rcases mem_names_iff.1 known with rfl | scopeKnown
    · obtain ⟨_, content, _, rfl⟩ := fill_bind_eq_ok_iff.1 taken
      rcases mem_names_iff.1 otherKnown with rfl | otherKnown
      · simp [IsFilled]
      · simp [IsFilled, ne_name otherKnown]
    · simp only [format, if_neg (ne_name scopeKnown), bind_eq_ok_iff] at taken
      obtain ⟨scope, scopeTaken, ⟨⟩⟩ := taken
      rcases mem_names_iff.1 otherKnown with rfl | otherKnown
      · simp [IsFilled, Ne.symm (ne_name scopeKnown)]
      · have filled := Scope.Draft.isFilled_iff_of_take scopeKnown scopeTaken otherKnown
        simp [IsFilled, ne_name otherKnown, filled]
  finish_iff draft := by
    simp [format, IsFilled, bind_eq_ok_iff, required_eq_ok_iff, pure, Except.pure,
      ← Option.ne_none_iff_exists']

theorem accepts_read_iff (json : Json) : Accepts read json ↔ HasShape json :=
  isFieldwise.accepts_read_iff json

end Group

/-! ## Catalogs -/

namespace Catalog

variable {members : List (String × Json)} {values : List Json}

theorem groupsFormat_isFieldwise :
    groupsFormat.IsFieldwise (fun _ => IsList Group.HasShape) fun _ draft => draft ≠ none where
  nodup := by decide
  blank := by simp [groupsFormat]
  take_iff field _ value draft := by
    have taken :
        (∃ next, fill field (list Group.read) value draft = .ok next) ↔
          draft = none ∧ Accepts (list Group.read) value := by
      simp [fill_eq_ok_iff, Accepts]
    rw [not_not, ← accepts_list_iff Group.accepts_read_iff]
    exact taken
  filled_iff field known value draft next taken other otherKnown := by
    obtain ⟨_, content, _, rfl⟩ := fill_eq_ok_iff.1 taken
    have same : other = field :=
      (List.mem_singleton.1 otherKnown).trans (List.mem_singleton.1 known).symm
    simp [same]
  finish_iff draft := by
    simp [groupsFormat, required_eq_ok_iff, ← Option.ne_none_iff_exists']

/-- Groups are read when they are given once, as a list of groups. -/
theorem accepts_readGrouped_iff :
    Accepts readGrouped (.obj members) ↔
      ∃ value, Entries.valuesUnder "groups" members = [value] ∧
        IsList Group.HasShape value := by
  rw [← isGiven_required_iff]
  exact (groupsFormat_isFieldwise.accepts_obj_iff members).trans List.forall_mem_singleton

/-- The groups that are read come from one of the values given to their name. -/
theorem exists_list_of_takeMembers
    {draft : Option (List Group)} {groups : List Group}
    (run : takeMembers groupsFormat members draft = .ok (some groups)) :
    draft = some groups ∨
      ∃ value ∈ Entries.valuesUnder "groups" members, list Group.read value = .ok groups := by
  induction members generalizing draft with
  | nil =>
      cases run
      exact Or.inl rfl
  | cons head rest inductionHypothesis =>
      obtain ⟨name, value⟩ := head
      rw [takeMembers_cons] at run
      by_cases known : name ∈ groupsFormat.names
      · obtain rfl := List.mem_singleton.1 known
        rw [if_pos known, bind_eq_ok_iff] at run
        obtain ⟨next, taken, run⟩ := run
        obtain ⟨_, content, read, rfl⟩ := fill_eq_ok_iff.1 taken
        rw [Entries.valuesUnder_cons_self]
        rcases inductionHypothesis run with same | ⟨later, member, readLater⟩
        · cases same
          exact Or.inr ⟨value, List.mem_cons_self, read⟩
        · exact Or.inr ⟨later, List.mem_cons_of_mem _ member, readLater⟩
      · rw [if_neg known] at run
        rw [Entries.valuesUnder_cons_of_ne (mt List.mem_singleton.2 known)]
        exact inductionHypothesis run

/-- Where an array of groups is read, it is the only one, and each group is read from the item in
its place. -/
theorem forall₂_of_readGrouped
    (hasGroups : ("groups", .arr values) ∈ members) {groups : List Group}
    (read : readGrouped (.obj members) = .ok groups) :
    List.Forall₂ (fun value group => Group.read value = .ok group) values groups := by
  obtain ⟨given, only, _⟩ := accepts_readGrouped_iff.1 ⟨groups, read⟩
  have isGiven : .arr values = given := by
    rw [← Entries.mem_valuesUnder_iff, only] at hasGroups
    exact List.mem_singleton.1 hasGroups
  obtain ⟨draft, run, finished⟩ := bind_eq_ok_iff.1 read
  rw [show groupsFormat.finish draft = required "groups" draft from rfl, required_eq_ok_iff]
    at finished
  subst finished
  rcases exists_list_of_takeMembers run with filled | ⟨value, member, readValues⟩
  · cases filled
  · rw [only, List.mem_singleton, ← isGiven] at member
    subst member
    exact forall₂_of_items_eq_ok readValues

/-- JSON is read as a table when it is not read as groups and has the shape of a table. -/
theorem exists_read_eq_single_iff {json : Json} :
    (∃ scope, read json = .ok (.single scope)) ↔
      ¬Accepts readGrouped json ∧ Scope.HasShape json := by
  rw [← Scope.accepts_read_iff, Accepts, Accepts, read]
  cases readGrouped json with
  | ok groups =>
      simp
  | error cause =>
      cases Scope.read json <;> simp

/-- The result is the groups read from the values, one for each, or an error. -/
def ReadsAsGroups (values : List Json) (result : Reading Catalog) : Prop :=
  (∃ groups, result = .ok (.grouped groups) ∧
    List.Forall₂ (fun value group => Group.read value = .ok group) values groups) ∨
  ∃ cause, result = .error cause

theorem readsAsGroups_iff_not_single (hasGroups : ("groups", .arr values) ∈ members) :
    ReadsAsGroups values (read (.obj members)) ↔
      ¬∃ scope, read (.obj members) = .ok (.single scope) := by
  rw [read]
  cases grouped : readGrouped (.obj members) with
  | ok groups =>
      simp [ReadsAsGroups, forall₂_of_readGrouped hasGroups grouped]
  | error cause =>
      cases Scope.read (.obj members) <;> simp [ReadsAsGroups]

/-- An array of groups is read as these groups or not at all exactly when no other value is given
for the groups and every item has the shape of a group, or the members do not have the shape of
a table. -/
theorem readsAsGroups_read_iff (hasGroups : ("groups", .arr values) ∈ members) :
    ReadsAsGroups values (read (.obj members)) ↔
      (Entries.valuesUnder "groups" members = [.arr values] ∧
        ∀ value ∈ values, Group.HasShape value) ∨
      ¬Scope.HasShape (.obj members) := by
  rw [readsAsGroups_iff_not_single hasGroups, exists_read_eq_single_iff, not_and_or, not_not,
    accepts_readGrouped_iff]
  refine or_congr_left ⟨?_, ?_⟩
  · rintro ⟨given, only, items, rfl, itemsFit⟩
    rw [← Entries.mem_valuesUnder_iff, only, List.mem_singleton] at hasGroups
    cases hasGroups
    exact ⟨only, itemsFit⟩
  · rintro ⟨only, itemsFit⟩
    exact ⟨_, only, values, rfl, itemsFit⟩

def scoreColumn : Json :=
  .obj [("score", .str "m.score")]

/-- Two groups, one as an array and one as an object, in JSON that is no table. -/
theorem readsAsGroups_read_iff_of_members :
    let members := .arr [.str "members", scoreColumn]
    let accounts := .obj [("name", .str "accounts"), ("comment", .null)]
    let json := [("columnMap", .int 7), ("groups", .arr [members, accounts])]
    ("groups", .arr [members, accounts]) ∈ json ∧
      ReadsAsGroups [members, accounts] (read (.obj json)) := by
  intro members accounts json
  have hasGroups : ("groups", .arr [members, accounts]) ∈ json :=
    List.mem_cons_of_mem _ List.mem_cons_self
  refine ⟨hasGroups, (readsAsGroups_read_iff hasGroups).2 (Or.inl ⟨by decide, ?_⟩)⟩
  intro value member
  rw [← Group.accepts_read_iff]
  rcases List.mem_pair.1 member with rfl | rfl
  · exact ⟨⟨"members", Dict.ofList [("score", "m.score")], []⟩, rfl⟩
  · exact ⟨Group.named "accounts", rfl⟩

/-- Two groups, of which the second has no name. -/
def secondUnnamed : List Json :=
  [.obj [("name", .str "members"), ("columnMap", scoreColumn)],
    .obj [("columnMap", .obj [("plan", .str "a.plan")])]]

/-- Where one group has no name, both are passed over and a table without columns is read. -/
theorem not_forall_readsAsGroups_read :
    ¬ ∀ (members : List (String × Json)) (values : List Json),
      (Json.obj members).Distinct → ("groups", .arr values) ∈ members →
      ReadsAsGroups values (read (.obj members)) := by
  intro always
  have distinct : (Json.obj [("groups", .arr secondUnnamed)]).Distinct := by
    simp [secondUnnamed, scoreColumn, Json.Distinct, Json.DistinctItems, Json.DistinctMembers,
      Entries.names]
  have hasGroups : ("groups", .arr secondUnnamed) ∈ [("groups", Json.arr secondUnnamed)] :=
    List.mem_cons_self
  exact (readsAsGroups_iff_not_single hasGroups).1 (always _ _ distinct hasGroups)
    ⟨Scope.empty, rfl⟩

end Catalog

end WhereClause
