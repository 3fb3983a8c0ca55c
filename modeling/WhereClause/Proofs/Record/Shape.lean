import Mathlib.Data.List.Forall2
import WhereClause.Record.Basic

/-!
# The shape of the JSON of a record

Main statement: where a format takes its fields independently of each other, it reads exactly the
objects that give every field at most once, and once where it is required, and the arrays that
give the fields in order.
-/

namespace WhereClause

namespace Entries

variable {α : Type}

/-- The values given to a name, in order. -/
def valuesUnder (name : String) (entries : List (String × α)) : List α :=
  (entries.filter fun entry => entry.1 = name).map Prod.snd

theorem valuesUnder_cons_self (name : String) (value : α) (rest : List (String × α)) :
    valuesUnder name ((name, value) :: rest) = value :: valuesUnder name rest := by
  simp [valuesUnder]

theorem valuesUnder_cons_of_ne
    {name other : String} (different : other ≠ name) (value : α)
    (rest : List (String × α)) :
    valuesUnder name ((other, value) :: rest) = valuesUnder name rest := by
  simp [valuesUnder, different]

theorem mem_valuesUnder_iff
    {name : String} {value : α} {entries : List (String × α)} :
    value ∈ valuesUnder name entries ↔ (name, value) ∈ entries := by
  simp [valuesUnder]

end Entries

namespace Record

section Parts

variable {α β : Type}

/-- The reader finds a value in the JSON. -/
def Accepts (reader : Json → Reading α) (json : Json) : Prop :=
  ∃ value, reader json = .ok value

theorem bind_eq_ok_iff {reading : Reading α} {next : α → Reading β} {result : β} :
    reading >>= next = .ok result ↔
      ∃ value, reading = .ok value ∧ next value = .ok result := by
  cases reading with
  | error cause =>
      simp [bind, Except.bind]
  | ok value =>
      simp [bind, Except.bind]

theorem fill_eq_ok_iff
    {name : String} {reader : Json → Reading β} {json : Json} {held next : Option β} :
    fill name reader json held = .ok next ↔
      held = none ∧ ∃ content, reader json = .ok content ∧ next = some content := by
  cases held with
  | some content =>
      simp [fill]
  | none =>
      rw [fill, bind_eq_ok_iff]
      simp [pure, Except.pure, eq_comm]

/-- A step that fills one place succeeds when the place is free and the value is read. -/
theorem fill_bind_eq_ok_iff
    {name : String} {reader : Json → Reading β} {json : Json} {held : Option β}
    {update : Option β → α} {next : α} :
    (fill name reader json held >>= fun content => pure (update content)) = .ok next ↔
      held = none ∧ ∃ content, reader json = .ok content ∧ update (some content) = next := by
  rw [bind_eq_ok_iff]
  constructor
  · rintro ⟨_, filled, ⟨⟩⟩
    obtain ⟨unfilled, content, read, rfl⟩ := fill_eq_ok_iff.1 filled
    exact ⟨unfilled, content, read, rfl⟩
  · rintro ⟨unfilled, content, read, rfl⟩
    exact ⟨some content, fill_eq_ok_iff.2 ⟨unfilled, content, read, rfl⟩, rfl⟩

theorem exists_fill_bind_iff
    {name : String} {reader : Json → Reading β} {json : Json} {held : Option β}
    {update : Option β → α} :
    (∃ next, (fill name reader json held >>= fun content => pure (update content)) =
      .ok next) ↔ held = none ∧ Accepts reader json := by
  simp only [fill_bind_eq_ok_iff]
  constructor
  · rintro ⟨_, unfilled, content, read, _⟩
    exact ⟨unfilled, content, read⟩
  · rintro ⟨unfilled, content, read⟩
    exact ⟨_, unfilled, content, read, rfl⟩

theorem required_eq_ok_iff {name : String} {held : Option β} {content : β} :
    required name held = .ok content ↔ held = some content := by
  cases held <;> simp [required]

def IsText (json : Json) : Prop :=
  ∃ text, json = .str text

theorem accepts_string_iff {json : Json} : Accepts string json ↔ IsText json := by
  cases json <;> simp [Accepts, IsText, string]

/-- One of the names, or an object whose only member has one of the names and holds nothing. -/
def IsVariant (names : List String) (json : Json) : Prop :=
  ∃ name ∈ names, json = .str name ∨ json = .obj [(name, .null)]

theorem exists_variantNamed_iff {all : List α} {nameOf : α → String} {name : String} :
    (∃ found, variantNamed all nameOf name = .ok found) ↔ name ∈ all.map nameOf := by
  have search : (∃ found, variantNamed all nameOf name = .ok found) ↔
      (all.find? fun candidate => nameOf candidate = name).isSome := by
    rw [variantNamed]
    cases all.find? fun candidate => nameOf candidate = name <;> simp
  rw [search, List.find?_isSome, List.mem_map]
  simp

theorem accepts_variant_iff {all : List α} {nameOf : α → String} {json : Json} :
    Accepts (variant all nameOf) json ↔ IsVariant (all.map nameOf) json := by
  match json with
  | .str name =>
      simp only [Accepts, variant, exists_variantNamed_iff]
      simp [IsVariant]
  | .obj [(name, content)] =>
      by_cases isNull : content = .null
      · have read : Accepts (variant all nameOf) (.obj [(name, content)]) ↔
            name ∈ all.map nameOf := by
          rw [← exists_variantNamed_iff]
          simp [Accepts, variant, bind_eq_ok_iff, isNull, pure, Except.pure]
        rw [read]
        simp [IsVariant, isNull]
      · simp [Accepts, variant, bind_eq_ok_iff, IsVariant, isNull, throw, throwThe,
          MonadExceptOf.throw]
  | .obj [] | .obj (_ :: _ :: _) | .null | .bool _ | .int _ | .double _ | .arr _ =>
      simp [Accepts, variant, IsVariant]

/-- A list of items that fit. -/
def IsList (fits : Json → Prop) (json : Json) : Prop :=
  ∃ values, json = .arr values ∧ ∀ value ∈ values, fits value

theorem exists_items_iff {item : Json → Reading α} {values : List Json} :
    (∃ results, items item values = .ok results) ↔ ∀ value ∈ values, Accepts item value := by
  induction values with
  | nil =>
      simp [items]
  | cons first rest inductionHypothesis =>
      rw [List.forall_mem_cons, ← inductionHypothesis]
      simp only [items, bind_eq_ok_iff]
      constructor
      · rintro ⟨_, value, read, results, readRest, _⟩
        exact ⟨⟨value, read⟩, results, readRest⟩
      · rintro ⟨⟨value, read⟩, results, readRest⟩
        exact ⟨value :: results, value, read, results, readRest, rfl⟩

theorem accepts_list_iff
    {item : Json → Reading α} {fits : Json → Prop} {json : Json}
    (itemFits : ∀ value, Accepts item value ↔ fits value) :
    Accepts (list item) json ↔ IsList fits json := by
  cases json with
  | arr values =>
      have read : Accepts (list item) (.arr values) ↔ ∀ value ∈ values, Accepts item value :=
        exists_items_iff
      rw [read]
      simp [IsList, itemFits]
  | null | bool | int | double | str | obj =>
      simp [Accepts, IsList, list]

/-- Each item is read from the value in its place. -/
theorem forall₂_of_items_eq_ok
    {item : Json → Reading α} {values : List Json} {results : List α}
    (read : items item values = .ok results) :
    List.Forall₂ (fun value result => item value = .ok result) values results := by
  induction values generalizing results with
  | nil =>
      cases read
      exact .nil
  | cons first rest inductionHypothesis =>
      simp only [items, bind_eq_ok_iff] at read
      obtain ⟨result, readFirst, others, readRest, ⟨⟩⟩ := read
      exact .cons readFirst (inductionHypothesis readRest)

/-- An object whose members hold values that fit, whatever their names. -/
def IsDict (fits : Json → Prop) (json : Json) : Prop :=
  ∃ contents, json = .obj contents ∧ ∀ member ∈ contents, fits member.2

theorem exists_members_iff
    {value : Json → Reading α} {contents : List (String × Json)} :
    (∃ entries, members value contents = .ok entries) ↔
      ∀ member ∈ contents, Accepts value member.2 := by
  induction contents with
  | nil =>
      simp [members]
  | cons first rest inductionHypothesis =>
      obtain ⟨name, content⟩ := first
      rw [List.forall_mem_cons, ← inductionHypothesis]
      simp only [members, bind_eq_ok_iff]
      constructor
      · rintro ⟨_, held, read, entries, readRest, _⟩
        exact ⟨⟨held, read⟩, entries, readRest⟩
      · rintro ⟨⟨held, read⟩, entries, readRest⟩
        exact ⟨(name, held) :: entries, held, read, entries, readRest, rfl⟩

theorem accepts_dict_iff
    {value : Json → Reading α} {fits : Json → Prop} {json : Json}
    (valueFits : ∀ content, Accepts value content ↔ fits content) :
    Accepts (dict value) json ↔ IsDict fits json := by
  cases json with
  | obj contents =>
      have read : Accepts (dict value) (.obj contents) ↔
          ∃ entries, members value contents = .ok entries := by
        simp [Accepts, dict, bind_eq_ok_iff, pure, Except.pure]
      rw [read, exists_members_iff]
      simp [IsDict, valueFits]
  | null | bool | int | double | str | arr =>
      simp [Accepts, IsDict, dict]

end Parts

/-! ## Records -/

/-- What is given to a field: one value that fits, or none where the field may be missing. -/
inductive IsGiven (fits : Json → Prop) : Bool → List Json → Prop where
  | once {isRequired : Bool} {value : Json} (valueFits : fits value) :
      IsGiven fits isRequired [value]
  | missing : IsGiven fits false []

theorem isGiven_required_iff {fits : Json → Prop} {values : List Json} :
    IsGiven fits true values ↔ ∃ value, values = [value] ∧ fits value := by
  constructor
  · rintro (valueFits | _)
    exact ⟨_, rfl, valueFits⟩
  · rintro ⟨value, rfl, valueFits⟩
    exact .once valueFits

/-- Values for the fields in order; only fields that may be missing go without. -/
inductive IsRow (fits : String → Json → Prop) : List (String × Bool) → List Json → Prop where
  | done : IsRow fits [] []
  | given {name : String} {isRequired : Bool} {value : Json}
      {fields : List (String × Bool)} {values : List Json}
      (valueFits : fits name value) (others : IsRow fits fields values) :
      IsRow fits ((name, isRequired) :: fields) (value :: values)
  | missing {name : String} {fields : List (String × Bool)}
      (others : IsRow fits fields []) :
      IsRow fits ((name, false) :: fields) []

/-- An object that gives the fields by name, or an array that gives them in order. -/
inductive IsRecord (fields : List (String × Bool)) (fits : String → Json → Prop) :
    Json → Prop where
  | object {contents : List (String × Json)}
      (given : ∀ field ∈ fields,
        IsGiven (fits field.1) field.2 (Entries.valuesUnder field.1 contents)) :
      IsRecord fields fits (.obj contents)
  | array {values : List Json} (row : IsRow fits fields values) :
      IsRecord fields fits (.arr values)

section Records

variable {δ α : Type}

def Format.names (format : Format δ α) : List String :=
  format.fields.map Prod.fst

theorem takeMembers_cons
    (format : Format δ α) (name : String) (value : Json) (rest : List (String × Json)) (draft : δ) :
    takeMembers format ((name, value) :: rest) draft =
      if name ∈ format.names then
        format.take name value draft >>= takeMembers format rest
      else takeMembers format rest draft := by
  have isField : (format.fields.any fun field => field.1 = name) = true ↔
      name ∈ format.names := by
    simp [Format.names]
  rw [takeMembers]
  by_cases known : name ∈ format.names
  · rw [if_pos known, if_pos (isField.2 known)]
  · rw [if_neg known, if_neg (mt isField.1 known)]
    rfl

/-- The format takes every field by itself: a field that is not yet filled takes the values that
fit it, and filling it leaves the other fields as they are. -/
structure Format.IsFieldwise (format : Format δ α) (fits : String → Json → Prop)
    (isFilled : String → δ → Prop) : Prop where
  nodup : format.names.Nodup
  blank : ∀ name ∈ format.names, ¬isFilled name format.blank
  take_iff : ∀ name ∈ format.names, ∀ value draft,
    (∃ next, format.take name value draft = .ok next) ↔
      ¬isFilled name draft ∧ fits name value
  filled_iff : ∀ name ∈ format.names, ∀ value draft next,
    format.take name value draft = .ok next →
      ∀ other ∈ format.names, isFilled other next ↔ other = name ∨ isFilled other draft
  finish_iff : ∀ draft, (∃ result, format.finish draft = .ok result) ↔
    ∀ field ∈ format.fields, field.2 = true → isFilled field.1 draft

namespace Format.IsFieldwise

variable {format : Format δ α} {fits : String → Json → Prop} {isFilled : String → δ → Prop}

/-- Members are taken when each field is given at most once, with a value that fits, and is not
filled before. -/
theorem exists_takeMembers_iff
    (fieldwise : format.IsFieldwise fits isFilled) (contents : List (String × Json))
    (draft : δ) :
    (∃ final, takeMembers format contents draft = .ok final) ↔
      ∀ name ∈ format.names, Entries.valuesUnder name contents = [] ∨
        ¬isFilled name draft ∧
          ∃ value, Entries.valuesUnder name contents = [value] ∧ fits name value := by
  induction contents generalizing draft with
  | nil =>
      simp [takeMembers, Entries.valuesUnder]
  | cons head rest inductionHypothesis =>
      obtain ⟨name, value⟩ := head
      rw [takeMembers_cons]
      by_cases known : name ∈ format.names
      · simp only [if_pos known, bind_eq_ok_iff]
        constructor
        · rintro ⟨final, next, taken, run⟩ other otherKnown
          obtain ⟨unfilled, valueFits⟩ :=
            (fieldwise.take_iff name known value draft).1 ⟨next, taken⟩
          have filled := fieldwise.filled_iff name known value draft next taken other otherKnown
          have later := (inductionHypothesis next).1 ⟨final, run⟩ other otherKnown
          -- the field that was taken is filled now, so it is not given again; nothing has changed
          -- for any other field
          by_cases same : other = name
          · subst same
            rcases later with notAgain | ⟨stillUnfilled, _⟩
            · refine Or.inr ⟨unfilled, value, ?_, valueFits⟩
              rw [Entries.valuesUnder_cons_self, notAgain]
            · exact absurd (filled.2 (Or.inl rfl)) stillUnfilled
          · rw [Entries.valuesUnder_cons_of_ne (Ne.symm same)]
            simpa [filled, same] using later
        · intro given
          have own := given name known
          simp only [Entries.valuesUnder_cons_self, List.cons_ne_nil, false_or, List.cons.injEq]
            at own
          obtain ⟨unfilled, _, ⟨rfl, notAgain⟩, valueFits⟩ := own
          obtain ⟨next, taken⟩ :=
            (fieldwise.take_iff name known value draft).2 ⟨unfilled, valueFits⟩
          have later : ∃ final, takeMembers format rest next = .ok final := by
            refine (inductionHypothesis next).2 fun other otherKnown => ?_
            by_cases same : other = name
            · subst same
              exact Or.inl notAgain
            · have filled :=
                fieldwise.filled_iff name known value draft next taken other otherKnown
              have otherGiven := given other otherKnown
              rw [Entries.valuesUnder_cons_of_ne (Ne.symm same)] at otherGiven
              simpa [filled, same] using otherGiven
          obtain ⟨final, run⟩ := later
          exact ⟨final, next, taken, run⟩
      · rw [if_neg known, inductionHypothesis]
        refine forall₂_congr fun other otherKnown => ?_
        have different : name ≠ other := fun same => known (same ▸ otherKnown)
        rw [Entries.valuesUnder_cons_of_ne different]

theorem isFilled_iff_of_takeMembers
    (fieldwise : format.IsFieldwise fits isFilled) {contents : List (String × Json)}
    {draft final : δ} (run : takeMembers format contents draft = .ok final)
    {name : String} (known : name ∈ format.names) :
    isFilled name final ↔
      isFilled name draft ∨ Entries.valuesUnder name contents ≠ [] := by
  induction contents generalizing draft with
  | nil =>
      cases run
      simp [Entries.valuesUnder]
  | cons head rest inductionHypothesis =>
      obtain ⟨other, value⟩ := head
      rw [takeMembers_cons] at run
      by_cases otherKnown : other ∈ format.names
      · rw [if_pos otherKnown, bind_eq_ok_iff] at run
        obtain ⟨next, taken, run⟩ := run
        have filled := fieldwise.filled_iff other otherKnown value draft next taken name known
        rw [inductionHypothesis run, filled]
        by_cases same : name = other
        · subst same
          simp [Entries.valuesUnder_cons_self]
        · simp [same, Entries.valuesUnder_cons_of_ne (Ne.symm same)]
      · rw [if_neg otherKnown] at run
        have different : other ≠ name := fun same => otherKnown (same ▸ known)
        rw [inductionHypothesis run, Entries.valuesUnder_cons_of_ne different]

/-- The fields from one on take the items in order, if none of them is filled before. -/
theorem exists_takeItems_iff
    (fieldwise : format.IsFieldwise fits isFilled) (length index : Nat)
    {fields : List (String × Bool)} (values : List Json) {draft : δ}
    (known : ∀ field ∈ fields, field.1 ∈ format.names)
    (nodup : (fields.map Prod.fst).Nodup)
    (unfilled : ∀ field ∈ fields, ¬isFilled field.1 draft) :
    (∃ final, takeItems format length fields values index draft = .ok final) ↔
      IsRow fits fields values := by
  induction fields generalizing values index draft with
  | nil =>
      cases values with
      | nil =>
          exact ⟨fun _ => .done, fun _ => ⟨draft, rfl⟩⟩
      | cons value rest =>
          constructor
          · rintro ⟨_, ⟨⟩⟩
          · rintro ⟨⟩
  | cons field fields inductionHypothesis =>
      obtain ⟨name, isRequired⟩ := field
      obtain ⟨nameKnown, othersKnown⟩ := List.forall_mem_cons.1 known
      obtain ⟨nameUnfilled, othersUnfilled⟩ := List.forall_mem_cons.1 unfilled
      obtain ⟨fresh, othersNodup⟩ := List.nodup_cons.1 nodup
      cases values with
      | nil =>
          rw [takeItems]
          cases isRequired with
          | true =>
              constructor
              · rintro ⟨_, ⟨⟩⟩
              · rintro ⟨⟩
          | false =>
              rw [if_neg Bool.false_ne_true,
                inductionHypothesis _ [] othersKnown othersNodup othersUnfilled]
              constructor
              · exact .missing
              · rintro (_ | _ | others)
                exact others
      | cons value rest =>
          simp only [takeItems, bind_eq_ok_iff]
          have unfilledAfter : ∀ next, format.take name value draft = .ok next →
              ∀ field ∈ fields, ¬isFilled field.1 next := by
            intro next taken other member
            rw [fieldwise.filled_iff name nameKnown value draft next taken other.1
              (othersKnown other member), not_or]
            refine ⟨fun same => fresh ?_, othersUnfilled other member⟩
            exact List.mem_map.2 ⟨other, member, same⟩
          constructor
          · rintro ⟨final, next, taken, run⟩
            have valueFits :=
              ((fieldwise.take_iff name nameKnown value draft).1 ⟨next, taken⟩).2
            exact .given valueFits
              ((inductionHypothesis _ rest othersKnown othersNodup
                (unfilledAfter next taken)).1 ⟨final, run⟩)
          · rintro (_ | ⟨valueFits, others⟩ | _)
            obtain ⟨next, taken⟩ :=
              (fieldwise.take_iff name nameKnown value draft).2 ⟨nameUnfilled, valueFits⟩
            obtain ⟨final, run⟩ :=
              (inductionHypothesis (index + 1) rest othersKnown othersNodup
                (unfilledAfter next taken)).2 others
            exact ⟨final, next, taken, run⟩

/-- A field that is filled stays so, and the required fields that are still to come are
filled. -/
theorem isFilled_of_takeItems
    (fieldwise : format.IsFieldwise fits isFilled) {length index : Nat}
    {fields : List (String × Bool)} {values : List Json} {draft final : δ}
    (known : ∀ field ∈ fields, field.1 ∈ format.names)
    (run : takeItems format length fields values index draft = .ok final)
    {field : String × Bool} (fieldKnown : field.1 ∈ format.names)
    (filledOrDue : isFilled field.1 draft ∨ field ∈ fields ∧ field.2 = true) :
    isFilled field.1 final := by
  induction fields generalizing values index draft with
  | nil =>
      cases values with
      | nil =>
          cases run
          simpa using filledOrDue
      | cons value rest =>
          cases run
  | cons first fields inductionHypothesis =>
      obtain ⟨name, isRequired⟩ := first
      obtain ⟨nameKnown, othersKnown⟩ := List.forall_mem_cons.1 known
      cases values with
      | nil =>
          rw [takeItems] at run
          cases isRequired with
          | true =>
              cases run
          | false =>
              refine inductionHypothesis othersKnown run ?_
              rcases filledOrDue with filled | ⟨due, required⟩
              · exact Or.inl filled
              · rcases List.mem_cons.1 due with rfl | later
                · cases required
                · exact Or.inr ⟨later, required⟩
      | cons value rest =>
          rw [takeItems, bind_eq_ok_iff] at run
          obtain ⟨next, taken, run⟩ := run
          have filled :=
            fieldwise.filled_iff name nameKnown value draft next taken field.1 fieldKnown
          refine inductionHypothesis othersKnown run ?_
          rcases filledOrDue with before | ⟨due, required⟩
          · exact Or.inl (filled.2 (Or.inr before))
          · rcases List.mem_cons.1 due with rfl | later
            · exact Or.inl (filled.2 (Or.inl rfl))
            · exact Or.inr ⟨later, required⟩

theorem mem_names {field : String × Bool} (member : field ∈ format.fields) :
    field.1 ∈ format.names :=
  List.mem_map_of_mem member

theorem accepts_obj_iff
    (fieldwise : format.IsFieldwise fits isFilled) (contents : List (String × Json)) :
    Accepts (read format) (.obj contents) ↔
      ∀ field ∈ format.fields,
        IsGiven (fits field.1) field.2 (Entries.valuesUnder field.1 contents) := by
  simp only [Accepts, read, bind_eq_ok_iff]
  constructor
  · rintro ⟨result, final, run, finished⟩ field member
    have taken :=
      (fieldwise.exists_takeMembers_iff contents format.blank).1 ⟨final, run⟩ field.1
        (mem_names member)
    obtain ⟨name, isRequired⟩ := field
    rcases taken with notGiven | ⟨_, value, only, valueFits⟩
    · -- a field that is not given stays unfilled, so the format could not have finished were
      -- the field required
      have unfilled : ¬isFilled name final := by
        rw [fieldwise.isFilled_iff_of_takeMembers run (mem_names member)]
        simp [notGiven, fieldwise.blank name (mem_names member)]
      cases isRequired with
      | true =>
          have filled := (fieldwise.finish_iff final).1 ⟨result, finished⟩ _ member rfl
          exact absurd filled unfilled
      | false =>
          simpa only [notGiven] using IsGiven.missing
    · simpa only [only] using IsGiven.once valueFits
  · intro given
    have taken : ∃ final, takeMembers format contents format.blank = .ok final := by
      refine (fieldwise.exists_takeMembers_iff contents format.blank).2 fun name member => ?_
      obtain ⟨field, fieldMember, rfl⟩ := List.mem_map.1 member
      have own := given field fieldMember
      generalize Entries.valuesUnder field.1 contents = values at own
      generalize field.2 = isRequired at own
      cases own with
      | once valueFits =>
          exact Or.inr ⟨fieldwise.blank _ member, _, rfl, valueFits⟩
      | missing =>
          exact Or.inl rfl
    obtain ⟨final, run⟩ := taken
    have finished : ∃ result, format.finish final = .ok result := by
      refine (fieldwise.finish_iff final).2 fun field member required => ?_
      have own := given field member
      rw [required, isGiven_required_iff] at own
      obtain ⟨value, only, _⟩ := own
      rw [fieldwise.isFilled_iff_of_takeMembers run (mem_names member), only]
      exact Or.inr (List.cons_ne_nil value [])
    obtain ⟨result, finished⟩ := finished
    exact ⟨result, final, run, finished⟩

theorem accepts_arr_iff
    (fieldwise : format.IsFieldwise fits isFilled) (values : List Json) :
    Accepts (read format) (.arr values) ↔ IsRow fits format.fields values := by
  have taken := fieldwise.exists_takeItems_iff values.length 0 values (fun _ => mem_names)
    fieldwise.nodup fun field member => fieldwise.blank field.1 (mem_names member)
  simp only [Accepts, read, bind_eq_ok_iff]
  constructor
  · rintro ⟨result, final, run, finished⟩
    exact taken.1 ⟨final, run⟩
  · intro row
    obtain ⟨final, run⟩ := taken.2 row
    have finished : ∃ result, format.finish final = .ok result :=
      (fieldwise.finish_iff final).2 fun field member required =>
        fieldwise.isFilled_of_takeItems (fun _ => mem_names) run (mem_names member)
          (Or.inr ⟨member, required⟩)
    obtain ⟨result, finished⟩ := finished
    exact ⟨result, final, run, finished⟩

/-- A format that takes its fields one by one reads exactly the records of these fields. -/
theorem accepts_read_iff (fieldwise : format.IsFieldwise fits isFilled) (json : Json) :
    Accepts (read format) json ↔ IsRecord format.fields fits json := by
  cases json with
  | obj contents =>
      rw [fieldwise.accepts_obj_iff]
      constructor
      · exact .object
      · rintro ⟨given⟩
        exact given
  | arr values =>
      rw [fieldwise.accepts_arr_iff]
      constructor
      · exact .array
      · rintro (_ | row)
        exact row
  | null | bool | int | double | str =>
      constructor
      · rintro ⟨_, ⟨⟩⟩
      · rintro ⟨⟩

end Format.IsFieldwise

end Records

end Record

end WhereClause
