import WhereClause.Proofs.Record.Order
import WhereClause.Record.Catalog
import WhereClause.Record.Result

/-!
# Writing records and reading them back

Main statement: every record is read back as an equal one, dictionaries being equal when they hold
the same values under the same names, and JSON that was written from what was read is written
again as it is.
-/

namespace WhereClause

open Record

namespace Record

variable {α : Type}

/-- Writing and reading are inverse up to the sameness of values. -/
structure RoundTrips (read : Json → Reading α) (write : α → Json) (same : α → α → Prop) :
    Prop where
  /-- What is written is read as the same value. -/
  reads : ∀ value, ∃ again, read (write value) = .ok again ∧ same value again
  /-- Whatever JSON a value is read from, what is written of it is a fixed point. -/
  settles : ∀ json value, read json = .ok value →
    (read (write value)).map write = .ok (write value)

/-- It is enough to know the value that is read back. -/
theorem RoundTrips.of_again
    {read : Json → Reading α} {write : α → Json} {same : α → α → Prop} {again : α → α}
    (read_write : ∀ value, read (write value) = .ok (again value))
    (same_again : ∀ value, same value (again value))
    (write_again : ∀ value, write (again value) = write value) :
    RoundTrips read write same where
  reads value := ⟨again value, read_write value, same_again value⟩
  settles _ value _ := by
    rw [read_write]
    exact congrArg Except.ok (write_again value)

theorem RoundTrips.of_read_write
    {read : Json → Reading α} {write : α → Json}
    (read_write : ∀ value, read (write value) = .ok value) :
    RoundTrips read write (· = ·) :=
  of_again read_write (fun _ => rfl) fun _ => rfl

section Parts

variable {β : Type} {write : α → Json}

@[simp]
theorem ok_bind (value : α) (next : α → Reading β) :
    (Except.ok value : Reading α) >>= next = next value :=
  rfl

@[simp]
theorem map_ok (change : α → β) (value : α) :
    change <$> (Except.ok value : Reading α) = .ok (change value) :=
  rfl

theorem string_str (text : String) : string (.str text) = .ok text :=
  rfl

theorem list_map_write
    {item : Json → Reading α} {again : α → α}
    (read_write : ∀ value, item (write value) = .ok (again value)) (values : List α) :
    list item (.arr (values.map write)) = .ok (values.map again) := by
  induction values with
  | nil =>
      rfl
  | cons value rest inductionHypothesis =>
      rw [list] at inductionHypothesis ⊢
      rw [List.map_cons, items, read_write, inductionHypothesis]
      rfl

theorem members_map_write
    {reader : Json → Reading α} (read_write : ∀ value, reader (write value) = .ok value)
    (entries : List (String × α)) :
    members reader (entries.map fun entry => (entry.1, write entry.2)) = .ok entries := by
  induction entries with
  | nil =>
      rfl
  | cons entry rest inductionHypothesis =>
      rw [List.map_cons, members, read_write, inductionHypothesis]
      rfl

theorem fill_none
    {reader : Json → Reading α} {value : Json} {content : α} (found : reader value = .ok content)
    (name : String) : fill name reader value none = .ok (some content) := by
  rw [fill, found]
  rfl

theorem read_of_takeMembers
    {format : Format β α} {contents : List (String × Json)} {draft : β} {value : α}
    (taken : takeMembers format contents format.blank = .ok draft)
    (finished : format.finish draft = .ok value) :
    Record.read format (.obj contents) = .ok value := by
  rw [Record.read, taken]
  exact finished

/-- A dictionary is read back in the order of its names. -/
theorem dict_writeDict
    {reader : Json → Reading α} (read_write : ∀ value, reader (write value) = .ok value)
    (contents : Dict α) :
    dict reader (writeDict write contents) = .ok contents.ordered := by
  rw [writeDict, dict, members_map_write read_write]
  exact congrArg Except.ok contents.ofList_sorted

theorem writeDict_ordered (contents : Dict α) :
    writeDict write contents.ordered = writeDict write contents := by
  rw [writeDict, contents.sorted_ordered]
  rfl

end Parts

end Record

theorem AttributeKind.read_write (kind : AttributeKind) : read kind.write = .ok kind := by
  cases kind <;> rfl

theorem Attribute.read_write (declared : Attribute) : read declared.write = .ok declared := by
  have name := fill_none (string_str declared.name)
  have kind := fill_none declared.kind.read_write
  have taken :
      takeMembers format [("name", .str declared.name), ("type", declared.kind.write)]
          ⟨none, none⟩ =
        .ok ⟨some declared.name, some declared.kind⟩ := by
    simp [takeMembers, format, name, kind]
  exact read_of_takeMembers taken rfl

theorem DocumentColumn.read_write (document : DocumentColumn) :
    read document.write = .ok document := by
  have property := fill_none (string_str document.property)
  have column := fill_none (string_str document.column)
  have attributes := fill_none (list_map_write Attribute.read_write document.attributes)
  have taken :
      takeMembers format
          [("property", .str document.property), ("column", .str document.column),
            ("attributeInfos", .arr (document.attributes.map Attribute.write))]
          ⟨none, none, none⟩ =
        .ok ⟨some document.property, some document.column, some document.attributes⟩ := by
    simp [takeMembers, format, property, column, attributes]
  exact read_of_takeMembers taken rfl

namespace Scope

/-- The scope with its columns in the order of their names. -/
def ordered (scope : Scope) : Scope :=
  ⟨scope.columns.ordered, scope.documents⟩

/-- The scopes have the same columns, in whatever order, and the same document columns. -/
def SameAs (left right : Scope) : Prop :=
  left.columns.SameAs right.columns ∧ left.documents = right.documents

theorem sameAs_ordered (scope : Scope) : scope.SameAs scope.ordered :=
  ⟨scope.columns.sameAs_ordered, rfl⟩

theorem readColumns_writeDict (columns : Dict String) :
    readColumns (writeDict .str columns) = .ok columns.ordered :=
  dict_writeDict string_str columns

theorem readDocuments_map_write (documents : List DocumentColumn) :
    readDocuments (.arr (documents.map DocumentColumn.write)) = .ok documents := by
  rw [readDocuments, list_map_write DocumentColumn.read_write, List.map_id']

theorem takeMembers_writeMembers (scope : Scope) :
    takeMembers format scope.writeMembers Draft.blank =
      .ok ⟨some scope.columns.ordered, some scope.documents⟩ := by
  have columns := fill_none (readColumns_writeDict scope.columns)
  have documents := fill_none (readDocuments_map_write scope.documents)
  simp [writeMembers, takeMembers, format, Draft.take, Draft.blank, columns, documents]

theorem read_write (scope : Scope) : read scope.write = .ok scope.ordered :=
  read_of_takeMembers scope.takeMembers_writeMembers rfl

theorem writeMembers_ordered (scope : Scope) :
    scope.ordered.writeMembers = scope.writeMembers := by
  simp [writeMembers, ordered, writeDict_ordered]

theorem write_ordered (scope : Scope) : scope.ordered.write = scope.write :=
  congrArg Json.obj scope.writeMembers_ordered

end Scope

namespace Group

/-- The group with its columns in the order of their names. -/
def ordered (group : Group) : Group :=
  ⟨group.name, group.scope.ordered⟩

def SameAs (left right : Group) : Prop :=
  left.name = right.name ∧ left.scope.SameAs right.scope

theorem takeMembers_write (group : Group) :
    takeMembers format (("name", .str group.name) :: group.scope.writeMembers) format.blank =
      .ok ⟨some group.name, some group.scope.columns.ordered, some group.scope.documents⟩ := by
  have name := fill_none (string_str group.name)
  have columns := fill_none (Scope.readColumns_writeDict group.scope.columns)
  have documents := fill_none (Scope.readDocuments_map_write group.scope.documents)
  simp [Scope.writeMembers, takeMembers, format, Scope.Draft.take, Scope.Draft.blank, name,
    columns, documents]

theorem read_write (group : Group) : read group.write = .ok group.ordered :=
  read_of_takeMembers group.takeMembers_write rfl

theorem sameAs_ordered (group : Group) : group.SameAs group.ordered :=
  ⟨rfl, group.scope.sameAs_ordered⟩

theorem write_ordered (group : Group) : group.ordered.write = group.write := by
  rw [write, write, ordered, group.scope.writeMembers_ordered]

end Group

namespace Catalog

def ordered : Catalog → Catalog
  | .grouped groups => .grouped (groups.map Group.ordered)
  | .single scope => .single scope.ordered

/-- Both are groups, the same ones in order, or both are one table, the same one. -/
inductive SameAs : Catalog → Catalog → Prop where
  | grouped {left right : List Group} (groups : List.Forall₂ Group.SameAs left right) :
      SameAs (.grouped left) (.grouped right)
  | single {left right : Scope} (scope : left.SameAs right) :
      SameAs (.single left) (.single right)

theorem read_write (catalog : Catalog) : read catalog.write = .ok catalog.ordered := by
  cases catalog with
  | grouped groups =>
      have groupsRead := list_map_write Group.read_write groups
      have taken :
          takeMembers groupsFormat [("groups", .arr (groups.map Group.write))] none =
            .ok (some (groups.map Group.ordered)) := by
        simp [takeMembers, groupsFormat, fill_none groupsRead]
      have grouped :
          readGrouped (.obj [("groups", .arr (groups.map Group.write))]) =
            .ok (groups.map Group.ordered) :=
        read_of_takeMembers taken rfl
      simp only [Catalog.read, write, grouped, ordered]
  | single scope =>
      have notGrouped : readGrouped scope.write = .error (.missingField "groups") := by
        rfl
      simp only [Catalog.read, write, notGrouped, scope.read_write, ordered]

theorem sameAs_ordered (catalog : Catalog) : catalog.SameAs catalog.ordered := by
  cases catalog with
  | grouped groups =>
      refine .grouped (List.forall₂_map_right_iff.2 (List.forall₂_same.2 fun group _ => ?_))
      exact group.sameAs_ordered
  | single scope =>
      exact .single scope.sameAs_ordered

theorem write_ordered (catalog : Catalog) : catalog.ordered.write = catalog.write := by
  cases catalog with
  | grouped groups =>
      simp [ordered, write, Group.write_ordered]
  | single scope =>
      exact scope.write_ordered

end Catalog

theorem EmptyRule.read_write (rule : EmptyRule) : read rule.write = .ok rule := by
  cases rule <;> rfl

theorem Settings.read_write (settings : Settings) : read settings.write = .ok settings := by
  have rule := fill_none settings.emptyRule.read_write
  have taken :
      takeMembers format [("emptyNodes", settings.emptyRule.write)] none =
        .ok (some settings.emptyRule) := by
    simp [takeMembers, format, rule]
  exact read_of_takeMembers taken rfl

theorem GroupEntry.read_write (entry : GroupEntry String) : read entry.write = .ok entry := by
  have name := fill_none (string_str entry.name)
  have conditions := fill_none (list_map_write string_str entry.conditions)
  have taken :
      takeMembers format
          [("groupName", .str entry.name), ("conditions", .arr (entry.conditions.map .str))]
          ⟨none, none⟩ =
        .ok ⟨some entry.name, some entry.conditions⟩ := by
    simp [takeMembers, format, name, conditions]
  exact read_of_takeMembers taken rfl

/-! ## Trees -/

theorem Connective.read_write (connective : Connective) :
    read connective.write = .ok connective := by
  cases connective <;> rfl

namespace GroupTree

mutual

theorem read_write : ∀ tree : GroupTree String, read tree.write = .ok tree
  | ⟨connective, entries, children⟩ => by
      have entriesRead := list_map_write GroupEntry.read_write entries
      have childrenRead := readAll_writeAll children
      simp [write, read, readMembers, readChildren, fill, required, Draft.tree,
        connective.read_write, entriesRead, childrenRead]

theorem readAll_writeAll : ∀ trees : List (GroupTree String),
    readAll (writeAll trees) = .ok trees
  | [] => rfl
  | tree :: rest => by
      rw [writeAll, readAll, read_write tree, readAll_writeAll rest]
      rfl

end

end GroupTree

theorem Parameters.read_write (parameters : Parameters) :
    read parameters.write = .ok parameters.ordered :=
  dict_writeDict (fun _ => rfl) parameters

theorem Parameters.write_ordered (parameters : Parameters) :
    Parameters.write (Dict.ordered parameters) = parameters.write :=
  writeDict_ordered parameters

namespace GroupedFilter

def ordered (grouped : GroupedFilter String) : GroupedFilter String :=
  ⟨grouped.tree, grouped.parameters.ordered⟩

def SameAs (left right : GroupedFilter String) : Prop :=
  left.tree = right.tree ∧ left.parameters.SameAs right.parameters

theorem read_write (grouped : GroupedFilter String) :
    read grouped.write = .ok grouped.ordered := by
  have tree := fill_none grouped.tree.read_write
  have parameters := fill_none (Parameters.read_write grouped.parameters)
  have taken :
      takeMembers format
          [("filters", grouped.tree.write), ("params", grouped.parameters.write)] ⟨none, none⟩ =
        .ok ⟨some grouped.tree, some grouped.parameters.ordered⟩ := by
    simp [takeMembers, format, tree, parameters]
  exact read_of_takeMembers taken rfl

theorem sameAs_ordered (grouped : GroupedFilter String) : grouped.SameAs grouped.ordered :=
  ⟨rfl, grouped.parameters.sameAs_ordered⟩

theorem write_ordered (grouped : GroupedFilter String) :
    grouped.ordered.write = grouped.write := by
  rw [write, write, ordered, Parameters.write_ordered]

end GroupedFilter

/-- Every record is read back as the same one, and JSON that was written is written again as it
is; in particular one table never turns into groups nor groups into one table. -/
theorem records_roundTrip :
    RoundTrips DocumentColumn.read DocumentColumn.write (· = ·) ∧
    RoundTrips Group.read Group.write Group.SameAs ∧
    RoundTrips Scope.read Scope.write Scope.SameAs ∧
    RoundTrips Catalog.read Catalog.write Catalog.SameAs ∧
    RoundTrips Settings.read Settings.write (· = ·) ∧
    RoundTrips GroupEntry.read GroupEntry.write (· = ·) ∧
    RoundTrips GroupTree.read GroupTree.write (· = ·) ∧
    RoundTrips GroupedFilter.read GroupedFilter.write GroupedFilter.SameAs ∧
    RoundTrips Parameters.read Parameters.write Dict.SameAs ∧
    ∀ scope groups,
      Catalog.read (Catalog.single scope).write ≠ .ok (.grouped groups) ∧
      Catalog.read (Catalog.grouped groups).write ≠ .ok (.single scope) := by
  refine ⟨.of_read_write DocumentColumn.read_write,
    .of_again Group.read_write Group.sameAs_ordered Group.write_ordered,
    .of_again Scope.read_write Scope.sameAs_ordered Scope.write_ordered,
    .of_again Catalog.read_write Catalog.sameAs_ordered Catalog.write_ordered,
    .of_read_write Settings.read_write, .of_read_write GroupEntry.read_write,
    .of_read_write GroupTree.read_write,
    .of_again GroupedFilter.read_write GroupedFilter.sameAs_ordered GroupedFilter.write_ordered,
    .of_again Parameters.read_write Dict.sameAs_ordered Parameters.write_ordered, ?_⟩
  intro scope groups
  rw [Catalog.read_write, Catalog.read_write]
  exact ⟨nofun, nofun⟩

/-- A group with a column as an array, a kind as an object, members that are no fields, and no
columns. -/
def looseGroup : Json :=
  .obj
    [("jsonColumnInfos", .arr
        [.arr [.str "attributes", .str "m.attributes", .arr
          [.obj [("type", .obj [("URL", .null)]), ("name", .str "url"), ("rank", .int 1)]]]]),
      ("comment", .null), ("name", .str "members")]

/-- What is written of a group that was read from another form is a fixed point. -/
theorem records_roundTrip_of_looseGroup :
    ∃ group, Group.read looseGroup = .ok group ∧ group.write ≠ looseGroup ∧
      (Group.read group.write).map Group.write = .ok group.write :=
  ⟨⟨"members", Dict.empty, [⟨"attributes", "m.attributes", [⟨"url", .url⟩]⟩]⟩, rfl, by decide,
    records_roundTrip.2.1.settles looseGroup _ rfl⟩

end WhereClause
