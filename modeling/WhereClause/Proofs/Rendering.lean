import WhereClause.Proofs.Distribution.Value

/-!
# Trees as they are written

A node with one operand adds no parentheses, and a negated condition has none around it. Main
statement: nevertheless the text of a tree reads as its value, for every tree and every way to
write its entries as closed units, negated or not.
-/

namespace WhereClause

universe u

/-- Texts as one unit: `(1=1)` for none, the text itself for one, and several between
parentheses. -/
def Connective.unitedText (connective : Connective) : List String → String
  | [] => "(1=1)"
  | [text] => text
  | texts => "(" ++ (" " ++ connective.sql ++ " ").intercalate texts ++ ")"

namespace Phrase

theorem text_joined (connective : Connective) (parts : List Phrase) :
    (joined connective parts).text =
      (" " ++ connective.sql ++ " ").intercalate (parts.map text) := by
  induction parts with
  | nil =>
      rw [List.map_nil, String.intercalate_nil]
      rfl
  | cons part rest inductionHypothesis =>
      cases rest with
      | nil =>
          rw [List.map_singleton, String.intercalate_singleton, joined]
      | cons next others =>
          calc
            (joined connective (part :: next :: others)).text
              = part.text ++ ((Symbol.junction connective).text ++
                  (joined connective (next :: others)).text) :=
                text_append part _
            _ = part.text ++ (" " ++ connective.sql ++ " ") ++
                  (" " ++ connective.sql ++ " ").intercalate
                    ((next :: others).map text) := by
                rw [inductionHypothesis, Symbol.text, ← String.append_assoc]
            _ = (" " ++ connective.sql ++ " ").intercalate
                  ((part :: next :: others).map text) := by
                simp only [List.map_cons, String.intercalate_cons_cons]

theorem text_enclosed (phrase : Phrase) : (enclosed phrase).text = "(" ++ phrase.text ++ ")" := by
  rw [enclosed, List.cons_append, text, text_append, ← String.append_assoc]
  rfl

theorem text_united (connective : Connective) (parts : List Phrase) :
    (united connective parts).text = connective.unitedText (parts.map text) := by
  rcases parts with _ | ⟨part, _ | ⟨next, others⟩⟩
  · rfl
  · rfl
  · have several :
        united connective (part :: next :: others) =
          enclosed (joined connective (part :: next :: others)) := rfl
    rw [several, text_enclosed, text_joined]
    rfl

end Phrase

namespace GroupTree

variable {α : Type u}

mutual

/-- The text of a tree, with a text for each entry. -/
def written (ofEntry : GroupEntry α → String) : GroupTree α → String
  | ⟨connective, entries, children⟩ =>
      connective.unitedText (entries.map ofEntry ++ writtenAll ofEntry children)

def writtenAll (ofEntry : GroupEntry α → String) : List (GroupTree α) → List String
  | [] => []
  | tree :: rest => written ofEntry tree :: writtenAll ofEntry rest

end

variable {ofEntry : GroupEntry α → Phrase}

theorem renderAll_eq_map (trees : List (GroupTree α)) :
    renderAll ofEntry trees = trees.map (render ofEntry) := by
  induction trees with
  | nil =>
      rfl
  | cons tree rest inductionHypothesis =>
      rw [renderAll, inductionHypothesis, List.map_cons]

mutual

/-- The phrase of a tree is written as the tree is. -/
theorem text_render (tree : GroupTree α) :
    (tree.render ofEntry).text = tree.written fun entry => (ofEntry entry).text := by
  cases tree with
  | mk connective entries children =>
      rw [render, written, Phrase.text_united, List.map_append, List.map_map,
        text_renderAll children]
      rfl

theorem text_renderAll (trees : List (GroupTree α)) :
    (renderAll ofEntry trees).map Phrase.text =
      writtenAll (fun entry => (ofEntry entry).text) trees := by
  cases trees with
  | nil =>
      rfl
  | cons tree rest =>
      rw [renderAll, writtenAll, List.map_cons, text_render tree, text_renderAll rest]

end

section Map

universe v

variable {β : Type v}

mutual

theorem written_map (change : α → β) (ofEntry : GroupEntry β → String) (tree : GroupTree α) :
    (tree.map change).written ofEntry =
      tree.written fun entry => ofEntry (entry.map change) := by
  cases tree with
  | mk connective entries children =>
      rw [map, written, written, writtenAll_mapAll change ofEntry children, List.map_map]
      rfl

theorem writtenAll_mapAll
    (change : α → β) (ofEntry : GroupEntry β → String) (trees : List (GroupTree α)) :
    writtenAll ofEntry (mapAll change trees) =
      writtenAll (fun entry => ofEntry (entry.map change)) trees := by
  cases trees with
  | nil =>
      rfl
  | cons tree rest =>
      rw [mapAll, writtenAll, writtenAll, written_map change ofEntry tree,
        writtenAll_mapAll change ofEntry rest]

end

end Map

end GroupTree

/-- The text of an entry: its conditions, all of which have to hold. -/
def GroupEntry.joinedText (entry : GroupEntry String) : String :=
  Connective.conjunction.unitedText entry.conditions

/-- The text of a tree is that of the tree of its texts. -/
theorem GroupTree.text_render_joined (tree : GroupTree Phrase) :
    (tree.render GroupEntry.joined).text =
      (tree.map Phrase.text).written GroupEntry.joinedText := by
  have ofEntry (entry : GroupEntry Phrase) :
      entry.joined.text = (entry.map Phrase.text).joinedText :=
    Phrase.text_united .conjunction entry.conditions
  rw [text_render, written_map]
  simp only [ofEntry]

namespace Phrase.IsFactor

variable {phrase : Phrase}

theorem negated (factor : phrase.IsFactor) : IsFactor (.negation :: phrase) := by
  intro truth
  obtain ⟨value, reading⟩ := factor truth
  exact ⟨value.not, reading.negated⟩

theorem valueOrTrue_negated (factor : phrase.IsFactor) (truth : String → Truth) :
    valueOrTrue truth (.negation :: phrase) = (phrase.valueOrTrue truth).not := by
  have reading := factor.reads truth
  exact (factor.negated.reads truth).unique reading.negated

end Phrase.IsFactor

/-- A tree is written with as few parentheses as its operands allow, and reads as its value: a
bare node is true, and any other one combines its entries and its children. This holds for every
way to write the entries as closed units, negated or not, and also where an entry is the
conjunction of its conditions and these are such units. Any text can be such a unit, if it is
taken as an atom. -/
theorem GroupTree.render_reads_as_value :
    (∀ (α : Type) (tree : GroupTree α) (ofEntry : GroupEntry α → Phrase),
      (∀ entry ∈ tree.allEntries, (ofEntry entry).IsFactor) →
        (tree.render ofEntry).text = tree.written (fun entry => (ofEntry entry).text) ∧
        ∀ truth : String → Truth,
          (tree.render ofEntry).value? truth =
            some (tree.value fun entry => (ofEntry entry).valueOrTrue truth)) ∧
    (∀ tree : GroupTree Phrase,
      (∀ entry ∈ tree.allEntries, ∀ condition ∈ entry.conditions, condition.IsFactor) →
        (tree.render GroupEntry.joined).text =
          tree.written (fun entry =>
            Connective.conjunction.unitedText (entry.conditions.map Phrase.text)) ∧
        ∀ truth : String → Truth,
          (tree.render GroupEntry.joined).value? truth =
            some (tree.value fun entry =>
              Connective.conjunction.combine
                (entry.conditions.map (Phrase.valueOrTrue truth)))) ∧
    ∀ (unit : String) (truth : String → Truth),
      (Phrase.atom unit).IsFactor ∧ Phrase.IsFactor (.negation :: Phrase.atom unit) ∧
      (Phrase.atom unit).text = unit ∧
      Phrase.text (.negation :: Phrase.atom unit) = "not " ++ unit ∧
      (Phrase.atom unit).valueOrTrue truth = truth unit ∧
      Phrase.valueOrTrue truth (.negation :: Phrase.atom unit) = (truth unit).not := by
  refine ⟨?_, ?_, ?_⟩
  · intro α tree ofEntry factors
    refine ⟨text_render tree, ?_⟩
    intro truth
    have reading := reads_render tree fun entry member => (factors entry member).reads truth
    exact reading.toSum.value?_eq
  · intro tree factors
    refine ⟨?_, fun truth => value?_render factors truth⟩
    have joinedText (entry : GroupEntry Phrase) :
        entry.joined.text =
          Connective.conjunction.unitedText (entry.conditions.map Phrase.text) :=
      Phrase.text_united .conjunction entry.conditions
    rw [text_render tree]
    simp only [joinedText]
  · intro unit truth
    have factor := Phrase.IsFactor.atom unit
    have atomText : (Phrase.atom unit).text = unit := String.append_empty
    have atomValue := Phrase.IsFactor.valueOrTrue_atom unit truth
    refine ⟨factor, factor.negated, atomText, congrArg ("not " ++ ·) atomText, atomValue, ?_⟩
    rw [factor.valueOrTrue_negated, atomValue]

/-- Two entries of one name, one of them empty, a negated condition, a bare child, and a child
that has only a child. -/
def looseTree : GroupTree Phrase :=
  ⟨.conjunction,
    [⟨"members", [Phrase.atom "(a)", .negation :: Phrase.atom "(b)"]⟩, ⟨"members", []⟩,
      ⟨"accounts", [.negation :: Phrase.atom "(c)"]⟩],
    [⟨.disjunction, [], []⟩,
      ⟨.conjunction, [],
        [⟨.disjunction, [⟨"members", [Phrase.atom "(d)"]⟩, ⟨"accounts", [Phrase.atom "(e)"]⟩],
          []⟩]⟩]⟩

/-- A unit for each entry of the accounts, and a negated one for all others. -/
def unitOfEntry (entry : GroupEntry Phrase) : Phrase :=
  if entry.name = "accounts" then Phrase.atom "(accounts)"
  else .negation :: Phrase.atom ("(" ++ entry.name ++ ")")

/-- The operands of the loose tree are read apart, also where nothing encloses them. -/
theorem GroupTree.render_reads_as_value_of_looseTree :
    (looseTree.render GroupEntry.joined).text =
        "(((a) and not (b)) and (1=1) and not (c) and (1=1) and ((d) or (e)))" ∧
      (∀ truth : String → Truth,
        (looseTree.render GroupEntry.joined).value? truth =
          some (((truth "(a)").and (truth "(b)").not).and
            ((truth "(c)").not.and ((truth "(d)").or (truth "(e)"))))) ∧
      (looseTree.render unitOfEntry).text =
        "(not (members) and not (members) and (accounts) and (1=1) and " ++
          "(not (members) or (accounts)))" ∧
      ∀ truth : String → Truth,
        (looseTree.render unitOfEntry).value? truth =
          some (looseTree.value fun entry => (unitOfEntry entry).valueOrTrue truth) := by
  obtain ⟨ofUnits, ofConditions, units⟩ := render_reads_as_value
  have factors : ∀ entry ∈ looseTree.allEntries, ∀ condition ∈ entry.conditions,
      condition.IsFactor := by
    have atoms := fun unit => (units unit fun _ => .true).1
    have negations := fun unit => (units unit fun _ => .true).2.1
    simp [looseTree, allEntries, entriesOfAll, atoms, negations]
  have entryFactors : ∀ entry ∈ looseTree.allEntries, (unitOfEntry entry).IsFactor := by
    intro entry _
    rw [unitOfEntry]
    split
    · exact (units _ fun _ => .true).1
    · exact (units _ fun _ => .true).2.1
  obtain ⟨-, conditionsRead⟩ := ofConditions looseTree factors
  obtain ⟨-, unitsRead⟩ := ofUnits Phrase looseTree unitOfEntry entryFactors
  refine ⟨rfl, ?_, rfl, unitsRead⟩
  intro truth
  rw [conditionsRead truth]
  have atomValue := fun unit => (units unit truth).2.2.2.2.1
  have negationValue := fun unit => (units unit truth).2.2.2.2.2
  simp [looseTree, value, values, Connective.combine?, Connective.apply, Connective.neutral,
    atomValue, negationValue]

end WhereClause
