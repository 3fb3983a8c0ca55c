import WhereClause.Filter.Distribution
import WhereClause.Proofs.Clause
import WhereClause.Proofs.Distribution.Assembly
import WhereClause.Proofs.SingleTable.Layout
import WhereClause.Proofs.Skeleton.Condition

/-!
# The skeleton of a filter

The skeleton is what is left of a filter when the operands of its conditions are blanked. Main
statement: filters of the same skeleton compile to the same text and split into the same tree, and
bind the same names.
-/

namespace WhereClause

namespace Json

variable (isDocument : String → Bool)

mutual

/-- A filter with the operands of its conditions blanked, where `isDocument` tells the keys of
document columns. -/
def skeleton : Json → Json
  | .obj members => .obj (skeletonOfMembers members)
  | other => other

def skeletonOfAll : List Json → List Json
  | [] => []
  | item :: rest => skeleton item :: skeletonOfAll rest

/-- The skeleton of the value of a key. -/
def skeletonOfValue (key : String) : Json → Json
  | .arr items =>
      match KeyRole.ofKey key with
      | .set _ => .arr (skeletonOfAll items)
      | .negation => .arr items
      | .field => Condition.blank (isDocument key) (.arr items)
  | .obj members =>
      match KeyRole.ofKey key with
      | .set _ => .obj members
      | .negation => .obj (skeletonOfMembers members)
      | .field => Condition.blank (isDocument key) (.obj members)
  | other => other

def skeletonOfMembers : List (String × Json) → List (String × Json)
  | [] => []
  | (key, value) :: rest => (key, skeletonOfValue key value) :: skeletonOfMembers rest

end

theorem length_skeletonOfMembers (members : List (String × Json)) :
    (skeletonOfMembers isDocument members).length = members.length := by
  induction members with
  | nil =>
      rfl
  | cons member rest inductionHypothesis =>
      obtain ⟨key, value⟩ := member
      rw [skeletonOfMembers, List.length_cons, List.length_cons, inductionHypothesis]

theorem skeletonOfValue_of_field {key : String} (role : KeyRole.ofKey key = .field)
    (json : Json) :
    skeletonOfValue isDocument key json = Condition.blank (isDocument key) json := by
  cases json with
  | arr items | obj members =>
      rw [skeletonOfValue, role]
  | _ =>
      rfl

end Json

namespace Filter

variable (change : String → Json → Json)

mutual

/-- The filter with every condition changed. -/
def mapConditions : Filter → Filter
  | .rejected cause => .rejected cause
  | .all clauses => .all (mapConditionsOfClauses clauses)

def mapConditionsOfClause : Clause → Clause
  | .set connective children => .set connective (mapConditionsOfAll children)
  | .negation child => .negation (mapConditions child)
  | .leaf key condition => .leaf key (change key condition)

def mapConditionsOfClauses : List Clause → List Clause
  | [] => []
  | clause :: rest => mapConditionsOfClause clause :: mapConditionsOfClauses rest

def mapConditionsOfAll : List Filter → List Filter
  | [] => []
  | filter :: rest => mapConditions filter :: mapConditionsOfAll rest

end

theorem mapConditions_ofClauses (clauses : Except Rejection (List Clause)) :
    (ofClauses clauses).mapConditions change =
      ofClauses (clauses.map (mapConditionsOfClauses change)) := by
  cases clauses <;> rfl

section Skeleton

variable (isDocument : String → Bool)

/-- Blanks the condition of a key. -/
def blankOf (key : String) (condition : Json) : Json :=
  Condition.blank (isDocument key) condition

mutual

/-- A skeleton is read as the filter with blank conditions. -/
theorem ofJson_skeleton (json : Json) :
    ofJson (json.skeleton isDocument) = (ofJson json).mapConditions (blankOf isDocument) := by
  cases json with
  | obj members =>
      rw [Json.skeleton, ofJson, ofJson, mapConditions_ofClauses,
        readClauses_skeletonOfMembers members]
  | _ =>
      rfl

theorem readAll_skeletonOfAll (items : List Json) :
    readAll (Json.skeletonOfAll isDocument items) =
      mapConditionsOfAll (blankOf isDocument) (readAll items) := by
  cases items with
  | nil =>
      rfl
  | cons item rest =>
      rw [Json.skeletonOfAll, readAll, readAll, mapConditionsOfAll, ofJson_skeleton item,
        readAll_skeletonOfAll rest]

theorem readClause_skeletonOfValue (key : String) (json : Json) :
    readClause key (Json.skeletonOfValue isDocument key json) =
      (readClause key json).map (mapConditionsOfClause (blankOf isDocument)) := by
  cases role : KeyRole.ofKey key with
  | set connective =>
      cases json with
      | arr items =>
          simp only [Json.skeletonOfValue, readClause, role, readAll_skeletonOfAll items]
          rfl
      | _ =>
          simp [Json.skeletonOfValue, readClause, role, Except.map]
  | negation =>
      cases json with
      | obj members =>
          -- the number of members is kept, so that as many are rejected as before
          have sameLength := Json.length_skeletonOfMembers isDocument members
          have sameClauses := readClauses_skeletonOfMembers members
          simp only [Json.skeletonOfValue, readClause, role, sameLength, sameClauses,
            ← mapConditions_ofClauses]
          by_cases single : members.length = 1
          · rw [if_pos single, if_pos single]
            rfl
          · rw [if_neg single, if_neg single]
            rfl
      | _ =>
          simp [Json.skeletonOfValue, readClause, role, Except.map]
  | field =>
      rw [Json.skeletonOfValue_of_field isDocument role, readClause_of_field role,
        readClause_of_field role]
      rfl

theorem readClauses_skeletonOfMembers (members : List (String × Json)) :
    readClauses (Json.skeletonOfMembers isDocument members) =
      (readClauses members).map (mapConditionsOfClauses (blankOf isDocument)) := by
  cases members with
  | nil =>
      rfl
  | cons member rest =>
      obtain ⟨key, value⟩ := member
      rw [Json.skeletonOfMembers, readClauses, readClauses,
        readClause_skeletonOfValue key value, readClauses_skeletonOfMembers rest]
      cases readClause key value with
      | error cause =>
          rfl
      | ok clause =>
          cases readClauses rest with
          | error cause =>
              rfl
          | ok clauses =>
              rfl

end

theorem rootOfJson_skeleton (json : Json) :
    rootOfJson (json.skeleton isDocument) =
      (rootOfJson json).map fun root =>
        (root.1, mapConditionsOfAll (blankOf isDocument) root.2) := by
  match json with
  | .obj [] =>
      rfl
  | .obj [(key, value)] =>
      rw [Json.skeleton, Json.skeletonOfMembers, Json.skeletonOfMembers, rootOfJson, rootOfJson]
      cases named : Connective.ofKey? key with
      | none =>
          rfl
      | some connective =>
          have role : KeyRole.ofKey key = .set connective := KeyRole.ofKey_eq_set_iff.2 named
          cases value with
          | arr items =>
              rw [Json.skeletonOfValue, role]
              have sameChildren := readAll_skeletonOfAll isDocument items
              exact congrArg (fun children => Except.ok (connective, children)) sameChildren
          | obj members =>
              rw [Json.skeletonOfValue, role]
              rfl
          | _ =>
              rfl
  | .obj ((firstKey, firstValue) :: (secondKey, secondValue) :: rest) =>
      have sameLength := Json.length_skeletonOfMembers isDocument rest
      rw [Json.skeleton, Json.skeletonOfMembers, Json.skeletonOfMembers, rootOfJson, rootOfJson,
        List.length_cons, List.length_cons, sameLength]
      · rfl
      all_goals simp
  | .null | .bool _ | .int _ | .double _ | .str _ | .arr _ =>
      rfl

end Skeleton

/-! ## Compilations of changed conditions -/

section Alike

open Compilation (Alike)

/-- Whether changed conditions have labels that are made alike. -/
def KeepsAlike {α : Type} (change : String → Json → Json)
    (label : String → Json → Compilation α) : Prop :=
  ∀ key condition, Alike (label key (change key condition)) (label key condition)

variable {change}

section Outline

variable {α : Type} {label : String → Json → Compilation α}

mutual

/-- An outline does not tell conditions apart whose labels are made alike. -/
theorem alike_outline_mapConditions
    (alike : KeepsAlike change label) (filter : Filter) :
    Alike ((filter.mapConditions change).outline label) (filter.outline label) := by
  cases filter with
  | rejected cause =>
      exact .throw cause cause
  | all clauses =>
      have clausesAlike := alike_outlineClauses_mapConditions alike clauses
      exact clausesAlike.bind fun conjuncts => .pure _

theorem alike_outlineClause_mapConditions
    (alike : KeepsAlike change label) (clause : Clause) :
    Alike (outlineClause label (mapConditionsOfClause change clause))
      (outlineClause label clause) := by
  cases clause with
  | set connective children =>
      have childrenAlike := alike_outlineAll_mapConditions alike children
      exact childrenAlike.bind fun formulas => .pure _
  | negation child =>
      have childAlike := alike_outline_mapConditions alike child
      exact childAlike.bind fun formula => .pure _
  | leaf key condition =>
      exact (alike key condition).bind fun made => .pure _

theorem alike_outlineClauses_mapConditions
    (alike : KeepsAlike change label) (clauses : List Clause) :
    Alike (outlineClauses label (mapConditionsOfClauses change clauses))
      (outlineClauses label clauses) := by
  cases clauses with
  | nil =>
      exact .pure []
  | cons clause rest =>
      have clauseAlike := alike_outlineClause_mapConditions alike clause
      have restAlike := alike_outlineClauses_mapConditions alike rest
      exact clauseAlike.bind fun conjunct => restAlike.bind fun conjuncts => .pure _

theorem alike_outlineAll_mapConditions
    (alike : KeepsAlike change label) (filters : List Filter) :
    Alike (outlineAll label (mapConditionsOfAll change filters))
      (outlineAll label filters) := by
  cases filters with
  | nil =>
      exact .pure []
  | cons filter rest =>
      have filterAlike := alike_outline_mapConditions alike filter
      have restAlike := alike_outlineAll_mapConditions alike rest
      exact filterAlike.bind fun formula => restAlike.bind fun formulas => .pure _

end

end Outline

section Distribution

variable {groups : List Group}

theorem alike_addDenied (negated tree : PhraseTree) :
    Alike (addDenied negated tree) (addDenied negated tree) := by
  unfold addDenied
  split
  · exact .pure _
  · exact .throw _ _

mutual

/-- A tree under construction does not tell conditions apart whose texts are made alike. -/
theorem alike_addTo_mapConditions
    (alike : KeepsAlike change (Group.ownedText groups))
    (filter : Filter) (tree : PhraseTree) :
    Alike ((filter.mapConditions change).addTo groups tree) (filter.addTo groups tree) := by
  cases filter with
  | rejected cause =>
      exact .throw cause cause
  | all clauses =>
      exact alike_addClauses_mapConditions alike clauses tree

theorem alike_addClause_mapConditions
    (alike : KeepsAlike change (Group.ownedText groups))
    (clause : Clause) (tree : PhraseTree) :
    Alike (addClause groups (mapConditionsOfClause change clause) tree)
      (addClause groups clause tree) := by
  cases clause with
  | set connective children =>
      have childrenAlike :=
        alike_addFilters_mapConditions alike children (GroupTree.bare connective)
      exact childrenAlike.bind fun child => .pure _
  | negation child =>
      -- whether the negation is rejected depends on the tree alone, which is the same
      have childAlike := alike_addTo_mapConditions alike child (GroupTree.bare .conjunction)
      exact childAlike.bind fun negated => alike_addDenied negated tree
  | leaf key condition =>
      have textsAlike := alike key condition
      rw [mapConditionsOfClause, addClause, addClause, addLeaf_eq, addLeaf_eq,
        map_eq_pure_bind, map_eq_pure_bind]
      exact textsAlike.bind fun owned => .pure _

theorem alike_addClauses_mapConditions
    (alike : KeepsAlike change (Group.ownedText groups))
    (clauses : List Clause) (tree : PhraseTree) :
    Alike (addClauses groups (mapConditionsOfClauses change clauses) tree)
      (addClauses groups clauses tree) := by
  cases clauses with
  | nil =>
      exact .pure tree
  | cons clause rest =>
      have clauseAlike := alike_addClause_mapConditions alike clause tree
      exact clauseAlike.bind fun extended =>
        alike_addClauses_mapConditions alike rest extended

theorem alike_addFilters_mapConditions
    (alike : KeepsAlike change (Group.ownedText groups))
    (filters : List Filter) (tree : PhraseTree) :
    Alike (addFilters groups (mapConditionsOfAll change filters) tree)
      (addFilters groups filters tree) := by
  cases filters with
  | nil =>
      exact .pure tree
  | cons filter rest =>
      have filterAlike := alike_addTo_mapConditions alike filter tree
      exact filterAlike.bind fun extended =>
        alike_addFilters_mapConditions alike rest extended

end

end Distribution

end Alike

end Filter

/-- Whether a key names a path into a document column of the table. -/
def Scope.isDocumentKey (scope : Scope) (key : String) : Bool :=
  (scope.field? key).any Field.isDocument

/-- Whether a key names a path into a document column of the group that owns it. -/
def Group.isDocumentKey (groups : List Group) (key : String) : Bool :=
  (Group.owner? groups key).any fun owner => owner.2.isDocument

theorem Target.keepsAlike_blankOf (target : Target) :
    Filter.KeepsAlike (Filter.blankOf target.scope.isDocumentKey) target.conditionText := by
  intro key condition
  rw [conditionText, conditionText, Filter.blankOf, Scope.isDocumentKey]
  cases target.scope.field? key with
  | none =>
      exact .throw _ _
  | some field =>
      exact field.alike_condition_blank condition

theorem Group.keepsAlike_blankOf (groups : List Group) :
    Filter.KeepsAlike (Filter.blankOf (isDocumentKey groups)) (ownedText groups) := by
  intro key condition
  rw [ownedText, ownedText, Filter.blankOf, isDocumentKey]
  cases Group.owner? groups key with
  | none =>
      exact .throw _ _
  | some owner =>
      obtain ⟨group, field⟩ := owner
      have textsAlike := field.alike_condition_blank condition
      exact textsAlike.bind fun text => .pure _

/-! ## Filters of the same skeleton -/

theorem Filter.alike_phrase_of_skeleton_eq
    {target : Target} {left right : Json}
    (same : left.skeleton target.scope.isDocumentKey =
      right.skeleton target.scope.isDocumentKey) :
    Compilation.Alike ((ofJson left).phrase target) ((ofJson right).phrase target) := by
  have ofSkeleton (json : Json) :
      Compilation.Alike
        ((ofJson (json.skeleton target.scope.isDocumentKey)).outline target.conditionText)
        ((ofJson json).outline target.conditionText) := by
    rw [ofJson_skeleton]
    exact alike_outline_mapConditions target.keepsAlike_blankOf (ofJson json)
  have leftAlike := ofSkeleton left
  rw [same] at leftAlike
  have outlinesAlike := leftAlike.symm.trans (ofSkeleton right)
  rw [phrase_eq_outline, phrase_eq_outline, map_eq_pure_bind, map_eq_pure_bind]
  exact outlinesAlike.bind fun formula => .pure _

theorem Filter.alike_distribute_mapConditions
    (groups : List Group) (connective : Connective) (children : List Filter) :
    Compilation.Alike
      (distribute groups connective
        (mapConditionsOfAll (blankOf (Group.isDocumentKey groups)) children))
      (distribute groups connective children) :=
  alike_addFilters_mapConditions (Group.keepsAlike_blankOf groups) children
    (GroupTree.bare connective)

/-- Where a filter over groups is read, so is every filter of the same skeleton, and what they
distribute is alike. -/
theorem Filter.exists_root_of_skeleton_eq
    {groups : List Group} {left right : Json} {connective : Connective}
    {children : List Filter}
    (same : left.skeleton (Group.isDocumentKey groups) =
      right.skeleton (Group.isDocumentKey groups))
    (read : rootOfJson left = .ok (connective, children)) :
    ∃ others, rootOfJson right = .ok (connective, others) ∧
      Compilation.Alike (distribute groups connective children)
        (distribute groups connective others) := by
  have ofLeft := rootOfJson_skeleton (Group.isDocumentKey groups) left
  have ofRight := rootOfJson_skeleton (Group.isDocumentKey groups) right
  rw [read] at ofLeft
  rw [← same, ofLeft] at ofRight
  cases rightRead : rootOfJson right with
  | error cause =>
      rw [rightRead] at ofRight
      cases ofRight
  | ok root =>
      obtain ⟨other, others⟩ := root
      rw [rightRead] at ofRight
      -- both are read to the same filters with blank conditions, to which each is alike
      obtain ⟨rfl, blankSame⟩ :
          connective = other ∧
            mapConditionsOfAll (blankOf (Group.isDocumentKey groups)) children =
              mapConditionsOfAll (blankOf (Group.isDocumentKey groups)) others := by
        simpa [Except.map] using ofRight
      have childrenAlike := alike_distribute_mapConditions groups connective children
      rw [blankSame] at childrenAlike
      have othersAlike := alike_distribute_mapConditions groups connective others
      exact ⟨others, rfl, childrenAlike.symm.trans othersAlike⟩

/-- A table with a plain column and a column of documents. -/
def tagScope : Scope :=
  ⟨Dict.ofList [("score", "m.score")], [⟨"meta", "m.meta", [⟨"tags", .multiSelect⟩]⟩]⟩

/-- Conditions whose operands are numbers, text and the absent value. -/
def plainOperands : Json :=
  .obj [("or", .arr
    [.obj [("score", .obj [("between", .arr [.int 1, .int 5])]),
        ("not", .obj [("score", .obj [("eq", .null)])])],
      .obj [("meta.tags", .arr [.str "a", .str "b"])],
      .obj [("score", .obj [("textContains", .str "x")])]])]

/-- The same conditions with operands of other types. -/
def strangeOperands : Json :=
  .obj [("or", .arr
    [.obj [("score", .obj [("between", .arr [.str "' or (1=1)", .null, .int 9])]),
        ("not", .obj [("score", .obj [("eq", .str "NULL")])])],
      .obj [("meta.tags", .arr [.obj [], .bool true])],
      .obj [("score", .obj [("textContains", .arr [.str "') --"])])]])]

/-- The values of a filter do not influence its text: filters of the same skeleton compile to
the same text, or split into the same tree, and bind the same names. -/
theorem texts_eq_of_skeleton_eq
    {left right : Json} :
    (∀ (target : Target) (first second bound : Parameters) (text : String),
      left.skeleton target.scope.isDocumentKey = right.skeleton target.scope.isDocumentKey →
      first.names = second.names →
      compile target left first = (.ok text, bound) →
      ∃ other, compile target right second = (.ok text, other) ∧
        other.names = bound.names) ∧
    ∀ (groups : List Group) (result : GroupedFilter Phrase),
      left.skeleton (Group.isDocumentKey groups) =
        right.skeleton (Group.isDocumentKey groups) →
      splitAmong groups left = .ok result →
      ∃ other, splitAmong groups right = .ok other ∧ other.tree = result.tree ∧
        other.parameters.names = result.parameters.names := by
  constructor
  · intro target first second bound text same sameNames compiled
    have alike := Filter.alike_phrase_of_skeleton_eq same
    obtain ⟨formula, outlined, rfl⟩ := Target.outline_of_compile compiled
    have leftRun := Target.phrase_of_outline outlined
    obtain ⟨other, rightRun, names⟩ := alike.exists_ok sameNames leftRun
    exact ⟨other, Target.compile_of_phrase rightRun, names⟩
  · intro groups result same split
    obtain ⟨someGroup, connective, children, read, run⟩ := splitAmong_eq_ok_iff.1 split
    obtain ⟨others, rightRead, alike⟩ := Filter.exists_root_of_skeleton_eq same read
    obtain ⟨other, rightRun, names⟩ := alike.exists_ok rfl run
    have rightSplit : splitAmong groups right = .ok ⟨result.tree, other⟩ :=
      splitAmong_eq_ok_iff.2 ⟨someGroup, connective, others, rightRead, rightRun⟩
    exact ⟨⟨result.tree, other⟩, rightSplit, rfl, names⟩

/-- Text in quotes, and operands of other types than the column's, leave the text as it is. -/
theorem texts_eq_of_skeleton_eq_of_strangeOperands :
    plainOperands.skeleton tagScope.isDocumentKey =
        strangeOperands.skeleton tagScope.isDocumentKey ∧
      (∃ other,
        compile ⟨tagScope, .standard⟩ strangeOperands Dict.empty =
          (.ok ("((m.score between :score_1 and :score_2) and (not (m.score is :score_3))" ++
            " or ((m.meta -> 'tags') ?& array[:meta_tags_1, :meta_tags_2])" ++
            " or (m.score ilike :score_4))"), other) ∧
        other.names =
          ["score_1", "score_2", "score_3", "meta_tags_1", "meta_tags_2", "score_4"]) ∧
      ∃ (result other : GroupedFilter Phrase),
        splitAmong [⟨"members", tagScope⟩] plainOperands = .ok result ∧
        splitAmong [⟨"members", tagScope⟩] strangeOperands = .ok other ∧
        other.tree = result.tree := by
  have sameInTable :
      plainOperands.skeleton tagScope.isDocumentKey =
        strangeOperands.skeleton tagScope.isDocumentKey := by
    decide +kernel
  have sameInGroups :
      plainOperands.skeleton (Group.isDocumentKey [⟨"members", tagScope⟩]) =
        strangeOperands.skeleton (Group.isDocumentKey [⟨"members", tagScope⟩]) := by
    decide +kernel
  obtain ⟨ofTable, ofGroups⟩ :=
    @texts_eq_of_skeleton_eq plainOperands strangeOperands
  have text :
      (compile ⟨tagScope, .standard⟩ plainOperands Dict.empty).1.toOption =
        some ("((m.score between :score_1 and :score_2) and (not (m.score is :score_3))" ++
          " or ((m.meta -> 'tags') ?& array[:meta_tags_1, :meta_tags_2])" ++
          " or (m.score ilike :score_4))") := by
    decide +kernel
  have names :
      (compile ⟨tagScope, .standard⟩ plainOperands Dict.empty).2.names =
        ["score_1", "score_2", "score_3", "meta_tags_1", "meta_tags_2", "score_4"] := by
    decide +kernel
  have splits : (splitAmong [⟨"members", tagScope⟩] plainOperands).toOption.isSome := by
    decide +kernel
  refine ⟨sameInTable, ?_, ?_⟩
  · rcases run : compile ⟨tagScope, .standard⟩ plainOperands Dict.empty with
      ⟨cause | compiled, bound⟩
    · rw [run] at text
      cases text
    · rw [run] at text names
      cases text
      obtain ⟨other, otherRun, sameNames⟩ :=
        ofTable ⟨tagScope, .standard⟩ Dict.empty Dict.empty bound _ sameInTable rfl run
      exact ⟨other, otherRun, sameNames.trans names⟩
  · cases split : splitAmong [⟨"members", tagScope⟩] plainOperands with
    | error cause =>
        rw [split] at splits
        cases splits
    | ok result =>
        obtain ⟨other, otherSplit, sameTree, -⟩ := ofGroups _ _ sameInGroups split
        exact ⟨result, other, rfl, otherSplit, sameTree⟩

end WhereClause
