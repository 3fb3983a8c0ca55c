import Mathlib.Data.List.Basic
import WhereClause.Command.Folder

/-!
# Writing to a folder

Main statement: a text that has been written to a file is read back from it, and no other file and
no folder has changed.
-/

namespace WhereClause.Command.Folder

variable {folder : Folder}

theorem isFolder_iff {path : List String} :
    folder.isFolder path = true ↔
      path = [] ∨ ∃ entry ∈ folder.contents,
        (entry.1 = path ∧ entry.2 = .folder) ∨
          (path <+: entry.1 ∧ path.length < entry.1.length) := by
  simp [isFolder]

/-- What is on the way to a folder is a folder. -/
theorem isFolder_of_isFolder_below
    {path inner : List String} (isInner : folder.isFolder inner = true)
    (onTheWay : path <+: inner) : folder.isFolder path = true := by
  rw [isFolder_iff] at isInner ⊢
  rcases isInner with rfl | ⟨entry, member, ⟨rfl, isFolder⟩ | ⟨below, shorter⟩⟩
  · exact Or.inl (List.prefix_nil.1 onTheWay)
  · refine Or.inr ⟨entry, member, ?_⟩
    rcases Nat.eq_or_lt_of_le onTheWay.length_le with same | shorter
    · exact Or.inl ⟨(onTheWay.eq_of_length same).symm, isFolder⟩
    · exact Or.inr ⟨onTheWay, shorter⟩
  · refine Or.inr ⟨entry, member, Or.inr ⟨onTheWay.trans below, ?_⟩⟩
    exact Nat.lt_of_le_of_lt onTheWay.length_le shorter

/-- A path that is followed from a folder ends with a name in a folder. -/
theorem exists_parent_of_follow?
    {inside place : List String} {steps : List String} (isInside : folder.isFolder inside = true)
    (followed : folder.follow? inside steps = some place) :
    ∃ parent name, place = parent ++ [name] ∧ folder.isFolder parent = true := by
  fun_induction follow? folder inside steps with
  | case1 =>
      cases followed
  | case2 =>
      cases followed
  | case3 inside name =>
      cases followed
      exact ⟨inside, name, rfl, isInside⟩
  | case4 inside step rest _ _ inductionHypothesis =>
      exact inductionHypothesis isInside followed
  | case5 =>
      cases followed
  | case6 inside rest _ _ _ inductionHypothesis =>
      have isParent := isFolder_of_isFolder_below isInside inside.dropLast_prefix
      exact inductionHypothesis isParent followed
  | case7 inside step rest _ _ _ isStep inductionHypothesis =>
      exact inductionHypothesis isStep followed
  | case8 =>
      cases followed

theorem exists_parent_of_place?
    {path : String} {place : List String} (placed : folder.place? path = some place) :
    ∃ parent name, place = parent ++ [name] ∧ folder.isFolder parent = true := by
  unfold place? at placed
  split at placed
  · cases placed
  · cases placed
  · exact exists_parent_of_follow? (isFolder_iff.2 (Or.inl rfl)) placed

section SameFolders

variable {other : Folder} (sameFolders : ∀ path, other.isFolder path = folder.isFolder path)

include sameFolders

theorem follow?_congr (inside steps : List String) :
    other.follow? inside steps = folder.follow? inside steps := by
  induction steps generalizing inside with
  | nil =>
      rfl
  | cons step rest inductionHypothesis =>
      cases rest with
      | nil =>
          rfl
      | cons next later =>
          simp only [follow?, sameFolders, inductionHypothesis]

/-- Where a path leads depends on the folders only. -/
theorem place?_congr (path : String) : other.place? path = folder.place? path := by
  unfold place?
  split
  · rfl
  · rfl
  · exact follow?_congr sameFolders _ _

end SameFolders

/-- The folder with a file of the given bytes at a path. -/
def withFile (folder : Folder) (place : List String) (bytes : List UInt8) : Folder :=
  ⟨folder.without place ++ [(place, .file bytes)]⟩

theorem write?_eq_some_iff {path text : String} {written : Folder} :
    folder.write? path text = some written ↔
      ∃ place, folder.place? path = some place ∧ folder.isFolder place = false ∧
        written = folder.withFile place text.toUTF8.data.toList := by
  rw [write?]
  cases placed : folder.place? path with
  | none =>
      simp
  | some place =>
      cases isFolder : folder.isFolder place with
      | true =>
          simp [isFolder]
      | false =>
          constructor
          · intro isWritten
            simp only [Option.bind_eq_bind, Option.bind_some, isFolder, Bool.false_eq_true,
              ↓reduceIte, Option.some.injEq] at isWritten
            exact ⟨place, rfl, isFolder, isWritten.symm⟩
          · rintro ⟨_, ⟨⟩, -, rfl⟩
            simp [isFolder, withFile]

/-- Whether a file can be written depends on its path only. -/
theorem isSome_write?_congr (path text other : String) :
    (folder.write? path text).isSome = (folder.write? path other).isSome := by
  rw [write?, write?]
  cases folder.place? path with
  | none =>
      rfl
  | some place =>
      cases isFolder : folder.isFolder place <;> simp [isFolder]

/-- What is taken out at one place does not matter at another. -/
theorem bytesAt?_without {path place : List String} (elsewhere : path ≠ place) :
    (⟨folder.without place⟩ : Folder).bytesAt? path = folder.bytesAt? path := by
  rw [bytesAt?, bytesAt?, without]
  induction folder.contents with
  | nil =>
      rfl
  | cons entry rest inductionHypothesis =>
      obtain ⟨held, content⟩ := entry
      by_cases removed : held = place
      · have different : held ≠ path := fun same => elsewhere (same.symm.trans removed)
        rw [List.filter_cons_of_neg (by simpa using removed), inductionHypothesis]
        cases content <;> simp [different]
      · rw [List.filter_cons_of_pos (by simpa using removed), List.findSome?_cons,
          List.findSome?_cons, inductionHypothesis]

theorem bytesAt?_without_self (place : List String) :
    (⟨folder.without place⟩ : Folder).bytesAt? place = none := by
  rw [bytesAt?, List.findSome?_eq_none_iff]
  rintro ⟨held, content⟩ member
  have different : held ≠ place := by
    simpa using (List.mem_filter.1 member).2
  cases content <;> simp [different]

theorem bytesAt?_withFile
    (folder : Folder) (place path : List String) (bytes : List UInt8) :
    (folder.withFile place bytes).bytesAt? path =
      if path = place then some bytes else folder.bytesAt? path := by
  have last :
      (folder.withFile place bytes).bytesAt? path =
        ((⟨folder.without place⟩ : Folder).bytesAt? path).or
          (if place = path then some bytes else none) := by
    rw [bytesAt?, withFile, List.findSome?_append, ← bytesAt?, List.findSome?_singleton]
  by_cases same : path = place
  · subst same
    rw [last, bytesAt?_without_self, if_pos rfl, if_pos rfl, Option.none_or]
  · rw [last, bytesAt?_without same, if_neg (Ne.symm same), if_neg same, Option.or_none]

/-- A file in a folder can be replaced or put there without a change to any folder. -/
theorem isFolder_withFile
    {parent : List String} {name : String} (isParent : folder.isFolder parent = true)
    (noFolder : folder.isFolder (parent ++ [name]) = false) (bytes : List UInt8)
    (path : List String) :
    (folder.withFile (parent ++ [name]) bytes).isFolder path = folder.isFolder path := by
  rw [Bool.eq_iff_iff]
  constructor
  · intro isFolder
    rcases isFolder_iff.1 isFolder with rfl | ⟨entry, member, makes⟩
    · exact isFolder_iff.2 (Or.inl rfl)
    · rcases List.mem_append.1 member with kept | isNew
      · exact isFolder_iff.2 (Or.inr ⟨entry, List.mem_of_mem_filter kept, makes⟩)
      · cases List.mem_singleton.1 isNew
        obtain ⟨-, ⟨⟩⟩ | ⟨below, shorter⟩ := makes
        refine isFolder_of_isFolder_below isParent ?_
        rw [List.length_append, List.length_singleton] at shorter
        exact List.prefix_of_prefix_length_le below (List.prefix_append parent [name])
          (Nat.lt_succ_iff.1 shorter)
  · intro isFolder
    rcases isFolder_iff.1 isFolder with rfl | ⟨entry, member, makes⟩
    · exact isFolder_iff.2 (Or.inl rfl)
    · refine isFolder_iff.2 (Or.inr ?_)
      by_cases replaced : entry.1 = parent ++ [name]
      · -- the new entry lies at the same place, so it has the same folders on its way
        refine ⟨_, List.mem_append_right _ (List.mem_singleton_self _), Or.inr ?_⟩
        rw [← replaced]
        rcases makes with ⟨rfl, _⟩ | onTheWay
        · rw [replaced, noFolder] at isFolder
          cases isFolder
        · exact onTheWay
      · refine ⟨entry, ?_, makes⟩
        refine List.mem_append_left _ (List.mem_filter.2 ⟨member, ?_⟩)
        exact decide_eq_true replaced

/-- Whether a text has been written to the file that a path names, and nothing else: the text is
read back from the path, every other place holds the file that it held before, and the folders
are the same. -/
structure IsWritten (before : Folder) (path text : String) (after : Folder) : Prop where
  held : after.read? path = some text
  others : ∀ place, before.place? path ≠ some place →
    after.bytesAt? place = before.bytesAt? place
  folders : ∀ place, after.isFolder place = before.isFolder place

theorem isWritten_of_write?
    {path text : String} {written : Folder} (done : folder.write? path text = some written) :
    folder.IsWritten path text written := by
  obtain ⟨place, placed, noFolder, rfl⟩ := write?_eq_some_iff.1 done
  obtain ⟨parent, name, rfl, isParent⟩ := exists_parent_of_place? placed
  have sameFolders := isFolder_withFile isParent noFolder text.toUTF8.data.toList
  refine ⟨?_, fun place elsewhere => ?_, sameFolders⟩
  · have valid : text.toUTF8.IsValidUTF8 := text.isValidUTF8
    have decoded : String.fromUTF8? text.toUTF8 = some text := dif_pos valid
    rw [read?, place?_congr sameFolders, placed]
    simpa [bytesAt?_withFile] using decoded
  · have different : place ≠ parent ++ [name] := fun same => elsewhere (same ▸ placed)
    rw [bytesAt?_withFile, if_neg different]

end WhereClause.Command.Folder
