import WhereClause.Text.Segments

/-!
# Folders of files

A folder holds files with their bytes, and folders within it, as far as a command can see them. A
path is followed step by step; every step but the last has to lead to a folder.
-/

namespace WhereClause.Command

/-- What a path of a folder holds. -/
inductive Content where
  | file (bytes : List UInt8)
  | folder
  deriving DecidableEq, Repr

/-- A folder: what is at each path, with the paths as lists of names. The folders on the
way to a path are there as well. -/
structure Folder where
  contents : List (List String × Content)

namespace Folder

def isFolder (folder : Folder) (path : List String) : Bool :=
  path.isEmpty ||
    folder.contents.any fun entry =>
      (entry.1 = path && entry.2 = .folder) ||
        (path.isPrefixOf entry.1 && path.length < entry.1.length)

/-- The bytes of the file at a path. -/
def bytesAt? (folder : Folder) (path : List String) : Option (List UInt8) :=
  folder.contents.findSome? fun entry =>
    match entry.2 with
    | .file bytes => if entry.1 = path then some bytes else none
    | .folder => none

/-- Follows the steps of a path from a folder within; the last step is a name that may
be new. Nothing outside the folder can be reached. -/
def follow? (folder : Folder) (inside : List String) :
    List String → Option (List String)
  | [] => none
  | [name] =>
      if name = "" ∨ name = "." ∨ name = ".." then none
      else some (inside ++ [name])
  | step :: rest =>
      if step = "" ∨ step = "." then follow? folder inside rest
      else if step = ".." then
        if inside.isEmpty then none else follow? folder inside.dropLast rest
      else if folder.isFolder (inside ++ [step]) then
        follow? folder (inside ++ [step]) rest
      else none

/-- The place that a path names in the folder. -/
def place? (folder : Folder) (path : String) : Option (List String) :=
  match path.toList with
  | [] => none
  | '/' :: _ => none
  | characters =>
      let (first, others) := Text.segments '/' characters
      folder.follow? [] ((first :: others).map String.ofList)

/-- The text of the file that a path names; bytes that are no text cannot be read. -/
def read? (folder : Folder) (path : String) : Option String := do
  let place ← folder.place? path
  let bytes ← folder.bytesAt? place
  String.fromUTF8? ⟨bytes.toArray⟩

/-- The folder without what it holds at a path. -/
def without (folder : Folder) (path : List String) :
    List (List String × Content) :=
  folder.contents.filter fun entry => entry.1 ≠ path

/-- The folder with a text written to the file that a path names, unless a folder is in
the way. -/
def write? (folder : Folder) (path text : String) : Option Folder := do
  let place ← folder.place? path
  if folder.isFolder place then none
  else some ⟨folder.without place ++ [(place, .file text.toUTF8.data.toList)]⟩

/-- The files that are new or hold something else than before. -/
def changes (before after : Folder) : List (List String × List UInt8) :=
  after.contents.filterMap fun entry =>
    match entry.2 with
    | .folder => none
    | .file bytes =>
        if before.bytesAt? entry.1 = some bytes then none
        else some (entry.1, bytes)

end Folder

end WhereClause.Command
