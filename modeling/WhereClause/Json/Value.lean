import WhereClause.Dict
import WhereClause.Number.Shortest

/-!
# JSON values

An object keeps its members in order. A value read from text may name a member twice until it is
collapsed; `Json.Distinct` says that no object does.
-/

namespace WhereClause

open Number

/-- A JSON value; a number is an exact integer or a double-precision number. -/
inductive Json where
  | null
  | bool (value : Bool)
  | int (value : Int)
  | double (value : Binary64)
  | str (text : String)
  | arr (items : List Json)
  | obj (members : List (String × Json))
  deriving Repr

namespace Json

instance : Inhabited Json :=
  ⟨.null⟩

mutual

def decideEq : (left right : Json) → Decidable (left = right)
  | .null, .null => isTrue rfl
  | .bool left, .bool right => decidable_of_iff (left = right) (by simp)
  | .int left, .int right => decidable_of_iff (left = right) (by simp)
  | .double left, .double right => decidable_of_iff (left = right) (by simp)
  | .str left, .str right => decidable_of_iff (left = right) (by simp)
  | .arr left, .arr right =>
      let _ := decideEqItems left right
      decidable_of_iff (left = right) (by simp)
  | .obj left, .obj right =>
      let _ := decideEqMembers left right
      decidable_of_iff (left = right) (by simp)
  | .null, .bool _ | .null, .int _ | .null, .double _ | .null, .str _
  | .null, .arr _ | .null, .obj _
  | .bool _, .null | .bool _, .int _ | .bool _, .double _ | .bool _, .str _
  | .bool _, .arr _ | .bool _, .obj _
  | .int _, .null | .int _, .bool _ | .int _, .double _ | .int _, .str _
  | .int _, .arr _ | .int _, .obj _
  | .double _, .null | .double _, .bool _ | .double _, .int _
  | .double _, .str _ | .double _, .arr _ | .double _, .obj _
  | .str _, .null | .str _, .bool _ | .str _, .int _ | .str _, .double _
  | .str _, .arr _ | .str _, .obj _
  | .arr _, .null | .arr _, .bool _ | .arr _, .int _ | .arr _, .double _
  | .arr _, .str _ | .arr _, .obj _
  | .obj _, .null | .obj _, .bool _ | .obj _, .int _ | .obj _, .double _
  | .obj _, .str _ | .obj _, .arr _ => isFalse (by simp)

def decideEqItems : (left right : List Json) → Decidable (left = right)
  | [], [] => isTrue rfl
  | [], _ :: _ => isFalse (by simp)
  | _ :: _, [] => isFalse (by simp)
  | left :: lefts, right :: rights =>
      let _ := decideEq left right
      let _ := decideEqItems lefts rights
      decidable_of_iff (left = right ∧ lefts = rights) (by simp)

def decideEqMembers :
    (left right : List (String × Json)) → Decidable (left = right)
  | [], [] => isTrue rfl
  | [], _ :: _ => isFalse (by simp)
  | _ :: _, [] => isFalse (by simp)
  | (leftName, left) :: lefts, (rightName, right) :: rights =>
      let _ := decideEq left right
      let _ := decideEqMembers lefts rights
      decidable_of_iff
        (leftName = rightName ∧ left = right ∧ lefts = rights)
        (by simp [and_assoc])

end

instance : DecidableEq Json :=
  decideEq

mutual

/-- Collapses the repeated members of every object: the last value wins and the first
position stays. -/
def collapse : Json → Json
  | .arr items => .arr (collapseItems items)
  | .obj members => .obj (Entries.collapse (collapseMembers members))
  | .null => .null
  | .bool value => .bool value
  | .int value => .int value
  | .double value => .double value
  | .str text => .str text

def collapseItems : List Json → List Json
  | [] => []
  | item :: rest => collapse item :: collapseItems rest

def collapseMembers : List (String × Json) → List (String × Json)
  | [] => []
  | (name, value) :: rest => (name, collapse value) :: collapseMembers rest

end

mutual

/-- No object within the value names a member twice. -/
def Distinct : Json → Prop
  | .arr items => DistinctItems items
  | .obj members =>
      (Entries.names members).Nodup ∧ DistinctMembers members
  | .null | .bool _ | .int _ | .double _ | .str _ => True

def DistinctItems : List Json → Prop
  | [] => True
  | item :: rest => Distinct item ∧ DistinctItems rest

def DistinctMembers : List (String × Json) → Prop
  | [] => True
  | (_, value) :: rest => Distinct value ∧ DistinctMembers rest

end

def member? (name : String) : Json → Option Json
  | .obj members => Entries.get? name members
  | _ => none

end Json

end WhereClause
