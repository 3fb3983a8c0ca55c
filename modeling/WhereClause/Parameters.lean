import WhereClause.Json.Value
import WhereClause.Rejection

/-!
# Parameters

The values of a filter are held under names of their own. A fresh name is a stem with the least
positive number that is not taken.
-/

namespace WhereClause

/-- The values bound so far, in the order of binding. -/
abbrev Parameters :=
  Dict Json

namespace Parameters

/-- What every name under a stem begins with. -/
def opening (stem : String) : String :=
  stem ++ "_"

def numbered (stem : String) (number : Nat) : String :=
  opening stem ++ toString number

/-- The names of parameters that may be under a stem: those that begin like one. -/
def candidates (parameters : Parameters) (stem : String) : List String :=
  (Entries.names parameters.entries).filter fun name =>
    (opening stem).toList.isPrefixOf name.toList

/-- The least number, from `number` on, whose name is not among `names`. A name that is
found is dropped, since no later number has the same one; so the search is over after
at most as many steps as there are names, which `bound` counts. -/
def leastFree (stem : String) : (bound number : Nat) → List String → Nat
  | 0, number, _ => number
  | bound + 1, number, names =>
      if numbered stem number ∈ names then
        leastFree stem bound (number + 1) (names.erase (numbered stem number))
      else number

/-- The least positive number that gives a free name. -/
def freeNumber (parameters : Parameters) (stem : String) : Nat :=
  leastFree stem (parameters.candidates stem).length 1 (parameters.candidates stem)

/-- The name that a value under the stem would get. -/
def fresh (parameters : Parameters) (stem : String) : String :=
  numbered stem (parameters.freeNumber stem)

def bind (parameters : Parameters) (stem : String) (value : Json) :
    String × Parameters :=
  let name := parameters.fresh stem
  (name, parameters.insert name value)

/-- Binds values one after the other. -/
def bindAll (stem : String) : List Json → Parameters → List String × Parameters
  | [], parameters => ([], parameters)
  | value :: rest, parameters =>
      let (name, extended) := parameters.bind stem value
      let (names, final) := bindAll stem rest extended
      (name :: names, final)

end Parameters

/-- A computation that binds parameters and may be rejected; what was bound before a
rejection stays bound. -/
abbrev Compilation :=
  ExceptT Rejection (StateM Parameters)

namespace Compilation

/-- Rejects unless a check has succeeded. -/
def require {α : Type} : Except Rejection α → Compilation α
  | .ok value => pure value
  | .error cause => throw cause

/-- Binds values under fresh names. -/
def bindAll (stem : String) (values : List Json) : Compilation (List String) :=
  ExceptT.lift (Parameters.bindAll stem values)

/-- The result, and the parameters afterwards. -/
def runFrom {α : Type} (compilation : Compilation α) (parameters : Parameters) :
    Except Rejection α × Parameters :=
  StateT.run (ExceptT.run compilation) parameters

end Compilation

end WhereClause
