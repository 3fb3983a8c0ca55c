/-!
# The settings of a compilation

A compilation can be told what an empty filter inside another contributes.
-/

namespace WhereClause

/-- What a filter without clauses contributes where it stands inside another. -/
inductive EmptyRule where
  | skip
  | tautology
  deriving DecidableEq, Repr

namespace EmptyRule

/-- Every rule, in the order in which they are listed. -/
def all : List EmptyRule :=
  [.skip, .tautology]

def name : EmptyRule → String
  | .skip => "skip"
  | .tautology => "tautology"

end EmptyRule

structure Settings where
  emptyRule : EmptyRule
  deriving DecidableEq, Repr

/-- The settings where none are given. -/
def Settings.standard : Settings :=
  ⟨.skip⟩

end WhereClause
