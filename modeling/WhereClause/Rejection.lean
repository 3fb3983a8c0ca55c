import WhereClause.Comparator
import WhereClause.Json.Print
import WhereClause.Text.Quoted

/-!
# Why a filter is rejected

A rejection holds its cause; the wording is in one place.
-/

namespace WhereClause

/-- A part of a filter that is not the JSON that its place asks for. -/
inductive Misfit where
  | notAnObject (found : Json)
  | notAList (key : String) (found : Json)
  | negatedNonObject (found : Json)
  | notTwoBounds (comparator : Comparator) (found : Json)
  | notAnArray (comparator : Comparator) (found : Json)
  deriving DecidableEq

def Misfit.message : Misfit → String
  | .notAnObject found =>
      "expected a filter object, got " ++ found.compact
  | .notAList key found =>
      "'" ++ key ++ "' expects an array of filters, got " ++ found.compact
  | .negatedNonObject found =>
      "'not' expects a filter object, got " ++ found.compact
  | .notTwoBounds comparator found =>
      "'" ++ comparator.symbol ++ "' expects two bounds, got " ++ found.compact
  | .notAnArray comparator found =>
      "'" ++ comparator.symbol ++ "' expects an array, got " ++ found.compact

/-- Why a filter is rejected. -/
inductive Rejection where
  | noFilter
  | noGroup
  | severalRootKeys (count : Nat)
  | rootNotConnective (key : String)
  | negationOfSeveral (count : Nat)
  | fieldOfNoGroup (key : String)
  | unknownField (key : String)
  | malformedCondition (condition : Json)
  | unknownComparator (symbol : String)
  | unknownAttribute (property name : String)
  | misfit (cause : Misfit)
  | scatteredNegation (groups : Nat)
  deriving DecidableEq

namespace Rejection

def name : Rejection → String
  | .noFilter => "NoFiltersProvided"
  | .noGroup => "NoGroupsProvided"
  | .severalRootKeys _ => "MultipleRootOperators"
  | .rootNotConnective _ => "InvalidRootOperator"
  | .negationOfSeveral _ => "UnsupportedNotArity"
  | .fieldOfNoGroup _ => "InvalidFilterProperty"
  | .unknownField _ => "UnknownFilterKey"
  | .malformedCondition _ => "InvalidCondition"
  | .unknownComparator _ => "UnknownOperator"
  | .unknownAttribute _ _ => "UnknownAttribute"
  | .misfit _ => "InvalidFilterShape"
  | .scatteredNegation _ => "InternalInvariantViolation"

/-- The wording of a negation that does not belong to one group. -/
def scattered (groups : Nat) : String :=
  "negated condition resolved to " ++ toString groups ++
    " groups, expected exactly one"

def message : Rejection → String
  | .noFilter => "No filters provided"
  | .noGroup => "No groups provided"
  | .severalRootKeys count =>
      "Only one set operator should be provided as root key, found " ++
        toString count
  | .rootNotConnective key => "Invalid root operator: " ++ key
  | .negationOfSeveral count =>
      "Only one child condition is supported for not operator, found " ++
        toString count
  | .fieldOfNoGroup key => "Invalid filter property: " ++ key
  | .unknownField key => "Unknown filter key: " ++ key
  | .malformedCondition condition => "Invalid condition: " ++ condition.compact
  | .unknownComparator symbol => "Unknown operator: " ++ symbol
  | .unknownAttribute property name =>
      "Unknown " ++ property ++ " attribute: " ++ name
  | .misfit cause => "Invalid filter shape: " ++ cause.message
  | .scatteredNegation groups =>
      "Internal invariant violated: " ++ scattered groups

/-- Whether the filter is at fault, and not the program. -/
def isClientFault : Rejection → Bool
  | .scatteredNegation _ => false
  | _ => true

/-- What the cause carries, as diagnostics show it after its name. -/
def details : Rejection → String
  | .noFilter | .noGroup => ""
  | .severalRootKeys count | .negationOfSeveral count =>
      "(" ++ toString count ++ ")"
  | .rootNotConnective text | .fieldOfNoGroup text | .unknownField text
  | .unknownComparator text => "(" ++ Text.quoted text ++ ")"
  | .malformedCondition condition =>
      "(" ++ Text.quoted condition.compact ++ ")"
  | .unknownAttribute property name =>
      " \x7b property: " ++ Text.quoted property ++ ", attribute: " ++
        Text.quoted name ++ " \x7d"
  | .misfit cause => "(" ++ Text.quoted cause.message ++ ")"
  | .scatteredNegation groups => "(" ++ Text.quoted (scattered groups) ++ ")"

/-- The rejection as diagnostics show it. -/
def diagnostic (rejection : Rejection) : String :=
  rejection.name ++ rejection.details

end Rejection

end WhereClause
