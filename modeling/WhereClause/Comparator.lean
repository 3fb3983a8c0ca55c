/-!
# Comparators

Each comparator has a symbol that names it in a filter, and a text in SQL. Main statement: looking
up a symbol finds a comparator exactly when it is that comparator's symbol.
-/

namespace WhereClause

/-- A comparator of a condition. -/
inductive Comparator where
  | equal
  | notEqual
  | differs
  | greater
  | greaterOrEqual
  | less
  | lessOrEqual
  | like
  | notLike
  | includesText
  | excludesText
  | memberOf
  | notMemberOf
  | between
  | notBetween
  | conjoined
  | disjoined
  | overlaps
  | contains
  deriving DecidableEq, Repr

namespace Comparator

/-- Every comparator, in the order in which they are listed. -/
def all : List Comparator :=
  [.equal, .notEqual, .differs, .greater, .greaterOrEqual, .less, .lessOrEqual,
    .like, .notLike, .includesText, .excludesText, .memberOf, .notMemberOf,
    .between, .notBetween, .conjoined, .disjoined, .overlaps, .contains]

/-- The symbol that names the comparator in a filter. -/
def symbol : Comparator → String
  | .equal => "eq"
  | .notEqual => "ne"
  | .differs => "not"
  | .greater => "gt"
  | .greaterOrEqual => "gte"
  | .less => "lt"
  | .lessOrEqual => "lte"
  | .like => "like"
  | .notLike => "notLike"
  | .includesText => "textContains"
  | .excludesText => "notTextContains"
  | .memberOf => "in"
  | .notMemberOf => "notIn"
  | .between => "between"
  | .notBetween => "notBetween"
  | .conjoined => "and"
  | .disjoined => "or"
  | .overlaps => "overlap"
  | .contains => "contains"

/-- The comparator in SQL. On a document column `overlap` and `contains` test the keys
of the document, elsewhere the elements of an array. -/
def sql (document : Bool) : Comparator → String
  | .equal => "="
  | .notEqual => "<>"
  | .differs => "<>"
  | .greater => ">"
  | .greaterOrEqual => ">="
  | .less => "<"
  | .lessOrEqual => "<="
  | .like => "ilike"
  | .notLike => "not ilike"
  | .includesText => "ilike"
  | .excludesText => "not ilike"
  | .memberOf => "in"
  | .notMemberOf => "not in"
  | .between => "between"
  | .notBetween => "not between"
  | .conjoined => "and"
  | .disjoined => "or"
  | .overlaps => if document then "?|" else "&&"
  | .contains => if document then "?&" else "@>"

/-- Whether the operand is a pattern, to be found anywhere in the text. -/
def isPattern : Comparator → Bool
  | .like | .notLike | .includesText | .excludesText => true
  | _ => false

/-- The comparator that a symbol names; case matters. -/
def ofSymbol? (symbol : String) : Option Comparator :=
  all.find? fun comparator => comparator.symbol = symbol

theorem ofSymbol?_symbol (comparator : Comparator) :
    ofSymbol? comparator.symbol = some comparator := by
  cases comparator <;> decide

/-- A symbol names a comparator exactly when it is that comparator's symbol. -/
theorem ofSymbol?_eq_some_iff {symbol : String} {comparator : Comparator} :
    ofSymbol? symbol = some comparator ↔ comparator.symbol = symbol := by
  constructor
  · intro found
    simpa using List.find?_some found
  · rintro rfl
    exact ofSymbol?_symbol comparator

end Comparator

end WhereClause
