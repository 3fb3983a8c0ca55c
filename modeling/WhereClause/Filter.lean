import WhereClause.Connective
import WhereClause.Rejection

/-!
# Filters

A filter is the conjunction of its clauses; a clause combines filters, negates one, or puts a
condition on a field. A filter that is malformed at its own level keeps the rejection in its
place, so that it is reported when compilation comes to it.
-/

namespace WhereClause

/-- What a key of a filter says about its value. -/
inductive KeyRole where
  | set (connective : Connective)
  | negation
  | field
  deriving DecidableEq, Repr

/-- The role of a key. Only `not` itself, in lower case, negates. -/
def KeyRole.ofKey (key : String) : KeyRole :=
  match Connective.ofKey? key with
  | some connective => .set connective
  | none => if key = "not" then .negation else .field

/-- One entry of a filter with its parts still as JSON; `empty` stands for the filter
without entries. -/
inductive Entry where
  | empty
  | set (connective : Connective) (children : List Json)
  | negation (child : List (String × Json))
  | leaf (field : String) (condition : Json)
  deriving DecidableEq

namespace Entry

/-- The entry of one member of a filter. -/
def ofMember (key : String) (value : Json) : Except Rejection Entry :=
  match KeyRole.ofKey key, value with
  | .set connective, .arr children => .ok (.set connective children)
  | .set _, other => .error (.misfit (.notAList key other))
  | .negation, .obj child => .ok (.negation child)
  | .negation, other => .error (.misfit (.negatedNonObject other))
  | .field, condition => .ok (.leaf key condition)

/-- The entries of the members of a filter; the first misfit counts. -/
def ofMembers : List (String × Json) → Except Rejection (List Entry)
  | [] => .ok []
  | (key, value) :: rest => do
      let entry ← ofMember key value
      let entries ← ofMembers rest
      return entry :: entries

def ofJson : Json → Except Rejection (List Entry)
  | .obj [] => .ok [.empty]
  | .obj members => ofMembers members
  | other => .error (.misfit (.notAnObject other))

end Entry

mutual

/-- A filter: the conjunction of its clauses, or the reason why it is none. -/
inductive Filter where
  | rejected (cause : Rejection)
  | all (clauses : List Clause)

inductive Clause where
  | set (connective : Connective) (children : List Filter)
  | negation (child : Filter)
  | leaf (field : String) (condition : Json)

end

namespace Filter

/-- The filter of clauses that have been read, or of the first misfit among them. -/
def ofClauses : Except Rejection (List Clause) → Filter
  | .ok clauses => .all clauses
  | .error cause => .rejected cause

mutual

def ofJson : Json → Filter
  | .obj members => ofClauses (readClauses members)
  | other => .rejected (.misfit (.notAnObject other))

def readAll : List Json → List Filter
  | [] => []
  | child :: rest => ofJson child :: readAll rest

/-- Reads one clause. What is negated has one entry; whether it has is found out after
the clauses beside it have been read. -/
def readClause (key : String) : Json → Except Rejection Clause
  | .arr items =>
      match KeyRole.ofKey key with
      | .set connective => .ok (.set connective (readAll items))
      | .negation => .error (.misfit (.negatedNonObject (.arr items)))
      | .field => .ok (.leaf key (.arr items))
  | .obj members =>
      match KeyRole.ofKey key with
      | .set _ => .error (.misfit (.notAList key (.obj members)))
      | .negation =>
          if members.length = 1 then
            .ok (.negation (ofClauses (readClauses members)))
          else .ok (.negation (.rejected (.negationOfSeveral members.length)))
      | .field => .ok (.leaf key (.obj members))
  | other =>
      match KeyRole.ofKey key with
      | .set _ => .error (.misfit (.notAList key other))
      | .negation => .error (.misfit (.negatedNonObject other))
      | .field => .ok (.leaf key other)

/-- Reads the clauses of a filter; the first misfit counts. -/
def readClauses : List (String × Json) → Except Rejection (List Clause)
  | [] => .ok []
  | (key, value) :: rest =>
      match readClause key value with
      | .error cause => .error cause
      | .ok clause =>
          match readClauses rest with
          | .error cause => .error cause
          | .ok clauses => .ok (clause :: clauses)

end

/-- Reads a filter over groups, which is one set of filters. -/
def rootOfJson : Json → Except Rejection (Connective × List Filter)
  | .obj [] => .error .noFilter
  | .obj [(key, value)] =>
      match Connective.ofKey? key with
      | none => .error (.rootNotConnective key)
      | some connective =>
          match value with
          | .arr children => .ok (connective, readAll children)
          | other => .error (.misfit (.notAList key other))
  | .obj members => .error (.severalRootKeys members.length)
  | other => .error (.misfit (.notAnObject other))

end Filter

end WhereClause
