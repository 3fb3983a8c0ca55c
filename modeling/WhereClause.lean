import WhereClause.Command.Folder
import WhereClause.Command.Request
import WhereClause.Command.Run
import WhereClause.Comparator
import WhereClause.Condition
import WhereClause.Connective
import WhereClause.Dict
import WhereClause.Field
import WhereClause.Filter
import WhereClause.Filter.Distribution
import WhereClause.Filter.SingleTable
import WhereClause.GroupTree
import WhereClause.Json.Print
import WhereClause.Json.Read
import WhereClause.Json.Token
import WhereClause.Json.Value
import WhereClause.Main
import WhereClause.Number.Binary64
import WhereClause.Number.Shortest
import WhereClause.Parameters
import WhereClause.Phrase
import WhereClause.Proofs.Balance
import WhereClause.Proofs.Check
import WhereClause.Proofs.Clause
import WhereClause.Proofs.Command.Folder
import WhereClause.Proofs.Command.Request
import WhereClause.Proofs.Command.Run
import WhereClause.Proofs.Compilation
import WhereClause.Proofs.Condition
import WhereClause.Proofs.Connective
import WhereClause.Proofs.Course
import WhereClause.Proofs.Distribution.Acceptance
import WhereClause.Proofs.Distribution.Agreement
import WhereClause.Proofs.Distribution.Assembly
import WhereClause.Proofs.Distribution.Course
import WhereClause.Proofs.Distribution.Flat
import WhereClause.Proofs.Distribution.Insertion
import WhereClause.Proofs.Distribution.Meaning
import WhereClause.Proofs.Distribution.Node
import WhereClause.Proofs.Distribution.OneGroup
import WhereClause.Proofs.Distribution.ReadTwice
import WhereClause.Proofs.Distribution.Tidy
import WhereClause.Proofs.Distribution.Union
import WhereClause.Proofs.Distribution.Value
import WhereClause.Proofs.Entries
import WhereClause.Proofs.EntrySteps
import WhereClause.Proofs.Formula
import WhereClause.Proofs.Grammar
import WhereClause.Proofs.GroupNames
import WhereClause.Proofs.GroupTree
import WhereClause.Proofs.Lexeme
import WhereClause.Proofs.Negation
import WhereClause.Proofs.Numbering
import WhereClause.Proofs.Ownership
import WhereClause.Proofs.Parameters
import WhereClause.Proofs.Parentheses
import WhereClause.Proofs.Path
import WhereClause.Proofs.Placeholders
import WhereClause.Proofs.Reading
import WhereClause.Proofs.Record.Catalog
import WhereClause.Proofs.Record.Order
import WhereClause.Proofs.Record.RoundTrip
import WhereClause.Proofs.Record.Shape
import WhereClause.Proofs.Rendering
import WhereClause.Proofs.Roles
import WhereClause.Proofs.Sentence
import WhereClause.Proofs.Session
import WhereClause.Proofs.SingleTable.Acceptance
import WhereClause.Proofs.SingleTable.EmptyRule
import WhereClause.Proofs.SingleTable.Failure
import WhereClause.Proofs.SingleTable.Layout
import WhereClause.Proofs.SingleTable.Meaning
import WhereClause.Proofs.SingleTable.Pieces
import WhereClause.Proofs.SingleTable.Placeholders
import WhereClause.Proofs.SingleTable.Row
import WhereClause.Proofs.Skeleton.Condition
import WhereClause.Proofs.Skeleton.Filter
import WhereClause.Proofs.Spelling
import WhereClause.Proofs.Truth
import WhereClause.Record.Basic
import WhereClause.Record.Catalog
import WhereClause.Record.Result
import WhereClause.Record.Text
import WhereClause.Rejection
import WhereClause.Scope
import WhereClause.Settings
import WhereClause.Text.Blank
import WhereClause.Text.Extending
import WhereClause.Text.Quoted
import WhereClause.Text.Segments
import WhereClause.Text.Unprintable
