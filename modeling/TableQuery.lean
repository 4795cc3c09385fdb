import TableQuery.Csv.Writer
import TableQuery.Journal
import TableQuery.Main
import TableQuery.Query.Written
import TableQuery.Service
import TableQuery.Store
import TableQuery.Proofs.Grouping.Keys
import TableQuery.Proofs.Cell.Order
import TableQuery.Proofs.Cell.Literals
import TableQuery.Proofs.Joining.Sides
import TableQuery.Proofs.Joining.Inner
import TableQuery.Proofs.Joining.Outer
import TableQuery.Proofs.Joining.Matched
import TableQuery.Proofs.Text.LetterCase
import TableQuery.Proofs.Query.Scanning
import TableQuery.Proofs.Query.Spelling
import TableQuery.Proofs.Query.RoundTrip
import TableQuery.Proofs.Query.Names
import TableQuery.Proofs.Query.Apart
import TableQuery.Proofs.Query.Opaque
import TableQuery.Proofs.Execution.Shape
import TableQuery.Proofs.Decimal.Integers
import TableQuery.Proofs.Joining.Owners
import TableQuery.Proofs.Json.Numbers
import TableQuery.Proofs.Json.Strings
import TableQuery.Proofs.Json.Tokens
import TableQuery.Proofs.Json.RoundTrip
import TableQuery.Proofs.Json.Shown
import TableQuery.Proofs.Service.Posted
import TableQuery.Proofs.Joining.Conditions
import TableQuery.Proofs.Store.History
import TableQuery.Proofs.Directory.Containment
import TableQuery.Proofs.Service.Outcome
import TableQuery.Proofs.Csv.RoundTrip
import TableQuery.Proofs.Csv.Validity
import TableQuery.Proofs.Joining.Orientation
import TableQuery.Proofs.Console.Session
import TableQuery.Proofs.Query.Labels
import TableQuery.Proofs.Query.TokenTexts
import TableQuery.Proofs.Query.Layout
import TableQuery.Proofs.Query.Continuation
import TableQuery.Proofs.Query.Quoting
import TableQuery.Proofs.Decimal.Sums
import TableQuery.Proofs.Grouping.Tallies
import TableQuery.Proofs.Grouping.Summary
import TableQuery.Proofs.Grouping.Totals
import TableQuery.Proofs.Filter.Operators
import TableQuery.Proofs.Grouping.Chosen
import TableQuery.Proofs.Row.History
import TableQuery.Proofs.Cell.Characters
import TableQuery.Proofs.Execution.Columns
import TableQuery.Proofs.Table.Printing
import TableQuery.Proofs.Execution.Cells
import TableQuery.Proofs.Execution.Printed
