import MailSearch.Calendar.Date
import MailSearch.CommandLine.Arguments
import MailSearch.CommandLine.Invocation
import MailSearch.CommandLine.Layout
import MailSearch.CommandLine.Markup
import MailSearch.CommandLine.Run
import MailSearch.CommandLine.Table
import MailSearch.Event
import MailSearch.Filter.Basic
import MailSearch.Filter.Expr
import MailSearch.Filter.Field
import MailSearch.Filter.Render
import MailSearch.Json.Basic
import MailSearch.Json.Printer
import MailSearch.Logged
import MailSearch.Main
import MailSearch.Proofs.Calendar.Succession
import MailSearch.Proofs.Calendar.Written
import MailSearch.Proofs.CommandLine.Agreement
import MailSearch.Proofs.CommandLine.Layout
import MailSearch.Proofs.Filter.Calls
import MailSearch.Proofs.Filter.Document
import MailSearch.Proofs.Filter.Height
import MailSearch.Proofs.Filter.Leaves
import MailSearch.Proofs.Filter.Rendering
import MailSearch.Proofs.Filter.Spans
import MailSearch.Proofs.Filter.Walk
import MailSearch.Proofs.FilterString.Acceptance
import MailSearch.Proofs.FilterString.Chain
import MailSearch.Proofs.FilterString.Condition
import MailSearch.Proofs.FilterString.Convention
import MailSearch.Proofs.FilterString.Delimiting
import MailSearch.Proofs.FilterString.Flat
import MailSearch.Proofs.FilterString.Lexeme
import MailSearch.Proofs.FilterString.RoundTrip
import MailSearch.Proofs.Json.Escaping
import MailSearch.Proofs.Json.Printing
import MailSearch.Proofs.Query.Collection
import MailSearch.Proofs.Query.Concatenation
import MailSearch.Proofs.Query.Conformance
import MailSearch.Proofs.Query.Cutting
import MailSearch.Proofs.Query.Dangling
import MailSearch.Proofs.Query.Flat
import MailSearch.Proofs.Query.Grammar
import MailSearch.Proofs.Query.Height
import MailSearch.Proofs.Query.Joint
import MailSearch.Proofs.Query.Leaves
import MailSearch.Proofs.Query.Limit
import MailSearch.Proofs.Query.Machine
import MailSearch.Proofs.Query.Neutral
import MailSearch.Proofs.Query.Overdeep
import MailSearch.Proofs.Query.Pieces
import MailSearch.Proofs.Query.Reach
import MailSearch.Proofs.Query.Residue
import MailSearch.Proofs.Query.Restart
import MailSearch.Proofs.Query.Scan
import MailSearch.Proofs.Query.Spelling
import MailSearch.Proofs.Query.Tally
import MailSearch.Proofs.Query.Writing
import MailSearch.Proofs.Request.AccessFilter
import MailSearch.Proofs.Request.Assembly
import MailSearch.Proofs.Request.Environment
import MailSearch.Proofs.Request.Paging
import MailSearch.Proofs.Request.Refusal
import MailSearch.Proofs.Request.SearchForm
import MailSearch.Query.Lexeme
import MailSearch.Query.Parsed
import MailSearch.Query.Parser
import MailSearch.Query.Term
import MailSearch.Query.Token
import MailSearch.Request.Basic
import MailSearch.Request.Criteria
import MailSearch.Request.Settings
import MailSearch.Text.Alphanumeric
import MailSearch.Text.Blank
import MailSearch.Text.Case
import MailSearch.Text.CellWidth
import MailSearch.Text.CodeRange
import MailSearch.Text.Numeral
import MailSearch.Text.Printable
import MailSearch.Text.Quoted
