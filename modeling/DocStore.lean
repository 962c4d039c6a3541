import DocStore.OrderedMap
import DocStore.Number.Double
import DocStore.Number.Shortest
import DocStore.Number.Decimal128.Reader
import DocStore.Text.Parts
import DocStore.Text.Case
import DocStore.Text.Blank
import DocStore.Text.Quoted
import DocStore.Text.Base64
import DocStore.Text.Utf8
import DocStore.Json.Printer
import DocStore.Json.Reader
import DocStore.Value.Order
import DocStore.Value.Display
import DocStore.Error
import DocStore.Value.Json
import DocStore.Filter.Json
import DocStore.Filter.Matching
import DocStore.Query.Compile
import DocStore.Search.Term
import DocStore.Schema.Prepare
import DocStore.Schema.Json
import DocStore.Selection.Json
import DocStore.Paging.Json
import DocStore.Store.Basic
import DocStore.Database.Request
import DocStore.Record.Item
import DocStore.Record.Bare
import DocStore.Settings.Connection
import DocStore.Settings.Json
import DocStore.Proofs.OrderedMap
import DocStore.Proofs.Registry
import DocStore.Proofs.Outcome
import DocStore.Proofs.Document
import DocStore.Proofs.Text.CaseTable
import DocStore.Proofs.Text.LowerCase
import DocStore.Proofs.Text.UpperCase
import DocStore.Proofs.Text.Utf8
import DocStore.Proofs.Text.Parts
import DocStore.Proofs.Filter.Conditions
import DocStore.Proofs.Filter.Pushes
import DocStore.Proofs.Schema.Conformity
import DocStore.Proofs.Number.Double
import DocStore.Proofs.Number.Order
import DocStore.Proofs.Value.Sameness
import DocStore.Proofs.Value.Equality
import DocStore.Proofs.Value.Order
import DocStore.Proofs.Store.Edits
import DocStore.Proofs.Database.Steps
import DocStore.Proofs.Store.Uniqueness
import DocStore.Proofs.Store.Conformity
import DocStore.Proofs.Query.Meaning
import DocStore.Proofs.Store.Commands
import DocStore.Proofs.Store.Expiry
import DocStore.Proofs.Store.Failure
import DocStore.Proofs.Store.Selected
import DocStore.Proofs.Store.Sorting
import DocStore.Proofs.Store.Visibility
import DocStore.Proofs.Database.UniqueCheck
import DocStore.Proofs.Record.Requests
import DocStore.Proofs.Record.Failure
import DocStore.Proofs.Schema.Upsert
import DocStore.Proofs.Schema.Made
import DocStore.Proofs.Search.Steps
import DocStore.Proofs.Search.Expansion
import DocStore.Proofs.Search.Enumeration
import DocStore.Proofs.Search.Groups
import DocStore.Proofs.Search.Brackets
import DocStore.Proofs.Search.Escapes
import DocStore.Proofs.Search.Grammar
import DocStore.Proofs.Search.Commas
import DocStore.Proofs.Search.Percent
import DocStore.Proofs.Search.Quotes
import DocStore.Proofs.Search.Reserved
import DocStore.Proofs.Search.Documents
import DocStore.Proofs.Store.Isolation
import DocStore.Proofs.Paging
import DocStore.Proofs.Database.Pages
import DocStore.Proofs.Database.PageNumbers
import DocStore.Proofs.Database.UniqueSelect
import DocStore.Proofs.Database.UpsertAgain
import DocStore.Proofs.Query.Patterns
import DocStore.Proofs.Number.Rounding
import DocStore.Proofs.Filter.Integers
import DocStore.Proofs.Store.Windows
import DocStore.Proofs.Database.Conflicts
import DocStore.Proofs.Schema.Preparation
import DocStore.Proofs.Schema.Hiding
import DocStore.Proofs.Patch
import DocStore.Proofs.Patch.Passes
import DocStore.Proofs.Text.Blank
import DocStore.Proofs.Filter.Tokens
import DocStore.Proofs.Value.Conversion
import DocStore.Proofs.Value.Reading
import DocStore.Proofs.Schema.RoundTrip
import DocStore.Proofs.Filter.Grammar
import DocStore.Proofs.Filter.RoundTrip
import DocStore.Proofs.Filter.Negation
