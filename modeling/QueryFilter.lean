import QueryFilter.Accumulator
import QueryFilter.Coercion
import QueryFilter.Compiled
import QueryFilter.Conflict
import QueryFilter.Default
import QueryFilter.Descriptor
import QueryFilter.Diagnostic
import QueryFilter.Elements
import QueryFilter.Fault
import QueryFilter.FieldName
import QueryFilter.Mapping
import QueryFilter.Matrix.Basic
import QueryFilter.Matrix.Settle
import QueryFilter.Number.Binary64
import QueryFilter.Number.Decimal
import QueryFilter.Number.Numeral
import QueryFilter.Operator
import QueryFilter.Pagination
import QueryFilter.Request
import QueryFilter.Schema
import QueryFilter.Service
import QueryFilter.Settings
import QueryFilter.Slots
import QueryFilter.Sort
import QueryFilter.Text.Blank
import QueryFilter.Text.Digit
import QueryFilter.Text.Printable
import QueryFilter.Text.Quoted
import QueryFilter.Text.Split
import QueryFilter.Token
import QueryFilter.Value.Basic
import QueryFilter.Value.Equality
import QueryFilter.Value.Order
import QueryFilter.Value.Printer
import QueryFilter.Proofs.Mapping
import QueryFilter.Proofs.Gathering
import QueryFilter.Proofs.Bounds
import QueryFilter.Proofs.Defaults
import QueryFilter.Proofs.Compiling
import QueryFilter.Proofs.Isolation
import QueryFilter.Proofs.Cutting
import QueryFilter.Proofs.Spelling
import QueryFilter.Proofs.Schemaless
import QueryFilter.Proofs.Settling
import QueryFilter.Proofs.Range
import QueryFilter.Proofs.Paging
import QueryFilter.Proofs.Acceptance
import QueryFilter.Proofs.Wire
import QueryFilter.Proofs.RoundTrip
import QueryFilter.Proofs.Whitelist
import QueryFilter.Proofs.WellFormed
import QueryFilter.Proofs.Locality
import QueryFilter.Proofs.Sorting
import QueryFilter.Proofs.SortOrder
import QueryFilter.Proofs.SortReading
import QueryFilter.Proofs.NormalForm
import QueryFilter.Proofs.Totality
import QueryFilter.Proofs.Carriers
import QueryFilter.Proofs.Provenance
import QueryFilter.Proofs.Agreement
import QueryFilter.Proofs.Accumulation
import QueryFilter.Proofs.PageValue
import QueryFilter.Proofs.Conflicts
import QueryFilter.Proofs.Configured
import QueryFilter.Proofs.Fallback
import QueryFilter.Proofs.MissingDefaults
import QueryFilter.Proofs.Tokens
import QueryFilter.Proofs.RequestedDefaults
import QueryFilter.Proofs.Accounting
import QueryFilter.Proofs.SettingSort
import QueryFilter.Proofs.Sameness
import QueryFilter.Proofs.Entries
import QueryFilter.Proofs.SortMapping
import QueryFilter.Proofs.Pieces
import QueryFilter.Proofs.Numerals
