import EntityQuery.Assign
import EntityQuery.Binary64.Basic
import EntityQuery.Binary64.Reading
import EntityQuery.Binary64.Shortest
import EntityQuery.Binary64.Sum
import EntityQuery.Bits
import EntityQuery.Compile
import EntityQuery.Compose
import EntityQuery.Condition
import EntityQuery.Decimal.Integer
import EntityQuery.Factory
import EntityQuery.Failure
import EntityQuery.Key
import EntityQuery.Message
import EntityQuery.Message.Body
import EntityQuery.Message.Checked
import EntityQuery.Message.Make
import EntityQuery.Message.Marks
import EntityQuery.Message.Problem
import EntityQuery.Message.Validate
import EntityQuery.Method
import EntityQuery.Nesting
import EntityQuery.Operator
import EntityQuery.Order
import EntityQuery.Proofs.Encoding
import EntityQuery.Query
import EntityQuery.Report
import EntityQuery.Signature
import EntityQuery.Text.Base64
import EntityQuery.Text.Blank
import EntityQuery.Text.Digit
import EntityQuery.Text.Hex
import EntityQuery.Text.Printable
import EntityQuery.Text.Quoted
import EntityQuery.Text.Utf8
import EntityQuery.Trace
import EntityQuery.Value
import EntityQuery.Value.Arithmetic
import EntityQuery.Value.Attributes
import EntityQuery.Value.Describe
import EntityQuery.Value.Entries
import EntityQuery.Value.Equality
import EntityQuery.Value.Reading
import EntityQuery.Workspace
import EntityQuery.Proofs.RoundTrip
import EntityQuery.Proofs.Compilation
import EntityQuery.Proofs.Scope
import EntityQuery.Proofs.Blame
import EntityQuery.Proofs.Offenders
import EntityQuery.Proofs.Run
import EntityQuery.Proofs.RunBody
import EntityQuery.Proofs.PageSetting
import EntityQuery.Proofs.Reading
import EntityQuery.Proofs.Acceptance
import EntityQuery.Proofs.RunFields
import EntityQuery.Proofs.Steps
import EntityQuery.Proofs.Paging
import EntityQuery.Proofs.Snapshot
import EntityQuery.Proofs.Mirror
import EntityQuery.Proofs.Tenant
import EntityQuery.Proofs.Meaning
import EntityQuery.Proofs.Visits
import EntityQuery.Proofs.Branches
import EntityQuery.Proofs.Looks
import EntityQuery.Proofs.Copies
import EntityQuery.Proofs.Records
import EntityQuery.Proofs.Conjunction
import EntityQuery.Proofs.Lossless
import EntityQuery.Proofs.Grammar
import EntityQuery.Proofs.PlainData
import EntityQuery.Proofs.FilterPlaces
import EntityQuery.Proofs.FilterDescent
import EntityQuery.Proofs.RecursionGuard
import EntityQuery.Proofs.FilterGrammar
import EntityQuery.Proofs.Declared
import EntityQuery.Proofs.Built
import EntityQuery.Proofs.FirstFault
import EntityQuery.Proofs.UnitFault
import EntityQuery.Proofs.ComparisonFault
import EntityQuery.Proofs.PostOrder
import EntityQuery.Proofs.KeyEncoding
import EntityQuery.Proofs.Ancestors
import EntityQuery.Proofs.Resolution
import EntityQuery.Proofs.PureBody
import EntityQuery.Proofs.Respelling
import EntityQuery.Proofs.Quotation
import EntityQuery.Proofs.Logging
