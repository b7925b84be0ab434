import DatasetQuery.Term.Construction
import DatasetQuery.Table.Describe
import DatasetQuery.Table.Query
import DatasetQuery.Wire.Decode
import DatasetQuery.Json.Reader
import DatasetQuery.Agent.Endpoint
import DatasetQuery.Agent.Pool
import DatasetQuery.Agent.Exchange
import DatasetQuery.Table.Change
import DatasetQuery.Proofs.Defects
import DatasetQuery.Proofs.Erasure
import DatasetQuery.Proofs.Checked
import DatasetQuery.Proofs.Built
import DatasetQuery.Proofs.Framing
import DatasetQuery.Proofs.Nesting
import DatasetQuery.Proofs.RoundTrip
import DatasetQuery.Proofs.Height
import DatasetQuery.Proofs.Calendar
import DatasetQuery.Proofs.Shift
import DatasetQuery.Proofs.Clock
import DatasetQuery.Proofs.PastWindow
import DatasetQuery.Proofs.Grammar
import DatasetQuery.Proofs.Calls
import DatasetQuery.Proofs.Changes
import DatasetQuery.Proofs.Selections
import DatasetQuery.Proofs.Pools
import DatasetQuery.Proofs.Tokens
import DatasetQuery.Proofs.Days
import DatasetQuery.Proofs.Deadlines
import DatasetQuery.Proofs.Instants
import DatasetQuery.Proofs.Midnight
import DatasetQuery.Calendar.Reader
import DatasetQuery.Proofs.Texts
import DatasetQuery.Proofs.WindowRows
import DatasetQuery.Proofs.ClockOrder
import DatasetQuery.Proofs.Equality
import DatasetQuery.Proofs.Operands
import DatasetQuery.Proofs.Resolution
import DatasetQuery.Proofs.Addresses
import DatasetQuery.Proofs.SecurePort
