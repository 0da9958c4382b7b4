import ScatterGather.Number.Shortest
import ScatterGather.Proofs.NumberMap
import ScatterGather.Proofs.ColumnType.Injective
import ScatterGather.Block.Append
import ScatterGather.Proofs.Block.Accepting
import ScatterGather.Proofs.Block.Alignment
import ScatterGather.Proofs.Block.Equality
import ScatterGather.Proofs.Block.RoundTrip
import ScatterGather.Proofs.Block.Tiling
import ScatterGather.Proofs.ResultTable.Emptiness
import ScatterGather.Proofs.ResultTable.Prefix
import ScatterGather.Proofs.ResultTable.Regrouping
import ScatterGather.Proofs.Plan.Validating
import ScatterGather.Proofs.Wire.Canonical
import ScatterGather.Proofs.Wire.Exact
import ScatterGather.Proofs.Wire.Plan
import ScatterGather.Proofs.Mailbox.Text
import ScatterGather.Proofs.Mailboxes.Locality
import ScatterGather.Proofs.Session.Alert
import ScatterGather.Proofs.Session.Bookkeeping
import ScatterGather.Proofs.Session.Constructing
import ScatterGather.Proofs.Session.Delivery
import ScatterGather.Proofs.Session.Isolation
import ScatterGather.Proofs.Session.Releasing
import ScatterGather.Proofs.Session.Slots
import ScatterGather.Proofs.Session.Tracking
import ScatterGather.Drain.Script
import ScatterGather.Proofs.Drain.Budget
import ScatterGather.Proofs.Drain.Scripts
import ScatterGather.Dispatch.Rehearsal
import ScatterGather.Dispatch.Remote
import ScatterGather.Proofs.Dispatch.Addresses
import ScatterGather.Proofs.Dispatch.AfterEnd
import ScatterGather.Proofs.Dispatch.Answer
import ScatterGather.Proofs.Dispatch.Lossless
import ScatterGather.Proofs.Dispatch.Pooling
import ScatterGather.Proofs.Dispatch.Refusing
import ScatterGather.Proofs.Dispatch.Teardown
