import FixBench.Environment
import FixBench.Exchange.Trading
import FixBench.Failure.Record
import FixBench.Json.Writer
import FixBench.Link.Record
import FixBench.Link.Script
import FixBench.Link.Sending
import FixBench.Order.Record
import FixBench.Order.Tracker
import FixBench.Stress.Run
import FixBench.View.Record
import FixBench.Proofs.Failing
import FixBench.Proofs.Text.NumberText
import FixBench.Proofs.Text.Numeral
import FixBench.Proofs.Text.Utf8
import FixBench.Proofs.Wire.Damage
import FixBench.Proofs.Wire.FieldWalk
import FixBench.Proofs.Wire.Framing
import FixBench.Proofs.Wire.Tiling
import FixBench.Proofs.Wire.KeptBack
import FixBench.Proofs.Wire.Grammar
import FixBench.Proofs.Protocol.Message
import FixBench.Proofs.Protocol.Editing
import FixBench.Proofs.Protocol.Equality
import FixBench.Proofs.Wire.RoundTrip
import FixBench.Proofs.Wire.Canonical
import FixBench.Proofs.Wire.Arrival
import FixBench.Proofs.Session.Operations
import FixBench.Proofs.Session.Dialogue
import FixBench.Proofs.Session.Header
import FixBench.Proofs.Session.Liveness
import FixBench.Proofs.Session.Inbound
import FixBench.Proofs.Session.Diary
import FixBench.Proofs.Session.Numbering
import FixBench.Proofs.Session.Gate
import FixBench.Proofs.Session.Refusal
import FixBench.Proofs.Link.Sending
import FixBench.Proofs.Link.Traffic
import FixBench.Proofs.Link.WireOrder
import FixBench.Proofs.Decimal.Overflow
import FixBench.Proofs.Decimal.Text
import FixBench.Proofs.Decimal.Value
import FixBench.Proofs.View.Reading
import FixBench.Proofs.Exchange.Reports
import FixBench.Proofs.Exchange.Run
import FixBench.Proofs.Exchange.Answering
import FixBench.Proofs.Exchange.Finding
import FixBench.Proofs.Link.Letters
import FixBench.Proofs.Link.Account
import FixBench.Proofs.Link.Delivery
import FixBench.Proofs.Link.Registration
import FixBench.Proofs.Link.Replies
import FixBench.Proofs.Link.Standing
import FixBench.Proofs.Link.Service
import FixBench.Proofs.Link.Admission
import FixBench.Proofs.Link.Progress
import FixBench.Proofs.Link.Greeting
import FixBench.Proofs.Link.Handshake
import FixBench.Proofs.Link.Conversation
import FixBench.Proofs.Link.Course
import FixBench.Proofs.Link.Answers
import FixBench.Proofs.Exchange.Isolation
import FixBench.Proofs.Order.Requests
import FixBench.Proofs.Order.Changes
import FixBench.Proofs.Order.History
import FixBench.Proofs.Exchange.Mirror
import FixBench.Proofs.Exchange.Pair
import FixBench.Proofs.Exchange.Lockstep
import FixBench.Proofs.Order.Executed
import FixBench.Proofs.Order.Averages
import FixBench.Proofs.Order.Pending
import FixBench.Proofs.Exchange.Lifecycle
import FixBench.Proofs.Exchange.Identifiers
import FixBench.Proofs.Exchange.Averaging
import FixBench.Proofs.Exchange.Writable
import FixBench.Proofs.View.Content
import FixBench.Proofs.Exchange.Sending
import FixBench.Proofs.Exchange.Filling
import FixBench.Proofs.Link.Requesting
import FixBench.Proofs.Stress.Aggregation
import FixBench.Proofs.Stress.Ledger
import FixBench.Proofs.Stress.Completion
import FixBench.Proofs.Stress.Readiness
