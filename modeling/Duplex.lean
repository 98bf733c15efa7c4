import Duplex.BufferFactory
import Duplex.Handshake
import Duplex.Json.Value
import Duplex.Uri.Reader
import Duplex.Scenario.Run
import Duplex.Proofs.Session.Run
import Duplex.Proofs.Inbound.Turn
import Duplex.Proofs.Inbound.Fidelity
import Duplex.Proofs.Inbound.Suspension
import Duplex.Proofs.Outbound.Poll
import Duplex.Proofs.Outbound.Attachment
import Duplex.Proofs.Outbound.Order
import Duplex.Proofs.Outbound.Gate
import Duplex.Proofs.Outbound.Verdict
import Duplex.Proofs.Outbound.Failure
import Duplex.Proofs.Session.Nesting
import Duplex.Proofs.Ending.Close
import Duplex.Proofs.Outbound.Cancellation
import Duplex.Proofs.Outbound.Course
import Duplex.Proofs.Outbound.Heard
import Duplex.Proofs.Outbound.Resolution
import Duplex.Proofs.Ending.Finalization
import Duplex.Proofs.Inbound.Report
import Duplex.Proofs.Outbound.Waking
import Duplex.Proofs.Inbound.Waking
import Duplex.Proofs.Inbound.Accounting
import Duplex.Proofs.Ending.Late
import Duplex.Proofs.Ending.Completion
import Duplex.Proofs.Ending.Precedence
import Duplex.Link.Exchange
import Duplex.Proofs.Exchange.Run
import Duplex.Proofs.Exchange.Hand
import Duplex.Proofs.Exchange.Inward
import Duplex.Proofs.Exchange.Tide
import Duplex.Proofs.Exchange.Switch
import Duplex.Proofs.Exchange.Inflow
import Duplex.Proofs.Exchange.Delivery
import Duplex.Proofs.Exchange.Weave
import Duplex.Proofs.Exchange.Pace
import Duplex.Proofs.Exchange.Sink
import Duplex.Proofs.Exchange.Windup
import Duplex.Proofs.Exchange.Standing
import Duplex.Proofs.Exchange.Outflow
import Duplex.Proofs.Exchange.Dispatch
import Duplex.Proofs.Exchange.Passage
import Duplex.Proofs.Exchange.Turns
import Duplex.Proofs.Exchange.Answer
import Duplex.Proofs.Outbound.Single
import Duplex.Proofs.Outbound.Closing
import Duplex.Proofs.Scenario.Refusal
import Duplex.Proofs.Wire.Carrying
import Duplex.Proofs.Wire.CloseFrame
import Duplex.Proofs.Wire.CloseStatus
import Duplex.Proofs.Utf8.Pieces
import Duplex.Proofs.Wire.Conversion
import Duplex.Proofs.Json.Text
import Duplex.Proofs.Json.Accepting
import Duplex.Proofs.Json.Object
import Duplex.Proofs.Json.Alongside
import Duplex.Proofs.Json.Number
import Duplex.Proofs.Json.Spacing
import Duplex.Proofs.Json.RoundTrip
import Duplex.Proofs.Handshake.Lookup
import Duplex.Proofs.Handshake.Builder
import Duplex.Proofs.Handshake.Names
