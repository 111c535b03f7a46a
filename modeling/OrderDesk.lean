import OrderDesk.Amount.Decimal
import OrderDesk.Clearing.Approval
import OrderDesk.Client.Orders
import OrderDesk.Identifier.Checksum
import OrderDesk.Native
import OrderDesk.Service.Script
import OrderDesk.Session.Rounds
import OrderDesk.Proofs.Waitlist.Outcome
import OrderDesk.Proofs.Waitlist.Reachable
import OrderDesk.Proofs.Session.SingleFlight
import OrderDesk.Proofs.Channel.Disconnect
import OrderDesk.Proofs.Channel.Dispatch
import OrderDesk.Proofs.Wire.RoundTrip
import OrderDesk.Proofs.Signing.Signature
import OrderDesk.Proofs.Identifier.Forms
import OrderDesk.Proofs.Identifier.ChainIdGrammar
import OrderDesk.Proofs.Identifier.Malformed
import OrderDesk.Proofs.Identifier.Order
import OrderDesk.Proofs.Identifier.Evm
import OrderDesk.Proofs.Url.Endpoint
import OrderDesk.Proofs.Url.Routes
import OrderDesk.Proofs.Session.Retry
import OrderDesk.Proofs.Session.Freshness
import OrderDesk.Proofs.Session.Origin
import OrderDesk.Proofs.Client.Refusal
import OrderDesk.Proofs.Stream.Delivery
import OrderDesk.Proofs.Stream.Control
import OrderDesk.Proofs.Stream.Classification
import OrderDesk.Proofs.Clearing.Sealed
import OrderDesk.Proofs.Amount.Twice
import OrderDesk.Proofs.Amount.Decimal
import OrderDesk.Proofs.Amount.Numeral
