import GraphProtocol.Config.Document
import GraphProtocol.Proofs.Auth.Accounts
import GraphProtocol.Proofs.Config.Deadlines
import GraphProtocol.Proofs.Config.Overrides
import GraphProtocol.Proofs.Connection.Cancellation
import GraphProtocol.Proofs.Connection.Delivery
import GraphProtocol.Proofs.Connection.Holding
import GraphProtocol.Proofs.Connection.Interrupts
import GraphProtocol.Proofs.Connection.Ledger
import GraphProtocol.Proofs.Connection.Records
import GraphProtocol.Proofs.Connection.Sharing
import GraphProtocol.Proofs.Connection.Tallies
import GraphProtocol.Proofs.Connection.Untransacted
import GraphProtocol.Proofs.Frame.Cuts
import GraphProtocol.Proofs.Message.Requests
import GraphProtocol.Proofs.Message.Responses
import GraphProtocol.Proofs.Message.Successors
import GraphProtocol.Proofs.Message.Verdicts
import GraphProtocol.Proofs.Query.Bookmarks
import GraphProtocol.Proofs.Query.Bytewise
import GraphProtocol.Proofs.Query.Events
import GraphProtocol.Proofs.Query.Names
import GraphProtocol.Proofs.Query.Numerals
import GraphProtocol.Proofs.Query.Overlaps
import GraphProtocol.Proofs.Query.Parsing
import GraphProtocol.Proofs.Query.Spellings
import GraphProtocol.Proofs.Query.Unwinding
import GraphProtocol.Proofs.Reply.Packing
import GraphProtocol.Proofs.Reply.Reports
import GraphProtocol.Proofs.Server.Visits
import GraphProtocol.Proofs.Value.Equality
import GraphProtocol.Proofs.Value.Histories
import GraphProtocol.Proofs.Wire.Balance
import GraphProtocol.Proofs.Wire.Moments
import GraphProtocol.Proofs.Wire.Truncation
import GraphProtocol.Proofs.Wire.Versions
import GraphProtocol.Query.Literal.Engine
import GraphProtocol.Query.Literal.Overlap
import GraphProtocol.Query.Script
import GraphProtocol.Reply.Writer
import GraphProtocol.Server.Visit
import GraphProtocol.Tls.Material
import GraphProtocol.Value.Equality
import GraphProtocol.Value.Text
