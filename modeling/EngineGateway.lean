import EngineGateway.Main
import EngineGateway.Proofs.Engine.Delivery
import EngineGateway.Proofs.Engine.LifeCycle
import EngineGateway.Proofs.Engine.Mailbox
import EngineGateway.Proofs.Gateway.Reconnect
import EngineGateway.Proofs.Peer.Relays
import EngineGateway.Proofs.Peer.StatusLines
import EngineGateway.Proofs.Peer.Detaching
import EngineGateway.Proofs.Peer.Bookkeeping
import EngineGateway.Rehearsal.Attempts
import EngineGateway.Rehearsal.Desktop
import EngineGateway.Rehearsal.Hub
import EngineGateway.Rehearsal.Names
import EngineGateway.Rehearsal.Search
import EngineGateway.Rehearsal.Visit
import EngineGateway.Proofs.Server.Manned
import EngineGateway.Proofs.Server.Steps
import EngineGateway.Proofs.Server.Turns
import EngineGateway.Proofs.Server.Letters
import EngineGateway.Proofs.Server.Streams
import EngineGateway.Proofs.Server.Conversation
import EngineGateway.Proofs.Transport.Uses
import EngineGateway.Proofs.Socket.Writing
import EngineGateway.Proofs.SharedBuffer.Calls
import EngineGateway.Proofs.Dde.Calls
import EngineGateway.Proofs.Transport.Closing
import EngineGateway.Proofs.Windows.Mutex
import EngineGateway.Proofs.SharedBuffer.Bracket
import EngineGateway.Proofs.Net.Blocks
import EngineGateway.Proofs.Server.Admission
import EngineGateway.Proofs.SharedBuffer.Room
import EngineGateway.Proofs.Windows.Room
import EngineGateway.Proofs.Peer.Collecting
import EngineGateway.Proofs.Server.Accord
import EngineGateway.Proofs.Peer.Departed
import EngineGateway.Proofs.Text.CodePage
import EngineGateway.Proofs.Engine.Echo
import EngineGateway.Proofs.Script.Strings
import EngineGateway.Proofs.Script.Gaps
import EngineGateway.Proofs.Engine.Macros
import EngineGateway.Proofs.BinaryFrame
import EngineGateway.Proofs.Directive
import EngineGateway.Proofs.Script.LineEnds
import EngineGateway.Proofs.Script.Spans
import EngineGateway.Proofs.Script.Grouping
import EngineGateway.Proofs.Engine.Attempts
import EngineGateway.Proofs.Gateway.Output
import EngineGateway.Proofs.Gateway.Frames
import EngineGateway.Proofs.Windows.Transaction
import EngineGateway.Proofs.Discovery.Decisions
import EngineGateway.Proofs.Dde.Version
import EngineGateway.Proofs.SharedBuffer.Probing
import EngineGateway.Proofs.Windows.Conversations
import EngineGateway.Proofs.Peer.Lineage
import EngineGateway.Proofs.Script.Stops
import EngineGateway.Proofs.Server.Offers
import EngineGateway.Proofs.Settings.Layers
