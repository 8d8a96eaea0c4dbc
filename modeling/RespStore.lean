import RespStore.FrameBuffer
import RespStore.Main
import RespStore.Proofs.Frame.Grammar
import RespStore.Proofs.Frame.RoundTrip
import RespStore.Store.Handles
import RespStore.Proofs.Frame.Extension
import RespStore.Proofs.Frame.Stream
import RespStore.Proofs.Chunking
import RespStore.Proofs.Command.Execute
import RespStore.Proofs.Connection
import RespStore.Proofs.Service.Refinement
import RespStore.Proofs.Text.Lowercase
import RespStore.Proofs.FrameBuffer
import RespStore.Proofs.Text.Lines
import RespStore.Proofs.Command.Replies
import RespStore.Proofs.Connection.Replies
import RespStore.Proofs.Connection.Phases
import RespStore.Proofs.Connection.Malformed
import RespStore.Proofs.Command.Counting
import RespStore.Proofs.Service.Counting
import RespStore.Proofs.Store.Deletion
import RespStore.Proofs.Store.Counter
import RespStore.Proofs.Command.Effects
import RespStore.Proofs.Command.Projection
import RespStore.Proofs.Service.Isolation
import RespStore.Proofs.FrameBuffer.Operations
import RespStore.Proofs.FrameBuffer.Agreement
import RespStore.Proofs.FrameBuffer.Queue
import RespStore.Proofs.Registry
import RespStore.Proofs.Frame.Locality
import RespStore.Proofs.Frame.Lines
import RespStore.Proofs.Frame.Renewal
import RespStore.Proofs.Holding
import RespStore.Proofs.Frame.Limits
import RespStore.Proofs.Frame.Words
import RespStore.Proofs.Frame.Written
import RespStore.Proofs.Recovery
import RespStore.Proofs.Command.Grammar
import RespStore.Proofs.Command.Failure
import RespStore.Proofs.Text.Ascii
import RespStore.Proofs.Command.Names
import RespStore.Proofs.Store.Counting
import RespStore.Proofs.Command.Accounting
import RespStore.Proofs.Frame.Consumption
import RespStore.Proofs.CommandLine.Documented
import RespStore.Proofs.CommandLine.Reader
import RespStore.Proofs.Settings.Precedence
