import RpcTelemetry.Session.Report
import RpcTelemetry.Install.Script
import RpcTelemetry.Proofs.Call.Run
import RpcTelemetry.Proofs.Address.SocketPeer
import RpcTelemetry.Proofs.Trace.Given
import RpcTelemetry.Proofs.World.Delivery
import RpcTelemetry.Proofs.World.Tagging
import RpcTelemetry.Proofs.Call.Account
import RpcTelemetry.Proofs.Call.Measurements
import RpcTelemetry.Proofs.Call.Exported
import RpcTelemetry.Proofs.Call.AfterEnd
import RpcTelemetry.Proofs.Propagation.Header
import RpcTelemetry.Proofs.Propagation.Continuity
import RpcTelemetry.Proofs.Propagation.Carrier
import RpcTelemetry.Proofs.Propagation.Channel
import RpcTelemetry.Proofs.Call.Closing
import RpcTelemetry.Proofs.Call.Filtering
import RpcTelemetry.Proofs.Call.Following
import RpcTelemetry.Proofs.Call.StatusCode
import RpcTelemetry.Proofs.Call.Detached
import RpcTelemetry.Proofs.Call.Roles
import RpcTelemetry.Proofs.Concurrency.Race
import RpcTelemetry.Proofs.Concurrency.History
import RpcTelemetry.Proofs.Concurrency.Ordinals
import RpcTelemetry.Proofs.Concurrency.Overtaking
import RpcTelemetry.Proofs.Session.Ownership
import RpcTelemetry.Proofs.Session.Steps
import RpcTelemetry.Proofs.Session.ExportedOnce
import RpcTelemetry.Proofs.World.Interference
import RpcTelemetry.Proofs.World.Binding
import RpcTelemetry.Proofs.Address.PeerGrammar
import RpcTelemetry.Proofs.Propagation.Overlay
import RpcTelemetry.Proofs.Payload.FirstFailure
import RpcTelemetry.Proofs.Trace.EventTexts
import RpcTelemetry.Proofs.Call.PayloadTexts
import RpcTelemetry.Proofs.Call.RepeatedHeaders
import RpcTelemetry.Proofs.Method.Identity
import RpcTelemetry.Proofs.Decimal.FirstDigit
import RpcTelemetry.Proofs.Install.OneShot
import RpcTelemetry.Proofs.Metadata.LastWrite
import RpcTelemetry.Proofs.Payload.Reader
import RpcTelemetry.Proofs.Payload.Spelling
import RpcTelemetry.Proofs.Payload.ReadBack
import RpcTelemetry.Proofs.Call.LogLines
import RpcTelemetry.Proofs.Clock.ExactDifference
