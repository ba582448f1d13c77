/-!
# Names of the telemetry

The keys and fixed values under which spans, message events and measurements of a call are found.
Dashboards group by these names.
-/

namespace RpcTelemetry.Convention

/-- The instrumentation scope of tracers and meters. -/
def scopeName : String := "spark-otel-rpc"

/-- The version of the instrumentation scope. -/
def scopeVersion : String := "0.1.0"

/-- The key of the system that carries a call. -/
def rpcSystem : String := "rpc.system"

/-- The one system there is. -/
def grpc : String := "grpc"

/-- The key of the service of a call. -/
def rpcService : String := "rpc.service"

/-- The key of the method of a call. -/
def rpcMethod : String := "rpc.method"

/-- The key of the numeric status code at the end of a call. -/
def statusCode : String := "rpc.grpc.status_code"

/-- The name of the span event of a message. -/
def messageEvent : String := "message"

/-- The key of the direction of a message. -/
def messageType : String := "message.type"

/-- The direction of a message that came in. -/
def received : String := "RECEIVED"

/-- The direction of a message that went out. -/
def sent : String := "SENT"

/-- The key of the ordinal of a message within its direction. -/
def messageId : String := "message.id"

/-- The key of the size of a message on the wire. -/
def compressedSize : String := "message.compressed_size"

/-- The key of the size of a message in memory. -/
def uncompressedSize : String := "message.uncompressed_size"

/-- The key of the text of a message that came in. -/
def requestPayload : String := "request"

/-- The key of the text of a message that went out. -/
def responsePayload : String := "response"

/-- The key of a peer known by its address. -/
def socketPeerAddress : String := "net.sock.peer.addr"

/-- The key of the port of a peer known by its address. -/
def socketPeerPort : String := "net.sock.peer.port"

/-- The key of a peer known by its host name. -/
def peerName : String := "net.peer.name"

/-- The key of the port of a peer known by its host name. -/
def peerPort : String := "net.peer.port"

/-- All names except the version, by group. -/
def all : List String :=
  [scopeName,
    rpcSystem, grpc, rpcService, rpcMethod, statusCode,
    messageEvent, messageType, received, sent, messageId, compressedSize, uncompressedSize,
    requestPayload, responsePayload,
    socketPeerAddress, socketPeerPort, peerName, peerPort]

end RpcTelemetry.Convention
