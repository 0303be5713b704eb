import NebulaRpc.Rpc.Controller
import NebulaRpc.Rpc.RoundTrip

/-!
# The replies of the server

What `RpcServer` does with one frame and with the end of one handler, as calls of
`ResponseFlushScope::Write`. Messages and services are generated or written by the user: a service
is known by the payloads that its methods can parse, a handler by how it ends.
-/

namespace NebulaRpc.Rpc

/-- `RpcErrorCode`. Its type is `std::int32_t`, so it can hold any number of it. -/
inductive RpcErrorCode where
  | ok
  | badRequest
  | notFound
  | internalError
  | other (value : Int32)
  deriving DecidableEq

def RpcErrorCode.toInt32 : RpcErrorCode → Int32
  | .ok => 0
  | .badRequest => 400
  | .notFound => 404
  | .internalError => 500
  | .other value => value

/-- A message as `what()` shows it: a C string ends at its first zero octet. -/
def what (message : List UInt8) : List UInt8 := message.takeWhile (· ≠ 0)

/-! ## Services -/

/-- A method of a `google::protobuf::Service`; `parses` is `ParseFromArray` of its request. -/
structure ServiceMethod where
  parses : List UInt8 → Bool

/-- What is registered with a server. A `CoroutineService` has an entry for each method of its
descriptor, empty until a handler is registered. -/
structure Services where
  coroutineServices : List UInt8 → Option (List (Option ServiceMethod)) := fun _ => none
  services : List UInt8 → Option (List ServiceMethod) := fun _ => none

/-- How a handler of a `CoroutineService` ends. -/
inductive HandlerResult where
  | returned (response : Option MessageLite)
  | rpcServiceError (code : RpcErrorCode) (message : List UInt8)
  | rpcError (message : List UInt8)
  | exception (message : List UInt8)
  | unknown

/-- How the handler of a call ends: by `done->Run()` or as a coroutine. -/
inductive HandlerEnd where
  | done (response : MessageLite)
  | coroutine (result : HandlerResult)

/-! ## Replies -/

/-- A call of `ResponseFlushScope::Write`. -/
structure ScopeWrite where
  bytes : List UInt8
  finishCall : Bool

section Replies

variable (F : MetaFormat) (requestId traceId : UInt64)

/-- The meta of an ERROR frame. -/
def errorMeta (code : RpcErrorCode) (text : List UInt8) : RpcMeta :=
  { type := .error, requestId := requestId, traceId := traceId, errorCode := code.toInt32,
    errorText := text }

def sendError (code : RpcErrorCode) (text : List UInt8) : List ScopeWrite :=
  let bytes := encode F (errorMeta requestId traceId code text) []
  if bytes ≠ [] then [⟨bytes, false⟩] else []

/-- `SendError` and then `Write({}, true)`. -/
def finishWithError (code : RpcErrorCode) (text : List UInt8) : List ScopeWrite :=
  sendError F requestId traceId code text ++ [⟨[], true⟩]

def sendResponse (response : MessageLite) : List ScopeWrite :=
  match response.serializeToString with
  | none =>
    finishWithError F requestId traceId .internalError
      (octets "response protobuf serialization failed")
  | some payload =>
    let bytes := encode F { type := .response, requestId := requestId, traceId := traceId } payload
    if bytes = [] then
      finishWithError F requestId traceId .internalError (octets "response frame encoding failed")
    else [⟨bytes, true⟩]

def sendHeartbeatEcho : List ScopeWrite :=
  let bytes := encode F { type := .heartbeat, requestId := requestId, traceId := traceId } []
  if bytes ≠ [] then [⟨bytes, false⟩] else []

/-- `DispatchCoroutineRequest`, from the end of the handler on. -/
def dispatchCoroutineRequest : HandlerResult → List ScopeWrite
  | .returned none =>
    finishWithError F requestId traceId .internalError
      (octets "coroutine handler returned a null response")
  | .returned (some response) => sendResponse F requestId traceId response
  | .rpcServiceError code message => finishWithError F requestId traceId code (what message)
  | .rpcError message | .exception message =>
    finishWithError F requestId traceId .internalError (what message)
  | .unknown =>
    finishWithError F requestId traceId .internalError
      (octets "unknown coroutine handler exception")

/-- What the end of a handler writes. -/
def finishCall : HandlerEnd → List ScopeWrite
  | .done response => sendResponse F requestId traceId response
  | .coroutine result => dispatchCoroutineRequest F requestId traceId result

end Replies

/-! ## Frames -/

/-- What becomes of a frame: it is answered at once, or counted and handed to a handler. -/
inductive Handling where
  | reply (writes : List ScopeWrite)
  | dispatch (requestId traceId : UInt64) (coroutine : Bool)

def handleCoroutineRequest (F : MetaFormat) (methods : List (Option ServiceMethod))
    (frame : RpcFrame) : Handling :=
  let requestId := frame.rpcMeta.requestId
  let traceId := frame.rpcMeta.traceId
  match methods[frame.rpcMeta.methodIndex.toNat]?.join with
  | none => .reply (sendError F requestId traceId .notFound (octets "coroutine method not found"))
  | some method =>
    if method.parses frame.payload then .dispatch requestId traceId true
    else .reply (sendError F requestId traceId .badRequest (octets "request protobuf parse failed"))

def handleRequest (F : MetaFormat) (S : Services) (frame : RpcFrame) : Handling :=
  let requestId := frame.rpcMeta.requestId
  let traceId := frame.rpcMeta.traceId
  match S.coroutineServices frame.rpcMeta.serviceName with
  | some methods => handleCoroutineRequest F methods frame
  | none =>
    match S.services frame.rpcMeta.serviceName with
    | none => .reply (sendError F requestId traceId .notFound (octets "service not found"))
    | some methods =>
      match methods[frame.rpcMeta.methodIndex.toNat]? with
      | none => .reply (sendError F requestId traceId .notFound (octets "method not found"))
      | some method =>
        if method.parses frame.payload then .dispatch requestId traceId false
        else
          .reply (sendError F requestId traceId .badRequest
            (octets "request protobuf parse failed"))

/-- The body of the loop in `RpcServer::OnMessage`. -/
def handleFrame (F : MetaFormat) (S : Services) (frame : RpcFrame) : Handling :=
  if frame.rpcMeta.type = .heartbeat then
    .reply (sendHeartbeatEcho F frame.rpcMeta.requestId frame.rpcMeta.traceId)
  else if frame.rpcMeta.type = .request then handleRequest F S frame
  else
    .reply (sendError F frame.rpcMeta.requestId frame.rpcMeta.traceId .badRequest
      (octets "server received a non-request/heartbeat frame"))

end NebulaRpc.Rpc
