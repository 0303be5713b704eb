import NebulaRpc.Library.Transition
import NebulaRpc.Rpc.Codec
import NebulaRpc.Rpc.Controller

/-!
# The client channel

`RpcChannel` on its loop thread, with other threads that begin and cancel calls. User code runs
outside of all handlers and inside of the callbacks of the channel: completion callbacks, the
degrade handler and cancel closures. There it may call the channel again, so the handlers that wait
for user code form a stack; the other frames of the stack are points at which only other threads can
come in between. Loop functors run in any order, timers fire at any time, and the order in which a
map is traversed is free.

A call is known by the number of its `BeginCall`. What a call writes to and nothing of the channel
reads back is collected in `ChannelEnv`. A response message is known by the payload it was parsed
from. A controller that is not an `RpcController` counts as none. The periodic report of the metrics
and the log are left out.
-/

namespace NebulaRpc.Rpc

/-! ## Calls -/

/-- What names a `MethodDescriptor`. -/
structure RpcMethod where
  serviceName : List UInt8
  index : UInt32
  deriving DecidableEq

/-- The arguments of `BeginCall`, with what `GenerateTraceId` returns. A response is known by the
payloads that it can be parsed from. -/
structure CallArguments where
  method : Option RpcMethod
  controller : Option Nat
  request : Option MessageLite
  response : Option (List UInt8 → Bool)
  coroutine : Bool
  traceId : UInt64

/-- `RpcChannel::PendingCall`; `call` is the state of the arbiter. -/
structure PendingCall where
  number : Nat
  parses : List UInt8 → Bool
  controller : Option Nat
  coroutine : Bool
  method : RpcMethod
  deadline : Option Int
  sentAt : Int
  traceId : UInt64
  timeoutTimer : Option Nat := none
  cancelToken : Int := -1
  call : RpcCallState := .pending

/-- `RpcCoroutineCompletion`, without the handle. -/
structure CoroutineCompletion where
  requestId : UInt64 := 0
  traceId : UInt64 := 0
  latency : Int := 0
  remoteErrorCode : Int32 := 0

/-- One call of `RpcMetrics::Record`; the latency is in microseconds. -/
structure CallRecord where
  method : RpcMethod
  state : RpcCallState
  latency : Int

/-- A timer that the channel has set. -/
inductive ChannelTimer where
  | timeout (requestId : UInt64)
  | heartbeat
  deriving DecidableEq

/-- What the channel has handed to its loop. -/
inductive ChannelFunctor where
  | registerAndSend (requestId : UInt64) (bytes : List UInt8) (call : PendingCall)
  | completeInvalid (number : Nat) (controller : Option Nat) (coroutine : Bool)
      (reason : List UInt8)
  | cancel (requestId : UInt64)
  | resume (number : Nat)
  | flush (conn : Nat)

/-- The call that a functor is to register or to notify. -/
def ChannelFunctor.number : ChannelFunctor → Option Nat
  | .registerAndSend _ _ call => some call.number
  | .completeInvalid number .. => some number
  | _ => none

/-- A handler that waits on the stack. -/
inductive ChannelFrame where
  /-- in `done->Run()` -/
  | done (number : Nat)
  /-- in `degrade_handler_` -/
  | degrade (requestId : UInt64) (call : PendingCall) (reason : List UInt8)
  /-- in `RegisterAndSend`, behind `RegisterCancelCallback` -/
  | registered (requestId : UInt64) (token : Int) (bytes : List UInt8)
  /-- in `StartCancel`, with these closures still to run -/
  | startCancel (requestIds : List UInt64)
  /-- in `FailAllPending(connection_error_)`, with these ids still to come; the text is read again
  for each of them -/
  | failEach (requestIds : List UInt64)
  /-- in `OnMessage`, with these frames and then this error still to be found in the buffer -/
  | onMessage (conn : Nat) (frames : List RpcFrame) (error : Option String)
  /-- in `client_->Disconnect()`, at the end of `OnMessage` -/
  | disconnect
  /-- in `connection_->ForceClose()`, or in `connection_->Flush()` with a heartbeat; in both cases
  `ScheduleHeartbeatInLoop` is still to come -/
  | forceClose
  /-- in `FailAllPendingNow`, at the end of the destructor -/
  | failAllPendingNow

/-- User code runs on top of the handler. -/
def ChannelFrame.userCode : ChannelFrame → Bool
  | .done _ | .degrade .. | .startCancel _ => true
  | _ => false

/-- The connection may change on top of the handler: user code flushes it, or the handler closes
it. -/
def ChannelFrame.network : ChannelFrame → Bool
  | .done _ | .degrade .. | .startCancel _ | .disconnect | .forceClose => true
  | _ => false

/-- `RpcChannel::ConnectionState`. -/
inductive ChannelState where
  | connecting
  | connected
  | disconnected
  deriving DecidableEq

/-! ## What calls write to -/

structure ChannelEnv where
  clock : Int := 0
  controllers : Nat → RpcController := fun _ => {}
  completions : Nat → CoroutineCompletion := fun _ => {}
  responses : Nat → Option (List UInt8) := fun _ => none
  metrics : List CallRecord := []
  timers : List (Nat × ChannelTimer) := []
  nextTimer : Nat := 0
  written : List (Nat × List UInt8) := []

namespace ChannelEnv

def updateController (e : ChannelEnv) (f : RpcController → RpcController) :
    Option Nat → ChannelEnv
  | none => e
  | some c => { e with controllers := Function.update e.controllers c (f (e.controllers c)) }

def applyFailure (e : ChannelEnv) (controller : Option Nat) (reason : List UInt8)
    (state : RpcCallState) : ChannelEnv :=
  (e.updateController (·.setFailed reason) controller).updateController (·.markCallState state)
    controller

def applyFrame (e : ChannelEnv) (call : PendingCall) (frame : RpcFrame) : ChannelEnv :=
  if frame.rpcMeta.type = .error then
    e.updateController (·.setFailed frame.rpcMeta.errorText) call.controller
  else if frame.rpcMeta.type ≠ .response then
    e.updateController (·.setFailed (octets "unexpected RPC frame type")) call.controller
  else if call.parses frame.payload then
    { e with responses := Function.update e.responses call.number (some frame.payload) }
  else e.updateController (·.setFailed (octets "response protobuf parse failed")) call.controller

/-- `RecordMetrics`, and the latency goes to the completion of a coroutine. -/
def record (e : ChannelEnv) (call : PendingCall) (state : RpcCallState) : ChannelEnv :=
  let latency := (e.clock - call.sentAt).tdiv 1000
  { e with
    metrics := e.metrics ++ [⟨call.method, state, latency⟩]
    completions := if call.coroutine then
      Function.update e.completions call.number { e.completions call.number with latency := latency }
      else e.completions }

def setRemoteErrorCode (e : ChannelEnv) (call : PendingCall) (code : Int32) : ChannelEnv :=
  if call.coroutine then
    { e with
      completions := Function.update e.completions call.number
        { e.completions call.number with remoteErrorCode := code } }
  else e

def setTimer (e : ChannelEnv) (timer : ChannelTimer) : Nat × ChannelEnv :=
  (e.nextTimer, { e with
    timers := e.timers ++ [(e.nextTimer, timer)]
    nextTimer := e.nextTimer + 1 })

def cancelTimer (e : ChannelEnv) : Option Nat → ChannelEnv
  | none => e
  | some timer => { e with timers := e.timers.filter (·.1 ≠ timer) }

/-- What `TakePendingCall` does to the timer and to the cancel closure of the call. -/
def release (e : ChannelEnv) (call : PendingCall) : ChannelEnv :=
  let e := e.cancelTimer call.timeoutTimer
  if call.cancelToken ≥ 0 then e.updateController (·.removeOnCancel call.cancelToken) call.controller
  else e

end ChannelEnv

/-! ## The channel -/

structure RpcChannel where
  pendingCalls : List (UInt64 × PendingCall) := []
  connection : Option Nat := none
  /-- `connection_->Connected()` -/
  connectionUp : Bool := false
  connectionState : ChannelState := .connecting
  connectionError : List UInt8 := []
  maxPendingCalls : Nat := 0
  degradeHandler : Bool := false
  overloadRejectCount : Nat := 0
  heartbeatMissed : Nat := 0
  heartbeatTimer : Option Nat := none
  /-- the pointer in `alive_guard_` is not null -/
  alive : Bool := true
  /-- the number of request ids drawn so far, over all channels, plus one -/
  nextRequestId : Nat := 1
  env : ChannelEnv := {}
  functors : List ChannelFunctor := []
  /-- closures that a `StartCancel` on another thread has taken and not yet run -/
  cancelling : List UInt64 := []
  stack : List ChannelFrame := []
  begun : Nat := 0
  notified : List Nat := []
  destroyed : Bool := false

/-- The steps of the loop thread, of other threads and of the surroundings. -/
inductive ChannelStep where
  | elapse (now : Int)
  /-- a request id is drawn by another channel -/
  | drawRequestId
  | callMethodWithoutDone (controller : Option Nat)
  /-- `BeginCall` on the loop thread; the clock is read again in `RejectIfExpired` -/
  | beginCall (arguments : CallArguments) (later : Int)
  | remoteBeginCall (arguments : CallArguments)
  | cancelCoroutineCall (requestId : UInt64)
  | remoteCancelCoroutineCall (requestId : UInt64)
  | startCancel (controller : Nat)
  | remoteStartCancel (controller : Nat)
  | remoteClosure (index : Nat)
  | resetController (controller : Nat)
  | setTimeout (controller : Nat) (timeout : Int)
  | setDeadline (controller : Nat) (deadline : Int)
  /-- the degrade handler calls `SetFailed` on the controller that it was given -/
  | setFailed (reason : List UInt8)
  | setMaxPendingCalls (maxPendingCalls : Nat)
  | setDegradeHandler (installed : Bool)
  /-- `OnMessage` with the frames in the buffer, and what stands behind them -/
  | onMessage (conn : Nat) (frames : List RpcFrame) (error : Option String)
  | connectionUp (conn : Nat)
  /-- the order is that in which `FailAllPending` traverses the map -/
  | connectionDown (conn : Nat) (order : List UInt64)
  /-- the connection stops to accept writes -/
  | shutdown
  /-- a timer fires; a heartbeat has this trace id -/
  | timer (id : Nat) (traceId : UInt64)
  | runFunctor (index : Nat)
  /-- the handler on top of the stack goes on; the degrade handler has answered, or
  `FailAllPendingNow` has looked at the begin of the map, or `FailAllPending` traverses it -/
  | resume (accepted : Bool) (index : Nat) (order : List UInt64)
  | destroy

namespace RpcChannel

def userCode (s : RpcChannel) : Bool := (s.stack.head?.map ChannelFrame.userCode).getD true

def network (s : RpcChannel) : Bool := (s.stack.head?.map ChannelFrame.network).getD true

def push (s : RpcChannel) (frame : ChannelFrame) : RpcChannel :=
  { s with stack := frame :: s.stack }

/-! ### Completion -/

/-- A callback is run, a coroutine is resumed by a functor. -/
def notifyCompletion (s : RpcChannel) (number : Nat) (coroutine : Bool) : RpcChannel :=
  let s := { s with notified := number :: s.notified }
  if coroutine then { s with functors := s.functors ++ [.resume number] } else s.push (.done number)

def findPending (s : RpcChannel) (requestId : UInt64) : Option PendingCall :=
  (s.pendingCalls.find? (·.1 = requestId)).map (·.2)

def erasePending (s : RpcChannel) (requestId : UInt64) : RpcChannel :=
  { s with pendingCalls := s.pendingCalls.filter (·.1 ≠ requestId) }

/-- `TakePendingCall`. -/
def takePendingCall (s : RpcChannel) (requestId : UInt64) : Option (PendingCall × RpcChannel) :=
  (s.findPending requestId).map fun call =>
    (call, { s.erasePending requestId with env := s.env.release call })

/-- `TryComplete` and then `TakePendingCall`, with which all completions of a pending call begin. -/
def tryComplete (s : RpcChannel) (requestId : UInt64) : Option (PendingCall × RpcChannel) :=
  (s.findPending requestId).bind fun call =>
    if call.call = .pending then s.takePendingCall requestId else none

def completeCallWithFrame (s : RpcChannel) (requestId : UInt64) (frame : RpcFrame) : RpcChannel :=
  match s.tryComplete requestId with
  | none => s
  | some (call, s) =>
    let serverError := frame.rpcMeta.type = .error
    let e := s.env.record call (if serverError then .failed else .completed)
    let e := e.setRemoteErrorCode call (if serverError then frame.rpcMeta.errorCode else 0)
    let e := e.updateController (·.markCallState .completed) call.controller
    { s with env := e.applyFrame call frame }.notifyCompletion call.number call.coroutine

def completeCallWithFailure (s : RpcChannel) (requestId : UInt64) (reason : List UInt8)
    (state : RpcCallState) : RpcChannel :=
  match s.tryComplete requestId with
  | none => s
  | some (call, s) =>
    { s with env := (s.env.record call state).applyFailure call.controller reason state
      }.notifyCompletion call.number call.coroutine

def completeCallWithCancel (s : RpcChannel) (requestId : UInt64) : RpcChannel :=
  match s.tryComplete requestId with
  | none => s
  | some (call, s) =>
    { s with env := (s.env.record call .cancelled).updateController (·.markCanceled) call.controller
      }.notifyCompletion call.number call.coroutine

/-- One iteration of `FailAllPendingNow`, for the entry at the begin of the map. -/
def failPendingNow (s : RpcChannel) (requestId : UInt64) (reason : List UInt8) : RpcChannel :=
  match s.takePendingCall requestId with
  | none => s
  | some (call, s) =>
    if call.call = .pending then
      { s with env := (s.env.record call .failed).applyFailure call.controller reason .failed
        }.notifyCompletion call.number call.coroutine
    else s

/-! ### Beginning a call -/

/-- The three rejections at the head of `RegisterAndSend`; the degrade handler is called on top of
the second one. -/
def reject (s : RpcChannel) (call : PendingCall) (reason : List UInt8) (state : RpcCallState) :
    RpcChannel :=
  { s with env := (s.env.record call state).applyFailure call.controller reason state
    }.notifyCompletion call.number call.coroutine

def rejectUnavailable (s : RpcChannel) (call : PendingCall) : RpcChannel :=
  let reason := if s.connectionState = .disconnected then s.connectionError
    else octets "RPC connection is not available"
  s.reject call reason .failed

def rejectOverloaded (s : RpcChannel) (requestId : UInt64) (call : PendingCall) : RpcChannel :=
  let reason := octets "too many pending rpcs"
  let s := { s with
    env := s.env.record call .failed
    overloadRejectCount := s.overloadRejectCount + 1 }
  if s.degradeHandler then s.push (.degrade requestId call reason)
  else { s with env := s.env.applyFailure call.controller reason .failed
    }.notifyCompletion call.number call.coroutine

/-- The degrade handler has returned. -/
def degraded (s : RpcChannel) (call : PendingCall) (reason : List UInt8) (accepted : Bool) :
    RpcChannel :=
  let e := if accepted then s.env.updateController (·.markCallState .completed) call.controller
    else s.env.applyFailure call.controller reason .failed
  { s with env := e }.notifyCompletion call.number call.coroutine

/-- `pending_calls_.emplace`: an existing entry stays. -/
def emplace (s : RpcChannel) (requestId : UInt64) (call : PendingCall) : RpcChannel :=
  if (s.findPending requestId).isSome then s
  else { s with pendingCalls := s.pendingCalls ++ [(requestId, call)] }

/-- `RegisterCancelCallback`; a closure that is registered too late runs at once. -/
def registerCancelCallback (s : RpcChannel) (requestId : UInt64) (bytes : List UInt8) :
    RpcChannel :=
  match (s.findPending requestId).bind fun call => if call.coroutine then none else call.controller
  with
  | none => s.push (.registered requestId (-1) bytes)
  | some c =>
    if (s.env.controllers c).cancelRequested then
      let s := s.push (.registered requestId (-1) bytes)
      if s.alive then s.completeCallWithCancel requestId else s
    else
      let (token, controller) := (s.env.controllers c).registerOnCancel requestId
      { s with
        env := { s.env with controllers := Function.update s.env.controllers c controller }
        }.push (.registered requestId token bytes)

def registerAndSend (s : RpcChannel) (requestId : UInt64) (bytes : List UInt8)
    (call : PendingCall) : RpcChannel :=
  if s.connectionState ≠ .connected then s.rejectUnavailable call
  else if s.maxPendingCalls ≠ 0 ∧ s.maxPendingCalls ≤ s.pendingCalls.length then
    s.rejectOverloaded requestId call
  else if call.deadline.any (· ≤ s.env.clock) then s.reject call (octets "RPC timeout") .timeout
  else (s.emplace requestId call).registerCancelCallback requestId bytes

def modifyPending (s : RpcChannel) (requestId : UInt64) (f : PendingCall → PendingCall) :
    RpcChannel :=
  { s with pendingCalls := s.pendingCalls.map fun p => if p.1 = requestId then (p.1, f p.2) else p }

/-- `RegisterTimeoutTimer`. -/
def registerTimeoutTimer (s : RpcChannel) (requestId : UInt64) (call : PendingCall) : RpcChannel :=
  if call.deadline.isSome then
    let (timer, e) := s.env.setTimer (.timeout requestId)
    { s with env := e }.modifyPending requestId ({ · with timeoutTimer := some timer })
  else s

def writeRegisteredCall (s : RpcChannel) (requestId : UInt64) (bytes : List UInt8) : RpcChannel :=
  match s.connection, s.connectionUp with
  | some conn, true => { s with env := { s.env with written := s.env.written ++ [(conn, bytes)] } }
  | _, _ => s.completeCallWithFailure requestId (octets "RPC connection is not available") .failed

/-- The end of `RegisterAndSend`. -/
def registered (s : RpcChannel) (requestId : UInt64) (token : Int) (bytes : List UInt8) :
    RpcChannel :=
  match s.findPending requestId with
  | none => s
  | some call =>
    let s := s.modifyPending requestId ({ · with cancelToken := token })
    (s.registerTimeoutTimer requestId call).writeRegisteredCall requestId bytes

/-- The notification of a call that cannot be sent. -/
def completeInvalid (s : RpcChannel) (number : Nat) (controller : Option Nat) (coroutine : Bool)
    (reason : List UInt8) : RpcChannel :=
  { s with env := s.env.applyFailure controller reason .invalid }.notifyCompletion number coroutine

/-- What `BeginCall` hands to `RunInLoop`. -/
def prepareCall (F : MetaFormat) (s : RpcChannel) (a : CallArguments) :
    ChannelFunctor × RpcChannel :=
  let number := s.begun
  let s := { s with begun := s.begun + 1 }
  match a.method, a.request, a.response with
  | some method, some request, some parses =>
    let deadline := a.controller.bind fun c => (s.env.controllers c).resolveDeadline s.env.clock
    let requestId := UInt64.ofNat s.nextRequestId
    let s := { s with
      nextRequestId := s.nextRequestId + 1
      env := if a.coroutine then
        { s.env with
          completions := Function.update s.env.completions number
            { requestId := requestId, traceId := a.traceId } }
        else s.env }
    let bytes := encodeMessage F
      { type := .request, requestId := requestId, serviceName := method.serviceName,
        methodIndex := method.index, traceId := a.traceId } request
    if bytes = [] then
      (.completeInvalid number a.controller a.coroutine (octets "request frame encoding failed"), s)
    else
      (.registerAndSend requestId bytes
        { number := number, parses := parses, controller := a.controller, coroutine := a.coroutine,
          method := method, deadline := deadline, sentAt := s.env.clock, traceId := a.traceId }, s)
  | _, _, _ =>
    (.completeInvalid number a.controller a.coroutine (octets "invalid RPC call arguments"), s)

/-- A functor runs. A resumed coroutine goes on as user code. -/
def perform (s : RpcChannel) : ChannelFunctor → RpcChannel
  | .registerAndSend requestId bytes call => s.registerAndSend requestId bytes call
  | .completeInvalid number controller coroutine reason =>
    s.completeInvalid number controller coroutine reason
  | .cancel requestId => if s.alive then s.completeCallWithCancel requestId else s
  | .resume _ | .flush _ => s

/-! ### Heartbeats, the connection and messages -/

def kHeartbeatMaxMissed : Nat := 3

def cancelHeartbeat (s : RpcChannel) : RpcChannel :=
  { s with env := s.env.cancelTimer s.heartbeatTimer, heartbeatTimer := none }

def scheduleHeartbeat (s : RpcChannel) : RpcChannel :=
  let s := s.cancelHeartbeat
  let (timer, e) := s.env.setTimer .heartbeat
  { s with env := e, heartbeatTimer := some timer }

def sendHeartbeat (F : MetaFormat) (s : RpcChannel) (traceId : UInt64) : RpcChannel :=
  match s.connection with
  | none => s
  | some conn =>
    let bytes := encode F
      { type := .heartbeat, requestId := UInt64.ofNat s.nextRequestId, traceId := traceId } []
    let s := { s with nextRequestId := s.nextRequestId + 1 }
    if bytes ≠ [] ∧ s.connectionUp then
      { s with env := { s.env with written := s.env.written ++ [(conn, bytes)] } }
    else s

def onHeartbeatTimer (F : MetaFormat) (s : RpcChannel) (traceId : UInt64) : RpcChannel :=
  if s.connectionState ≠ .connected ∨ s.connection = none then
    { s with heartbeatMissed := 0 }.scheduleHeartbeat
  else if s.heartbeatMissed ≥ kHeartbeatMaxMissed then
    { s with heartbeatMissed := 0 }.push .forceClose
  else
    ({ s with heartbeatMissed := s.heartbeatMissed + 1 }.sendHeartbeat F traceId).push .forceClose

def connectionEstablished (s : RpcChannel) (conn : Nat) : RpcChannel :=
  { s with
    connection := some conn
    connectionUp := true
    connectionState := .connected
    connectionError := []
    heartbeatMissed := 0 }.scheduleHeartbeat

def connectionClosed (s : RpcChannel) (conn : Nat) (order : List UInt64) : RpcChannel :=
  let s := s.cancelHeartbeat
  let s := if s.connection = some conn then { s with connection := none, connectionUp := false }
    else s
  if s.connectionState = .disconnected then s
  else
    { s with
      connectionState := .connecting
      connectionError := octets "RPC connection closed" }.push (.failEach order)

def handleFrame (s : RpcChannel) (frame : RpcFrame) : RpcChannel :=
  if frame.rpcMeta.type = .heartbeat then { s with heartbeatMissed := 0 }
  else s.completeCallWithFrame frame.rpcMeta.requestId frame

/-- The buffer holds no further frame, or one that is not valid. -/
def endOfFrames (s : RpcChannel) (conn : Nat) (order : List UInt64) : Option String → RpcChannel
  | none => { s with functors := s.functors ++ [.flush conn] }
  | some error =>
    let reason := octets ("RPC protocol error: " ++ error)
    ({ s with connectionState := .disconnected, connectionError := reason }.push .disconnect).push
      (.failEach order)

/-- The ids in `pending_calls_`. -/
def keys (s : RpcChannel) : List UInt64 := s.pendingCalls.map (·.1)

/-- The handler on top of the stack goes on. -/
def resume (s : RpcChannel) (accepted : Bool) (index : Nat) (order : List UInt64) :
    Option RpcChannel :=
  match s.stack with
  | [] => none
  | .done _ :: stack | .disconnect :: stack => some { s with stack := stack }
  | .degrade _ call reason :: stack => some ({ s with stack := stack }.degraded call reason accepted)
  | .registered requestId token bytes :: stack =>
    some ({ s with stack := stack }.registered requestId token bytes)
  | .startCancel [] :: stack | .failEach [] :: stack => some { s with stack := stack }
  | .startCancel (requestId :: requestIds) :: stack =>
    let s := { s with stack := .startCancel requestIds :: stack }
    some (if s.alive then s.completeCallWithCancel requestId else s)
  | .failEach (requestId :: requestIds) :: stack =>
    some ({ s with stack := .failEach requestIds :: stack }.completeCallWithFailure requestId
      s.connectionError .failed)
  | .onMessage conn (frame :: frames) error :: stack =>
    some ({ s with stack := .onMessage conn frames error :: stack }.handleFrame frame)
  | .onMessage conn [] error :: stack =>
    if error.isNone || order.isPerm s.keys then
      some ({ s with stack := stack }.endOfFrames conn order error)
    else none
  | .forceClose :: stack => some { s with stack := stack }.scheduleHeartbeat
  | .failAllPendingNow :: stack =>
    match s.keys[index % s.keys.length]? with
    | none => some { s with stack := stack, destroyed := true }
    | some requestId => some (s.failPendingNow requestId (octets "RPC channel closed"))


/-! ### The system -/

def updateController (s : RpcChannel) (f : RpcController → RpcController) (c : Nat) : RpcChannel :=
  { s with env := s.env.updateController f (some c) }

/-- The destructor, up to `FailAllPendingNow`. -/
def destroy (s : RpcChannel) : RpcChannel :=
  { s.cancelHeartbeat with alive := false, connection := none, connectionUp := false
    }.push .failAllPendingNow

/-- A timer of the channel fires. -/
def fire (F : MetaFormat) (s : RpcChannel) (traceId : UInt64) : ChannelTimer → RpcChannel
  | .timeout requestId => s.completeCallWithFailure requestId (octets "RPC timeout") .timeout
  | .heartbeat => s.onHeartbeatTimer F traceId

def step (F : MetaFormat) (s : RpcChannel) : ChannelStep → Option RpcChannel
  | .elapse now =>
    if s.env.clock ≤ now then some { s with env := { s.env with clock := now } } else none
  | .drawRequestId => some { s with nextRequestId := s.nextRequestId + 1 }
  | .callMethodWithoutDone controller =>
    if s.userCode && !s.destroyed then
      some { s with
        env := s.env.applyFailure controller
          (octets "async RpcChannel requires a non-null done callback") .invalid }
    else none
  | .beginCall a later =>
    if s.userCode && !s.destroyed && s.env.clock ≤ later then
      let (functor, s) := s.prepareCall F a
      some ({ s with env := { s.env with clock := later } }.perform functor)
    else none
  | .remoteBeginCall a =>
    -- coroutine calls assert that they are on the loop thread
    if s.alive && !a.coroutine then
      let (functor, s) := s.prepareCall F a
      some { s with functors := s.functors ++ [functor] }
    else none
  | .cancelCoroutineCall requestId =>
    if s.userCode && !s.destroyed then
      some (if requestId = 0 || !s.alive then s else s.completeCallWithCancel requestId)
    else none
  | .remoteCancelCoroutineCall requestId =>
    if s.alive then
      some (if requestId = 0 then s
        else { s with functors := s.functors ++ [.cancel requestId] })
    else none
  | .startCancel c =>
    if s.userCode then
      some ((s.updateController (·.startCancel.2) c).push
        (.startCancel (s.env.controllers c).startCancel.1))
    else none
  | .remoteStartCancel c =>
    some { s.updateController (·.startCancel.2) c with
      cancelling := s.cancelling ++ (s.env.controllers c).startCancel.1 }
  | .remoteClosure index =>
    s.cancelling[index]?.map fun requestId =>
      { s with
        cancelling := s.cancelling.eraseIdx index
        functors := if s.alive then s.functors ++ [.cancel requestId] else s.functors }
  | .resetController c => some (s.updateController (·.reset) c)
  | .setTimeout c timeout => some (s.updateController (·.setTimeout timeout) c)
  | .setDeadline c deadline => some (s.updateController (·.setDeadline deadline) c)
  | .setFailed reason =>
    match s.stack with
    | .degrade _ call _ :: _ =>
      some { s with env := s.env.updateController (·.setFailed reason) call.controller }
    | _ => none
  | .setMaxPendingCalls n =>
    if s.userCode && !s.destroyed then some { s with maxPendingCalls := n } else none
  | .setDegradeHandler installed =>
    if s.userCode && !s.destroyed then some { s with degradeHandler := installed } else none
  | .onMessage conn frames error =>
    if s.stack.isEmpty && s.alive then some (s.push (.onMessage conn frames error)) else none
  | .connectionUp conn =>
    if s.network && s.alive then some (s.connectionEstablished conn) else none
  | .connectionDown conn order =>
    if s.network && s.alive && order.isPerm s.keys then some (s.connectionClosed conn order)
    else none
  | .shutdown => if s.network then some { s with connectionUp := false } else none
  | .timer id traceId =>
    if s.stack.isEmpty then
      (s.env.timers.find? (·.1 = id)).map fun (_, timer) =>
        let s := { s with env := s.env.cancelTimer (some id) }
        if s.alive then s.fire F traceId timer else s
    else none
  | .runFunctor index =>
    if s.stack.isEmpty then
      s.functors[index]?.map fun functor =>
        { s with functors := s.functors.eraseIdx index }.perform functor
    else none
  | .resume accepted index order => s.resume accepted index order
  | .destroy =>
    -- no `BeginCall` of another thread is still queued
    if s.stack.isEmpty && s.alive && s.functors.all (·.number.isNone) then some s.destroy else none

theorem step_setFailed {F : MetaFormat} {s s' : RpcChannel} {reason : List UInt8}
    (hstep : s.step F (.setFailed reason) = some s') : ∃ id call reason' stack,
      s.stack = .degrade id call reason' :: stack ∧
        s' = { s with env := s.env.updateController (·.setFailed reason) call.controller } := by
  simp only [step] at hstep
  split at hstep
  · next hstack =>
    cases hstep
    exact ⟨_, _, _, _, hstack, rfl⟩
  · cases hstep

/-- The state behind a list of steps. -/
def run (F : MetaFormat) (s : RpcChannel) (steps : List ChannelStep) : Option RpcChannel :=
  Transition.run (step F) s steps

end RpcChannel

end NebulaRpc.Rpc
