import Mathlib.Logic.Relation
import NebulaRpc.Rpc.Census

/-!
# What a step of the channel can do

Every step of the channel is a sequence of effects. An effect keeps together what no other code can
come in between, so that an invariant of the channel is a case analysis over the effects.

A pending call ends in one way, `finish`, for one of the reasons in `Cause`. A call is begun by
queueing its registration, also on the loop thread, where the functor is taken out again at once.
-/

namespace NebulaRpc.Rpc

/-- How a pending call ends. -/
inductive Ending where
  | frame (frame : RpcFrame)
  | failure (reason : List UInt8) (state : RpcCallState)
  | cancel

/-- What the end of a call writes. -/
def ChannelEnv.finish (e : ChannelEnv) (call : PendingCall) : Ending → ChannelEnv
  | .frame frame =>
    let serverError := frame.rpcMeta.type = .error
    let e := e.record call (if serverError then .failed else .completed)
    let e := e.setRemoteErrorCode call (if serverError then frame.rpcMeta.errorCode else 0)
    let e := e.updateController (·.markCallState .completed) call.controller
    e.applyFrame call frame
  | .failure reason state => (e.record call state).applyFailure call.controller reason state
  | .cancel => (e.record call .cancelled).updateController (·.markCanceled) call.controller

/-- The call that a step begins. -/
def ChannelStep.arguments : ChannelStep → Option CallArguments
  | .beginCall a _ | .remoteBeginCall a => some a
  | _ => none

/-- The handler has nothing left to do. -/
def ChannelFrame.finished : ChannelFrame → Bool
  | .done _ | .disconnect | .startCancel [] | .failEach [] | .forceClose => true
  | _ => false

namespace RpcChannel

/-- A pending call is taken out of the map, released, ended and notified. -/
def finish (s : RpcChannel) (requestId : UInt64) (call : PendingCall) (ending : Ending) :
    RpcChannel :=
  { s.erasePending requestId with env := (s.env.release call).finish call ending
    }.notifyCompletion call.number call.coroutine

/-- `RegisterCancelCallback`, without the closure that runs at once. -/
def hook (s : RpcChannel) (requestId : UInt64) (bytes : List UInt8) : RpcChannel :=
  match (s.findPending requestId).bind fun call => if call.coroutine then none else call.controller
  with
  | none => s.push (.registered requestId (-1) bytes)
  | some c =>
    if (s.env.controllers c).cancelRequested then s.push (.registered requestId (-1) bytes)
    else
      let (token, controller) := (s.env.controllers c).registerOnCancel requestId
      { s with
        env := { s.env with controllers := Function.update s.env.controllers c controller }
        }.push (.registered requestId token bytes)

/-- The token and the timer of a registered call are stored. -/
def assign (s : RpcChannel) (requestId : UInt64) (token : Int) (call : PendingCall) : RpcChannel :=
  (s.modifyPending requestId ({ · with cancelToken := token })).registerTimeoutTimer requestId call

/-- The end of `RegisterAndSend`, without the failure when the connection takes no writes. -/
def store (s : RpcChannel) (requestId : UInt64) (token : Int) (bytes : List UInt8)
    (call : PendingCall) : RpcChannel :=
  let s := s.assign requestId token call
  match s.connection, s.connectionUp with
  | some conn, true => { s with env := { s.env with written := s.env.written ++ [(conn, bytes)] } }
  | _, _ => s

/-- Room for one more pending call. -/
def room (s : RpcChannel) : Prop := ¬(s.maxPendingCalls ≠ 0 ∧ s.maxPendingCalls ≤ s.pendingCalls.length)

/-- Why the call with this id ends as it does, and the state in which it is looked up. The step began
in `s₀`. -/
inductive Cause (a : ChannelStep) (s₀ s : RpcChannel) : RpcChannel → UInt64 → Ending → Prop
  | frame {conn : Nat} {frame : RpcFrame} {frames : List RpcFrame} {error : Option String}
      {stack : List ChannelFrame} {accepted : Bool} {index : Nat} {order : List UInt64}
      (hfirst : s = s₀) (ha : a = .resume accepted index order)
      (hstack : s.stack = .onMessage conn (frame :: frames) error :: stack)
      (htype : frame.rpcMeta.type ≠ .heartbeat) :
      Cause a s₀ s { s with stack := .onMessage conn frames error :: stack } frame.rpcMeta.requestId
        (.frame frame)
  | connection {id : UInt64} {ids : List UInt64} {stack : List ChannelFrame}
      (hstack : s.stack = .failEach (id :: ids) :: stack) :
      Cause a s₀ s { s with stack := .failEach ids :: stack } id (.failure s.connectionError .failed)
  | closed {id : UInt64} {stack : List ChannelFrame} (hstack : s.stack = .failAllPendingNow :: stack) :
      Cause a s₀ s s id (.failure (octets "RPC channel closed") .failed)
  | timeout {timer : Nat} {id : UInt64} (hstack : s.stack = [])
      (htimer : s.env.timers.find? (·.1 = timer) = some (timer, .timeout id)) :
      Cause a s₀ s { s with env := s.env.cancelTimer (some timer) } id
        (.failure (octets "RPC timeout") .timeout)
  | startCancel {id : UInt64} {ids : List UInt64} {stack : List ChannelFrame}
      (hstack : s.stack = .startCancel (id :: ids) :: stack) :
      Cause a s₀ s { s with stack := .startCancel ids :: stack } id .cancel
  | functor {index : Nat} {id : UInt64} (hfunctor : s.functors[index]? = some (.cancel id))
      (huser : s.userCode = true) :
      Cause a s₀ s { s with functors := s.functors.eraseIdx index } id .cancel
  | cancel {id : UInt64}
      (huser : s.userCode = true ∨ ∃ bytes stack, s.stack = .registered id (-1) bytes :: stack) :
      Cause a s₀ s s id .cancel
  | unwritten {id : UInt64} {token : Int} {bytes : List UInt8} {stack : List ChannelFrame}
      {call : PendingCall} (hstack : s.stack = .registered id token bytes :: stack)
      (hfind : s.findPending id = some call)
      (hconnection : s.connection = none ∨ s.connectionUp = false) :
      Cause a s₀ s ({ s with stack := stack }.store id token bytes call) id
        (.failure (octets "RPC connection is not available") .failed)

/-- What a step that began in `s₀` does at once. -/
inductive Effect (F : MetaFormat) (a : ChannelStep) (s₀ s : RpcChannel) : RpcChannel → Prop
  -- calls that end
  | finish {s₁ : RpcChannel} {id : UInt64} {call : PendingCall} {ending : Ending}
      (hcause : Cause a s₀ s s₁ id ending) (hfind : s₁.findPending id = some call)
      (hpending : call.call = .pending) : Effect F a s₀ s (s₁.finish id call ending)
  | skip {s₁ : RpcChannel} {id : UInt64} {ending : Ending} (hcause : Cause a s₀ s s₁ id ending)
      (hnone : ∀ call, s₁.findPending id = some call → call.call ≠ .pending) : Effect F a s₀ s s₁
  | discard {id : UInt64} {call : PendingCall} {stack : List ChannelFrame}
      (hstack : s.stack = .failAllPendingNow :: stack) (hfind : s.findPending id = some call)
      (hpending : call.call ≠ .pending) :
      Effect F a s₀ s { s.erasePending id with env := s.env.release call }
  -- calls that begin
  | prepare {arguments : CallArguments} (ha : a.arguments = some arguments) :
      Effect F a s₀ s { (s.prepareCall F arguments).2 with
        functors := s.functors ++ [(s.prepareCall F arguments).1] }
  | invalid {index number : Nat} {controller : Option Nat} {coroutine : Bool} {reason : List UInt8}
      (hfunctor : s.functors[index]? = some (.completeInvalid number controller coroutine reason))
      (huser : s.userCode = true) :
      Effect F a s₀ s ({ s with functors := s.functors.eraseIdx index }.completeInvalid number controller
        coroutine reason)
  | unavailable {index : Nat} {id : UInt64} {bytes : List UInt8} {call : PendingCall}
      (hfunctor : s.functors[index]? = some (.registerAndSend id bytes call))
      (hstate : s.connectionState ≠ .connected) (huser : s.userCode = true) :
      Effect F a s₀ s ({ s with functors := s.functors.eraseIdx index }.rejectUnavailable call)
  | overloaded {index : Nat} {id : UInt64} {bytes : List UInt8} {call : PendingCall}
      (hfunctor : s.functors[index]? = some (.registerAndSend id bytes call))
      (hstate : s.connectionState = .connected) (hroom : ¬ s.room) (huser : s.userCode = true) :
      Effect F a s₀ s ({ s with functors := s.functors.eraseIdx index }.rejectOverloaded id call)
  | expired {index : Nat} {id : UInt64} {bytes : List UInt8} {call : PendingCall}
      (hfunctor : s.functors[index]? = some (.registerAndSend id bytes call))
      (hstate : s.connectionState = .connected) (hroom : s.room)
      (hdeadline : call.deadline.any (· ≤ s.env.clock) = true) (huser : s.userCode = true) :
      Effect F a s₀ s ({ s with functors := s.functors.eraseIdx index }.reject call
        (octets "RPC timeout") .timeout)
  | insert {index : Nat} {id : UInt64} {bytes : List UInt8} {call : PendingCall}
      (hfunctor : s.functors[index]? = some (.registerAndSend id bytes call))
      (hstate : s.connectionState = .connected) (hroom : s.room)
      (hdeadline : call.deadline.any (· ≤ s.env.clock) = false) (huser : s.userCode = true) :
      Effect F a s₀ s (({ s with functors := s.functors.eraseIdx index }.emplace id call).hook id bytes)
  | store {id : UInt64} {token : Int} {bytes : List UInt8} {stack : List ChannelFrame}
      {call : PendingCall} (hstack : s.stack = .registered id token bytes :: stack)
      (hfind : s.findPending id = some call) :
      Effect F a s₀ s ({ s with stack := stack }.store id token bytes call)
  | unregistered {id : UInt64} {token : Int} {bytes : List UInt8} {stack : List ChannelFrame}
      (hstack : s.stack = .registered id token bytes :: stack) (hfind : s.findPending id = none) :
      Effect F a s₀ s { s with stack := stack }
  | degraded {id : UInt64} {call : PendingCall} {reason : List UInt8} {stack : List ChannelFrame}
      {accepted : Bool} {index : Nat} {order : List UInt64} (hfirst : s = s₀)
      (ha : a = .resume accepted index order)
      (hstack : s.stack = .degrade id call reason :: stack) :
      Effect F a s₀ s ({ s with stack := stack }.degraded call reason accepted)
  -- functors and frames
  | dequeue {index : Nat} {functor : ChannelFunctor} (hfunctor : s.functors[index]? = some functor)
      (hnumber : functor.number = none) :
      Effect F a s₀ s { s with functors := s.functors.eraseIdx index }
  | post {functor : ChannelFunctor} (hnumber : functor.number = none) :
      Effect F a s₀ s { s with functors := s.functors ++ [functor] }
  | returned {frame : ChannelFrame} {stack : List ChannelFrame} {accepted : Bool} {index : Nat}
      {order : List UInt64} (hstack : s.stack = frame :: stack) (hfinished : frame.finished = true)
      (hfirst : s = s₀) (ha : a = .resume accepted index order) :
      Effect F a s₀ s { s with stack := stack }
  | cancelIgnored {id : UInt64} {ids : List UInt64} {stack : List ChannelFrame}
      (hstack : s.stack = .startCancel (id :: ids) :: stack) :
      Effect F a s₀ s { s with stack := .startCancel ids :: stack }
  | heartbeatFrame {conn : Nat} {frame : RpcFrame} {frames : List RpcFrame} {error : Option String}
      {stack : List ChannelFrame} (hstack : s.stack = .onMessage conn (frame :: frames) error :: stack)
      (htype : frame.rpcMeta.type = .heartbeat) :
      Effect F a s₀ s { s with stack := .onMessage conn frames error :: stack, heartbeatMissed := 0 }
  | endOfFrames {conn : Nat} {error : Option String} {stack : List ChannelFrame}
      {order : List UInt64} (hstack : s.stack = .onMessage conn [] error :: stack)
      (horder : error.isNone || order.isPerm s.keys) :
      Effect F a s₀ s ({ s with stack := stack }.endOfFrames conn order error)
  | destroyed {stack : List ChannelFrame} (hstack : s.stack = .failAllPendingNow :: stack)
      (hkeys : s.keys = []) : Effect F a s₀ s { s with stack := stack, destroyed := true }
  -- timers and heartbeats
  | timerIgnored {timer : Nat} {kind : ChannelTimer} (hstack : s.stack = [])
      (htimer : s.env.timers.find? (·.1 = timer) = some (timer, kind))
      (hkind : kind = .heartbeat ∨ s.alive = false) (hfirst : s = s₀) :
      Effect F a s₀ s { s with env := s.env.cancelTimer (some timer) }
  | scheduleHeartbeat : Effect F a s₀ s s.scheduleHeartbeat
  | heartbeatMissed {missed : Nat} : Effect F a s₀ s { s with heartbeatMissed := missed }
  | sendHeartbeat {traceId : UInt64} (hstate : s.connectionState = .connected) :
      Effect F a s₀ s (s.sendHeartbeat F traceId)
  | forceClose (hstack : s.stack = []) : Effect F a s₀ s (s.push .forceClose)
  -- the user and the surroundings
  | elapse {now : Int} : Effect F a s₀ s { s with env := { s.env with clock := now } }
  | drawRequestId : Effect F a s₀ s { s with nextRequestId := s.nextRequestId + 1 }
  | callMethodWithoutDone {controller : Option Nat} (ha : a = .callMethodWithoutDone controller) :
      Effect F a s₀ s { s with
        env := s.env.applyFailure controller
          (octets "async RpcChannel requires a non-null done callback") .invalid }
  | startCancel {c : Nat} (ha : a = .startCancel c) (huser : s.userCode = true) :
      Effect F a s₀ s ((s.updateController (·.startCancel.2) c).push
        (.startCancel (s.env.controllers c).startCancel.1))
  | remoteStartCancel {c : Nat} (ha : a = .remoteStartCancel c) :
      Effect F a s₀ s { s.updateController (·.startCancel.2) c with
        cancelling := s.cancelling ++ (s.env.controllers c).startCancel.1 }
  | remoteClosure {index : Nat} {id : UInt64} (hid : s.cancelling[index]? = some id) :
      Effect F a s₀ s { s with
        cancelling := s.cancelling.eraseIdx index
        functors := if s.alive then s.functors ++ [.cancel id] else s.functors }
  | resetController {c : Nat} (ha : a = .resetController c) (hfirst : s = s₀) :
      Effect F a s₀ s (s.updateController (·.reset) c)
  | setTimeout {c : Nat} {timeout : Int} (ha : a = .setTimeout c timeout) :
      Effect F a s₀ s (s.updateController (·.setTimeout timeout) c)
  | setDeadline {c : Nat} {deadline : Int} (ha : a = .setDeadline c deadline) :
      Effect F a s₀ s (s.updateController (·.setDeadline deadline) c)
  | setFailed {id : UInt64} {call : PendingCall} {reason reason' : List UInt8}
      {stack : List ChannelFrame} (ha : a = .setFailed reason) (hfirst : s = s₀)
      (hstack : s.stack = .degrade id call reason' :: stack) :
      Effect F a s₀ s { s with env := s.env.updateController (·.setFailed reason) call.controller }
  | setMaxPendingCalls {n : Nat} : Effect F a s₀ s { s with maxPendingCalls := n }
  | setDegradeHandler {installed : Bool} (ha : a = .setDegradeHandler installed) :
      Effect F a s₀ s { s with degradeHandler := installed }
  | onMessage {conn : Nat} {frames : List RpcFrame} {error : Option String}
      (ha : a = .onMessage conn frames error) (hstack : s.stack = []) :
      Effect F a s₀ s (s.push (.onMessage conn frames error))
  | connectionUp {conn : Nat} (ha : a = .connectionUp conn) (halive : s.alive = true) :
      Effect F a s₀ s (s.connectionEstablished conn)
  | connectionDown {conn : Nat} {order : List UInt64} {connection : Option Nat} {up : Bool}
      (ha : a = .connectionDown conn order) (halive : s.alive = true)
      (horder : order.isPerm s.keys = true)
      (hconnection : (connection, up) =
        if s.connection = some conn then (none, false) else (s.connection, s.connectionUp))
      (hstate : s.connectionState ≠ .disconnected) (hnetwork : s.network = true) :
      Effect F a s₀ s ({ s.cancelHeartbeat with
        connection := connection
        connectionUp := up
        connectionState := .connecting
        connectionError := octets "RPC connection closed" }.push (.failEach order))
  | connectionGone {conn : Nat} {order : List UInt64} {connection : Option Nat} {up : Bool}
      (ha : a = .connectionDown conn order) (halive : s.alive = true)
      (hconnection : (connection, up) =
        if s.connection = some conn then (none, false) else (s.connection, s.connectionUp))
      (hstate : s.connectionState = .disconnected) :
      Effect F a s₀ s { s.cancelHeartbeat with connection := connection, connectionUp := up }
  | shutdown : Effect F a s₀ s { s with connectionUp := false }
  | destroy (hstack : s.stack = []) (hqueued : s.functors.all (·.number.isNone) = true) :
      Effect F a s₀ s s.destroy

/-! ## Every step is a sequence of effects -/

open Relation (ReflTransGen)

variable {F : MetaFormat} {a : ChannelStep} {s₀ s s₁ s' : RpcChannel} {id : UInt64}

theorem tryComplete_cases (s : RpcChannel) (id : UInt64) :
    (s.tryComplete id = none ∧ ∀ call, s.findPending id = some call → call.call ≠ .pending) ∨
      ∃ call, s.findPending id = some call ∧ call.call = .pending ∧
        s.tryComplete id = some (call, { s.erasePending id with env := s.env.release call }) := by
  cases hfind : s.findPending id with
  | none => exact .inl ⟨by simp [tryComplete, hfind], by simp⟩
  | some call =>
    by_cases hpending : call.call = .pending
    · exact .inr ⟨call, rfl, hpending, by simp [tryComplete, takePendingCall, hfind, hpending]⟩
    · exact .inl ⟨by simp [tryComplete, hfind, hpending], by simpa using hpending⟩

theorem effect_completeCallWithFrame {frame : RpcFrame} (hcause : Cause a s₀ s s₁ id (.frame frame)) :
    Effect F a s₀ s (s₁.completeCallWithFrame id frame) := by
  unfold completeCallWithFrame
  obtain ⟨hnone, hcalls⟩ | ⟨call, hfind, hpending, hsome⟩ := s₁.tryComplete_cases id
  · rw [hnone]
    exact .skip hcause hcalls
  · rw [hsome]
    exact .finish hcause hfind hpending

theorem effect_completeCallWithFailure {reason : List UInt8} {state : RpcCallState}
    (hcause : Cause a s₀ s s₁ id (.failure reason state)) :
    Effect F a s₀ s (s₁.completeCallWithFailure id reason state) := by
  unfold completeCallWithFailure
  obtain ⟨hnone, hcalls⟩ | ⟨call, hfind, hpending, hsome⟩ := s₁.tryComplete_cases id
  · rw [hnone]
    exact .skip hcause hcalls
  · rw [hsome]
    exact .finish hcause hfind hpending

theorem effect_completeCallWithCancel (hcause : Cause a s₀ s s₁ id .cancel) :
    Effect F a s₀ s (s₁.completeCallWithCancel id) := by
  unfold completeCallWithCancel
  obtain ⟨hnone, hcalls⟩ | ⟨call, hfind, hpending, hsome⟩ := s₁.tryComplete_cases id
  · rw [hnone]
    exact .skip hcause hcalls
  · rw [hsome]
    exact .finish hcause hfind hpending

theorem effects_failPendingNow {stack : List ChannelFrame}
    (hstack : s.stack = .failAllPendingNow :: stack) (id : UInt64) :
    ReflTransGen (Effect F a s₀) s (s.failPendingNow id (octets "RPC channel closed")) := by
  unfold failPendingNow takePendingCall
  cases hfind : s.findPending id with
  | none => exact .refl
  | some call =>
    rw [Option.map_some]
    dsimp only
    split
    · next hpending => exact .single (.finish (.closed hstack) hfind hpending)
    · next hpending => exact .single (.discard hstack hfind hpending)

theorem registerCancelCallback_cases (s : RpcChannel) (id : UInt64) (bytes : List UInt8) :
    s.registerCancelCallback id bytes = s.hook id bytes ∨
      s.registerCancelCallback id bytes = (s.hook id bytes).completeCallWithCancel id ∧
        (s.hook id bytes).stack = .registered id (-1) bytes :: s.stack := by
  unfold registerCancelCallback hook
  cases (s.findPending id).bind fun call => if call.coroutine then none else call.controller with
  | none => exact .inl rfl
  | some c =>
    cases hrequested : (s.env.controllers c).cancelRequested with
    | false => exact .inl (by simp [hrequested])
    | true =>
      cases halive : s.alive with
      | false => exact .inl (by simp [hrequested, push, halive])
      | true => exact .inr (by simp [hrequested, push, halive])

theorem effects_registerAndSend {index : Nat} {bytes : List UInt8} {call : PendingCall}
    (hfunctor : s.functors[index]? = some (.registerAndSend id bytes call))
    (huser : s.userCode = true) :
    ReflTransGen (Effect F a s₀) s
      ({ s with functors := s.functors.eraseIdx index }.registerAndSend id bytes call) := by
  unfold registerAndSend
  split
  · next hstate => exact .single (.unavailable hfunctor hstate huser)
  · next hstate =>
    rw [not_not] at hstate
    split
    · next hroom => exact .single (.overloaded hfunctor hstate (not_not.mpr hroom) huser)
    · next hroom =>
      split
      · next hdeadline => exact .single (.expired hfunctor hstate hroom hdeadline huser)
      · next hdeadline =>
        have hinsert : Effect F a s₀ s _ :=
          .insert hfunctor hstate hroom (by simpa using hdeadline) huser
        obtain heq | ⟨heq, hstack⟩ := registerCancelCallback_cases
          ({ s with functors := s.functors.eraseIdx index }.emplace id call) id bytes
        · rw [heq]
          exact .single hinsert
        · rw [heq]
          exact .tail (.single hinsert)
            (effect_completeCallWithCancel (.cancel (.inr ⟨bytes, _, hstack⟩)))

theorem effects_perform {index : Nat} {functor : ChannelFunctor}
    (hfunctor : s.functors[index]? = some functor) (huser : s.userCode = true) :
    ReflTransGen (Effect F a s₀) s
      ({ s with functors := s.functors.eraseIdx index }.perform functor) := by
  cases functor with
  | registerAndSend id bytes call => exact effects_registerAndSend hfunctor huser
  | completeInvalid number controller coroutine reason => exact .single (.invalid hfunctor huser)
  | cancel id =>
    simp only [perform]
    split
    · exact .single (effect_completeCallWithCancel (.functor hfunctor huser))
    · exact .single (.dequeue hfunctor rfl)
  | resume number => exact .single (.dequeue hfunctor rfl)
  | flush conn => exact .single (.dequeue hfunctor rfl)

theorem connection_assign (s : RpcChannel) (id : UInt64) (token : Int) (call : PendingCall) :
    (s.assign id token call).connection = s.connection ∧
      (s.assign id token call).connectionUp = s.connectionUp := by
  unfold assign registerTimeoutTimer
  split
  · exact ⟨rfl, rfl⟩
  · exact ⟨rfl, rfl⟩

theorem effects_registered {token : Int} {bytes : List UInt8} {stack : List ChannelFrame}
    (hstack : s.stack = .registered id token bytes :: stack) :
    ReflTransGen (Effect F a s₀) s ({ s with stack := stack }.registered id token bytes) := by
  unfold registered
  cases hfind : s.findPending id with
  | none =>
    have hnone : ({ s with stack := stack } : RpcChannel).findPending id = none := hfind
    rw [hnone]
    exact .single (.unregistered hstack hfind)
  | some call =>
    have hsome : ({ s with stack := stack } : RpcChannel).findPending id = some call := hfind
    rw [hsome]
    have hstore : Effect F a s₀ s ({ s with stack := stack }.store id token bytes call) :=
      .store hstack hfind
    have hunwritten : s.connection = none ∨ s.connectionUp = false → Effect F a s₀ s
        (({ s with stack := stack }.store id token bytes call).completeCallWithFailure id
          (octets "RPC connection is not available") .failed) := fun hconnection =>
      effect_completeCallWithFailure (.unwritten hstack hfind hconnection)
    have hassign := connection_assign { s with stack := stack } id token call
    show ReflTransGen (Effect F a s₀) s
      (({ s with stack := stack }.assign id token call).writeRegisteredCall id bytes)
    unfold store at hstore hunwritten
    unfold writeRegisteredCall
    generalize ({ s with stack := stack } : RpcChannel).assign id token call = s₁
      at hstore hunwritten hassign ⊢
    cases hconnection : s₁.connection with
    | none =>
      simp only [hconnection] at hunwritten
      exact .single (hunwritten (.inl (hassign.1.symm.trans hconnection)))
    | some conn =>
      cases hup : s₁.connectionUp with
      | false =>
        simp only [hconnection, hup] at hunwritten
        exact .single (hunwritten (.inr (hassign.2.symm.trans hup)))
      | true =>
        simp only [hconnection, hup] at hstore
        exact .single hstore

theorem stack_sendHeartbeat (F : MetaFormat) (s : RpcChannel) (traceId : UInt64) :
    (s.sendHeartbeat F traceId).stack = s.stack := by
  unfold sendHeartbeat
  dsimp only
  split
  · rfl
  · split <;> rfl

theorem effects_endOfHeartbeat (F : MetaFormat) (s : RpcChannel) (traceId : UInt64)
    (hstack : s.stack = []) :
    ReflTransGen (Effect F a s₀) s (s.onHeartbeatTimer F traceId) := by
  unfold onHeartbeatTimer
  split
  · exact .tail (.single .heartbeatMissed) .scheduleHeartbeat
  · next hstate =>
    simp only [not_or, not_not] at hstate
    split
    · exact .tail (.single .heartbeatMissed) (.forceClose hstack)
    · have hmissed : Effect F a s₀ s { s with heartbeatMissed := s.heartbeatMissed + 1 } :=
        .heartbeatMissed
      have hsend := stack_sendHeartbeat F { s with heartbeatMissed := s.heartbeatMissed + 1 } traceId
      exact .tail (.tail (.single hmissed) (.sendHeartbeat hstate.1))
        (.forceClose (hsend.trans hstack))

theorem effects_timer {timer : Nat} {kind : ChannelTimer} (traceId : UInt64) (hstack : s.stack = [])
    (htimer : s.env.timers.find? (·.1 = timer) = some (timer, kind)) :
    ReflTransGen (Effect F a s) s
      (if s.alive then { s with env := s.env.cancelTimer (some timer) }.fire F traceId kind
        else { s with env := s.env.cancelTimer (some timer) }) := by
  split
  · cases kind with
    | timeout id => exact .single (effect_completeCallWithFailure (.timeout hstack htimer))
    | heartbeat =>
      exact .trans (.single (.timerIgnored hstack htimer (.inl rfl) rfl))
        (effects_endOfHeartbeat F _ traceId hstack)
  · next halive => exact .single (.timerIgnored hstack htimer (.inr (by simpa using halive)) rfl)

theorem effects_resume {accepted : Bool} {index : Nat} {order : List UInt64}
    (ha : a = .resume accepted index order) (hstep : s.resume accepted index order = some s') :
    ReflTransGen (Effect F a s) s s' := by
  unfold resume at hstep
  split at hstep
  · cases hstep
  · next hstack => cases hstep; exact .single (.returned hstack rfl rfl ha)
  · next hstack => cases hstep; exact .single (.returned hstack rfl rfl ha)
  · next hstack => cases hstep; exact .single (.degraded rfl ha hstack)
  · next hstack => cases hstep; exact effects_registered hstack
  · next hstack => cases hstep; exact .single (.returned hstack rfl rfl ha)
  · next hstack => cases hstep; exact .single (.returned hstack rfl rfl ha)
  · next hstack =>
    cases hstep
    dsimp only
    split
    · exact .single (effect_completeCallWithCancel (.startCancel hstack))
    · exact .single (.cancelIgnored hstack)
  · next hstack =>
    cases hstep
    exact .single (effect_completeCallWithFailure (.connection hstack))
  · next hstack =>
    cases hstep
    unfold handleFrame
    split
    · next htype => exact .single (.heartbeatFrame hstack htype)
    · next htype => exact .single (effect_completeCallWithFrame (.frame rfl ha hstack htype))
  · next hstack =>
    split at hstep
    · next horder => cases hstep; exact .single (.endOfFrames hstack horder)
    · cases hstep
  · next hstack =>
    cases hstep
    exact .tail (.single (.returned hstack rfl rfl ha)) .scheduleHeartbeat
  · next hstack =>
    split at hstep
    · next hkeys =>
      cases hstep
      refine .single (.destroyed hstack ?_)
      by_contra hne
      have hlt := Nat.mod_lt index (List.length_pos_iff.mpr hne)
      simp only [List.getElem?_eq_none_iff] at hkeys
      omega
    · cases hstep
      exact effects_failPendingNow hstack _

theorem functors_prepareCall (F : MetaFormat) (s : RpcChannel) (arguments : CallArguments) :
    (s.prepareCall F arguments).2.functors = s.functors := by
  unfold prepareCall
  split
  · dsimp only
    split <;> rfl
  · rfl

/-- What preparing a call leaves alone. -/
theorem prepareCall_state (F : MetaFormat) (s : RpcChannel) (arguments : CallArguments) :
    ∃ n completions, n ∈ [s.nextRequestId, s.nextRequestId + 1] ∧
      (s.prepareCall F arguments).2 = { s with
        begun := s.begun + 1
        nextRequestId := n
        env := { s.env with completions := completions } } := by
  unfold prepareCall
  split
  · dsimp only
    cases arguments.coroutine with
    | false => exact ⟨s.nextRequestId + 1, s.env.completions, by simp, by split <;> rfl⟩
    | true => exact ⟨s.nextRequestId + 1, _, by simp, by split <;> rfl⟩
  · exact ⟨s.nextRequestId, s.env.completions, by simp, rfl⟩

/-- The functor carries the new call. -/
theorem prepareCall_functor (F : MetaFormat) (s : RpcChannel) (arguments : CallArguments) :
    (∃ reason, (s.prepareCall F arguments).1 =
        .completeInvalid s.begun arguments.controller arguments.coroutine reason) ∨
      ∃ bytes call, (s.prepareCall F arguments).1 =
          .registerAndSend (UInt64.ofNat s.nextRequestId) bytes call ∧
        (s.prepareCall F arguments).2.nextRequestId = s.nextRequestId + 1 ∧
        call.number = s.begun ∧ arguments.response = some call.parses ∧
        call.controller = arguments.controller ∧ call.coroutine = arguments.coroutine ∧
        call.timeoutTimer = none ∧ call.cancelToken = -1 ∧ call.call = .pending := by
  unfold prepareCall
  split
  · next hmethod hrequest hresponse =>
    dsimp only
    split
    · exact .inl ⟨_, rfl⟩
    · exact .inr ⟨_, _, rfl, rfl, rfl, hresponse, rfl, rfl, rfl, rfl, rfl⟩
  · exact .inl ⟨_, rfl⟩

/-- The call is prepared before anything else happens, and what then happens is no part of the step
that begins it. -/
theorem effects_beginCall {arguments : CallArguments} {later : Int}
    (hstep : s.step F (.beginCall arguments later) = some s') :
    ReflTransGen (Effect F a s₀)
      { (s.prepareCall F arguments).2 with
        functors := s.functors ++ [(s.prepareCall F arguments).1] } s' := by
  simp only [step, Option.ite_none_right_eq_some, Option.some.injEq, Bool.and_eq_true] at hstep
  obtain ⟨⟨⟨huser, -⟩, -⟩, rfl⟩ := hstep
  set s₁ : RpcChannel := { (s.prepareCall F arguments).2 with
    functors := s.functors ++ [(s.prepareCall F arguments).1]
    env := { (s.prepareCall F arguments).2.env with clock := later } } with hs₁
  have hfunctor : s₁.functors[s.functors.length]? = some (s.prepareCall F arguments).1 := by
    simp [hs₁]
  have herase : ({ s₁ with functors := s₁.functors.eraseIdx s.functors.length } : RpcChannel) =
      { (s.prepareCall F arguments).2 with
        env := { (s.prepareCall F arguments).2.env with clock := later } } := by
    simp [hs₁, List.eraseIdx_append_of_length_le, functors_prepareCall]
  have huser₁ : s₁.userCode = true := by
    obtain ⟨n, completions, -, hstate⟩ := prepareCall_state F s arguments
    rw [hs₁, hstate]
    exact huser
  rw [← herase]
  exact .trans (.single .elapse) (effects_perform hfunctor huser₁)

theorem effect_connectionClosed {conn : Nat} {order : List UInt64} (halive : s.alive = true)
    (horder : order.isPerm s.keys = true) (hnetwork : s.network = true) :
    Effect F (.connectionDown conn order) s₀ s (s.connectionClosed conn order) := by
  have hclosed : ∀ connection up,
      (connection, up) =
        (if s.connection = some conn then (none, false) else (s.connection, s.connectionUp)) →
      Effect F (.connectionDown conn order) s₀ s
        (if s.connectionState = .disconnected then
          { s.cancelHeartbeat with connection := connection, connectionUp := up }
        else
          { s.cancelHeartbeat with
            connection := connection
            connectionUp := up
            connectionState := .connecting
            connectionError := octets "RPC connection closed" }.push (.failEach order)) := by
    intro connection up hconnection
    split
    · next hstate => exact .connectionGone rfl halive hconnection hstate
    · next hstate => exact .connectionDown rfl halive horder hconnection hstate hnetwork
  by_cases hconn : s.connection = some conn
  · have hthis := hclosed none false (by simp [hconn])
    have hcancel : s.cancelHeartbeat.connection = some conn := hconn
    simp only [connectionClosed, hcancel, if_true]
    exact hthis
  · have hthis := hclosed s.connection s.connectionUp (by simp [hconn])
    have hcancel : ¬ s.cancelHeartbeat.connection = some conn := hconn
    simp only [connectionClosed, hcancel, if_false]
    exact hthis

theorem step_effects (hstep : s.step F a = some s') : ReflTransGen (Effect F a s) s s' := by
  cases a with
  | beginCall arguments later =>
    exact .trans (.single (.prepare rfl)) (effects_beginCall hstep)
  | resume accepted index order => exact effects_resume rfl hstep
  | timer id traceId =>
    simp only [step, Option.ite_none_right_eq_some, Option.map_eq_some_iff] at hstep
    obtain ⟨hstack, ⟨timer, kind⟩, htimer, rfl⟩ := hstep
    have htimer' := htimer
    obtain rfl : timer = id := by simpa using List.find?_some htimer'
    exact effects_timer traceId (by simpa using hstack) htimer
  | runFunctor index =>
    simp only [step, Option.ite_none_right_eq_some, Option.map_eq_some_iff] at hstep
    obtain ⟨hstack, functor, hfunctor, rfl⟩ := hstep
    have hempty : s.stack = [] := by simpa using hstack
    exact effects_perform hfunctor (by simp [userCode, hempty])
  | cancelCoroutineCall requestId =>
    simp only [step, Option.ite_none_right_eq_some, Option.some.injEq, Bool.and_eq_true] at hstep
    obtain ⟨⟨huser, -⟩, rfl⟩ := hstep
    split
    · exact .refl
    · exact .single (effect_completeCallWithCancel (.cancel (.inl huser)))
  | remoteCancelCoroutineCall requestId =>
    simp only [step, Option.ite_none_right_eq_some, Option.some.injEq] at hstep
    obtain ⟨-, rfl⟩ := hstep
    split
    · exact .refl
    · exact .single (.post rfl)
  | remoteClosure index =>
    simp only [step, Option.map_eq_some_iff] at hstep
    obtain ⟨id, hid, rfl⟩ := hstep
    exact .single (.remoteClosure hid)
  | remoteBeginCall arguments =>
    simp only [step, Option.ite_none_right_eq_some, Option.some.injEq] at hstep
    obtain ⟨-, rfl⟩ := hstep
    have hfunctors : (s.prepareCall F arguments).2.functors = s.functors :=
      functors_prepareCall F s arguments
    rw [hfunctors]
    exact .single (.prepare rfl)
  | onMessage conn frames error =>
    simp only [step, Option.ite_none_right_eq_some, Option.some.injEq, Bool.and_eq_true,
      List.isEmpty_iff] at hstep
    obtain ⟨⟨hstack, -⟩, rfl⟩ := hstep
    exact .single (.onMessage rfl hstack)
  | connectionUp conn =>
    simp only [step, Option.ite_none_right_eq_some, Option.some.injEq, Bool.and_eq_true] at hstep
    obtain ⟨⟨-, halive⟩, rfl⟩ := hstep
    exact .single (.connectionUp rfl halive)
  | connectionDown conn order =>
    simp only [step, Option.ite_none_right_eq_some, Option.some.injEq, Bool.and_eq_true] at hstep
    obtain ⟨⟨⟨hnetwork, halive⟩, horder⟩, rfl⟩ := hstep
    exact .single (effect_connectionClosed halive horder hnetwork)
  | destroy =>
    simp only [step, Option.ite_none_right_eq_some, Option.some.injEq, Bool.and_eq_true,
      List.isEmpty_iff] at hstep
    obtain ⟨⟨⟨hstack, -⟩, hqueued⟩, rfl⟩ := hstep
    exact .single (.destroy hstack hqueued)
  | elapse now =>
    simp only [step, Option.ite_none_right_eq_some, Option.some.injEq] at hstep
    obtain ⟨-, rfl⟩ := hstep
    exact .single .elapse
  | callMethodWithoutDone controller =>
    simp only [step, Option.ite_none_right_eq_some, Option.some.injEq] at hstep
    obtain ⟨-, rfl⟩ := hstep
    exact .single (.callMethodWithoutDone rfl)
  | startCancel c =>
    simp only [step, Option.ite_none_right_eq_some, Option.some.injEq] at hstep
    obtain ⟨huser, rfl⟩ := hstep
    exact .single (.startCancel rfl huser)
  | setMaxPendingCalls n =>
    simp only [step, Option.ite_none_right_eq_some, Option.some.injEq] at hstep
    obtain ⟨-, rfl⟩ := hstep
    exact .single .setMaxPendingCalls
  | setDegradeHandler installed =>
    simp only [step, Option.ite_none_right_eq_some, Option.some.injEq] at hstep
    obtain ⟨-, rfl⟩ := hstep
    exact .single (.setDegradeHandler rfl)
  | shutdown =>
    simp only [step, Option.ite_none_right_eq_some, Option.some.injEq] at hstep
    obtain ⟨-, rfl⟩ := hstep
    exact .single .shutdown
  | drawRequestId =>
    obtain rfl : _ = s' := Option.some.inj hstep
    exact .single .drawRequestId
  | remoteStartCancel c =>
    obtain rfl : _ = s' := Option.some.inj hstep
    exact .single (.remoteStartCancel rfl)
  | resetController c =>
    obtain rfl : _ = s' := Option.some.inj hstep
    exact .single (.resetController rfl rfl)
  | setTimeout c timeout =>
    obtain rfl : _ = s' := Option.some.inj hstep
    exact .single (.setTimeout rfl)
  | setDeadline c deadline =>
    obtain rfl : _ = s' := Option.some.inj hstep
    exact .single (.setDeadline rfl)
  | setFailed reason =>
    obtain ⟨_, _, _, _, hstack, rfl⟩ := step_setFailed hstep
    exact .single (.setFailed rfl rfl hstack)

theorem invariant_effects {I : RpcChannel → Prop}
    (heffect : ∀ {s s' : RpcChannel}, I s → Effect F a s₀ s s' → I s') (h : I s)
    (heffects : ReflTransGen (Effect F a s₀) s s') : I s' := by
  induction heffects with
  | refl => exact h
  | tail _ hlast ih => exact heffect ih hlast

/-- What every effect keeps holds behind a step. -/
theorem invariant_step {I : RpcChannel → Prop} (h : I s)
    (heffect : ∀ {s₁ s₂ : RpcChannel}, I s₁ → Effect F a s s₁ s₂ → I s₂)
    (hstep : s.step F a = some s') : I s' :=
  invariant_effects heffect h (step_effects hstep)

/-! ## Calls that have been begun -/

/-- Only calls that have been begun are somewhere, and only frames that have been received. -/
structure Known (received : RpcFrame → Prop) (s : RpcChannel) : Prop where
  queued : ∀ f ∈ s.functors, ∀ n ∈ f.number, n < s.begun
  pending : ∀ p ∈ s.pendingCalls, p.2.number < s.begun
  held : ∀ f ∈ s.stack, ∀ n ∈ f.number, n < s.begun
  notified : ∀ n ∈ s.notified, n < s.begun
  frames : ∀ conn frames error, .onMessage conn frames error ∈ s.stack →
    ∀ frame ∈ frames, received frame

section Known

variable {R : RpcFrame → Prop}

/-- Calls and frames are only dropped. -/
theorem Known.of_subset (h : Known R s) (hbegun : s.begun ≤ s'.begun)
    (hfunctors : s'.functors ⊆ s.functors) (hpending : s'.pendingCalls ⊆ s.pendingCalls)
    (hstack : s'.stack ⊆ s.stack) (hnotified : s'.notified ⊆ s.notified) : Known R s' where
  queued f hf n hn := (h.queued f (hfunctors hf) n hn).trans_le hbegun
  pending p hp := (h.pending p (hpending hp)).trans_le hbegun
  held f hf n hn := (h.held f (hstack hf) n hn).trans_le hbegun
  notified n hn := (h.notified n (hnotified hn)).trans_le hbegun
  frames conn frames error hmem := h.frames conn frames error (hstack hmem)

theorem Known.of_eq (h : Known R s) (hbegun : s'.begun = s.begun)
    (hfunctors : s'.functors = s.functors) (hpending : s'.pendingCalls = s.pendingCalls)
    (hstack : s'.stack = s.stack) (hnotified : s'.notified = s.notified) : Known R s' :=
  h.of_subset hbegun.ge (by rw [hfunctors]; exact List.Subset.refl _)
    (by rw [hpending]; exact List.Subset.refl _) (by rw [hstack]; exact List.Subset.refl _)
    (by rw [hnotified]; exact List.Subset.refl _)

theorem Known.dequeue (h : Known R s) (index : Nat) :
    Known R { s with functors := s.functors.eraseIdx index } :=
  h.of_subset (Nat.le_refl _) (List.eraseIdx_sublist _ _).subset (List.Subset.refl _)
    (List.Subset.refl _) (List.Subset.refl _)

theorem Known.post (h : Known R s) {functor : ChannelFunctor}
    (hnumber : ∀ n ∈ functor.number, n < s.begun) :
    Known R { s with functors := s.functors ++ [functor] } := by
  refine ⟨fun f hf => ?_, h.pending, h.held, h.notified, h.frames⟩
  obtain hf | rfl := by simpa using hf
  · exact h.queued f hf
  · exact hnumber

theorem Known.push (h : Known R s) {frame : ChannelFrame} (hnumber : ∀ n ∈ frame.number, n < s.begun)
    (hframes : ∀ conn frames error, frame = .onMessage conn frames error → ∀ x ∈ frames, R x) :
    Known R (s.push frame) := by
  refine ⟨h.queued, h.pending, fun f hf => ?_, h.notified, fun conn frames error hmem => ?_⟩
  · obtain rfl | hf := List.mem_cons.mp hf
    · exact hnumber
    · exact h.held f hf
  · obtain heq | hmem := List.mem_cons.mp hmem
    · exact hframes conn frames error heq.symm
    · exact h.frames conn frames error hmem

theorem Known.pop (h : Known R s) {frame : ChannelFrame} {stack : List ChannelFrame}
    (hstack : s.stack = frame :: stack) : Known R { s with stack := stack } :=
  h.of_subset (Nat.le_refl _) (List.Subset.refl _) (List.Subset.refl _)
    (hstack ▸ List.subset_cons_self _ _) (List.Subset.refl _)

theorem Known.notify (h : Known R s) {number : Nat} (hnumber : number < s.begun)
    (coroutine : Bool) : Known R (s.notifyCompletion number coroutine) := by
  have hnotified : Known R { s with notified := number :: s.notified } := by
    refine ⟨h.queued, h.pending, h.held, fun n hn => ?_, h.frames⟩
    obtain rfl | hn := List.mem_cons.mp hn
    · exact hnumber
    · exact h.notified n hn
  unfold notifyCompletion
  dsimp only
  split
  · exact hnotified.post (by simp [ChannelFunctor.number])
  · exact hnotified.push (by simp [ChannelFrame.number]) (by simp)

/-- A call goes into the map. -/
theorem Known.emplace (h : Known R s) {id : UInt64} {call : PendingCall}
    (hnumber : call.number < s.begun) : Known R (s.emplace id call) := by
  unfold RpcChannel.emplace
  split
  · exact h
  · refine ⟨h.queued, fun p hp => ?_, h.held, h.notified, h.frames⟩
    obtain hp | rfl := by simpa using hp
    · exact h.pending p hp
    · exact hnumber

theorem Known.hook (h : Known R s) (id : UInt64) (bytes : List UInt8) : Known R (s.hook id bytes) := by
  have hpush : ∀ (e : ChannelEnv) token,
      Known R ({ s with env := e }.push (.registered id token bytes)) := by
    intro e token
    apply Known.push _ (by simp [ChannelFrame.number]) (by simp)
    exact h.of_eq rfl rfl rfl rfl rfl
  unfold RpcChannel.hook
  split
  · exact hpush s.env _
  · split
    · exact hpush s.env _
    · exact hpush _ _

theorem Known.modifyPending (h : Known R s) (id : UInt64) {f : PendingCall → PendingCall}
    (hf : ∀ x, (f x).number = x.number) : Known R (s.modifyPending id f) := by
  refine ⟨h.queued, fun p hp => ?_, h.held, h.notified, h.frames⟩
  obtain ⟨q, hq, rfl⟩ := List.mem_map.mp hp
  have hnumber := h.pending q hq
  split
  · rw [hf]
    exact hnumber
  · exact hnumber

theorem Known.store (h : Known R s) (id : UInt64) (token : Int) (bytes : List UInt8)
    (call : PendingCall) : Known R (s.store id token bytes call) := by
  have hassign : Known R (s.assign id token call) := by
    have htoken : Known R (s.modifyPending id ({ · with cancelToken := token })) :=
      h.modifyPending id fun _ => rfl
    unfold assign registerTimeoutTimer
    split
    · apply Known.modifyPending
      · exact htoken.of_eq rfl rfl rfl rfl rfl
      · exact fun _ => rfl
    · exact htoken
  unfold RpcChannel.store
  dsimp only
  split
  · exact hassign.of_eq rfl rfl rfl rfl rfl
  · exact hassign

theorem Known.cause {a : ChannelStep} {id : UInt64} {ending : Ending} (h : Known R s)
    (hcause : Cause a s₀ s s₁ id ending) : Known R s₁ := by
  cases hcause with
  | @frame conn frame frames error stack _ _ _ _ _ hstack htype =>
    have hframes := h.frames conn (frame :: frames) error (by simp [hstack])
    refine Known.push (h.pop hstack) (by simp [ChannelFrame.number]) fun conn frames error heq => ?_
    cases heq
    exact fun x hx => hframes x (List.mem_cons_of_mem _ hx)
  | connection hstack | startCancel hstack =>
    exact Known.push (h.pop hstack) (by simp [ChannelFrame.number]) (by simp)
  | functor hfunctor => exact h.dequeue _
  | timeout => exact h.of_eq rfl rfl rfl rfl rfl
  | closed | cancel => exact h
  | unwritten hstack hfind => exact (h.pop hstack).store _ _ _ _

theorem Known.prepare (h : Known R s) (F : MetaFormat) (x : CallArguments) :
    Known R { (s.prepareCall F x).2 with functors := s.functors ++ [(s.prepareCall F x).1] } := by
  have hgrow : Known R { s with begun := s.begun + 1 } :=
    h.of_subset (Nat.le_succ _) (List.Subset.refl _) (List.Subset.refl _) (List.Subset.refl _)
      (List.Subset.refl _)
  have hpost : ∀ functor : ChannelFunctor, (∀ n ∈ functor.number, n < s.begun + 1) →
      Known R { s with begun := s.begun + 1, functors := s.functors ++ [functor] } :=
    fun _ => hgrow.post
  unfold prepareCall
  split
  · dsimp only
    split
    · exact (hpost _ (by simp [ChannelFunctor.number])).of_eq rfl rfl rfl rfl rfl
    · exact (hpost _ (by simp [ChannelFunctor.number])).of_eq rfl rfl rfl rfl rfl
  · exact (hpost _ (by simp [ChannelFunctor.number])).of_eq rfl rfl rfl rfl rfl

theorem Known.effect {F : MetaFormat} {a : ChannelStep} (h : Known R s)
    (hreceived : ∀ conn frames error, a = .onMessage conn frames error → ∀ frame ∈ frames, R frame)
    (heffect : Effect F a s₀ s s') : Known R s' := by
  have hcall : ∀ {index : Nat} {functor : ChannelFunctor}, s.functors[index]? = some functor →
      ∀ n ∈ functor.number, n < s.begun :=
    fun hfunctor => h.queued _ (List.mem_of_getElem? hfunctor)
  have herase : ∀ {s : RpcChannel} (id : UInt64) (e : ChannelEnv), Known R s →
      Known R { s.erasePending id with env := e } := fun id e h =>
    h.of_subset (Nat.le_refl _) (List.Subset.refl _) (by exact List.filter_subset_self _)
      (List.Subset.refl _) (List.Subset.refl _)
  have hreject : ∀ {index : Nat} {id : UInt64} {bytes : List UInt8} {call : PendingCall}
      (e : ChannelEnv) (count : Nat),
      s.functors[index]? = some (.registerAndSend id bytes call) →
      Known R ({ s with
        functors := s.functors.eraseIdx index
        env := e
        overloadRejectCount := count }.notifyCompletion call.number call.coroutine) := by
    intro index id bytes call e count hfunctor
    apply Known.notify
    · exact (h.dequeue index).of_eq rfl rfl rfl rfl rfl
    · exact hcall hfunctor _ rfl
  cases heffect with
  | finish hcause hfind hpending =>
    have hcause := h.cause hcause
    unfold RpcChannel.finish
    apply Known.notify
    · exact herase _ _ hcause
    · exact hcause.pending _ (find_eq_some hfind)
  | skip hcause hnone => exact h.cause hcause
  | discard hstack hfind hpending => exact herase _ _ h
  | prepare ha => exact h.prepare F _
  | @invalid index number controller coroutine reason hfunctor =>
    unfold completeInvalid
    apply Known.notify
    · exact (h.dequeue index).of_eq rfl rfl rfl rfl rfl
    · exact hcall hfunctor _ rfl
  | unavailable hfunctor hstate => exact hreject _ s.overloadRejectCount hfunctor
  | @overloaded index id bytes call hfunctor hstate hroom =>
    unfold rejectOverloaded
    dsimp only
    split
    · apply Known.push
      · exact (h.dequeue index).of_eq rfl rfl rfl rfl rfl
      · intro n hn
        cases hn
        exact hcall hfunctor _ rfl
      · simp
    · exact hreject _ (s.overloadRejectCount + 1) hfunctor
  | expired hfunctor hstate hroom hdeadline => exact hreject _ s.overloadRejectCount hfunctor
  | insert hfunctor hstate hroom hdeadline =>
    apply Known.hook
    exact (h.dequeue _).emplace (hcall hfunctor _ rfl)
  | store hstack hfind => exact (h.pop hstack).store _ _ _ _
  | @degraded id call reason stack accepted index order hfirst ha hstack =>
    have hnumber := h.held (.degrade id call reason) (by simp [hstack]) _ rfl
    unfold RpcChannel.degraded
    apply Known.notify
    · exact (h.pop hstack).of_eq rfl rfl rfl rfl rfl
    · exact hnumber
  | dequeue hfunctor hnumber => exact h.dequeue _
  | post hnumber => exact h.post (by simp [hnumber])
  | unregistered hstack | returned hstack => exact h.pop hstack
  | destroyed hstack => exact (h.pop hstack).of_eq rfl rfl rfl rfl rfl
  | cancelIgnored hstack =>
    exact Known.push (h.pop hstack) (by simp [ChannelFrame.number]) (by simp)
  | @heartbeatFrame conn frame frames error stack hstack htype =>
    have hframes := h.frames conn (frame :: frames) error (by simp [hstack])
    have hpush : Known R { s with stack := .onMessage conn frames error :: stack } := by
      refine Known.push (h.pop hstack) (by simp [ChannelFrame.number])
        fun conn frames error heq => ?_
      cases heq
      exact fun x hx => hframes x (List.mem_cons_of_mem _ hx)
    exact hpush.of_eq rfl rfl rfl rfl rfl
  | @endOfFrames conn error stack order hstack horder =>
    cases error with
    | none => exact (h.pop hstack).post (by simp [ChannelFunctor.number])
    | some error =>
      apply Known.push _ (by simp [ChannelFrame.number]) (by simp)
      apply Known.push _ (by simp [ChannelFrame.number]) (by simp)
      exact (h.pop hstack).of_eq rfl rfl rfl rfl rfl
  | sendHeartbeat hstate =>
    unfold sendHeartbeat
    dsimp only
    split
    · exact h
    · split <;> exact h.of_eq rfl rfl rfl rfl rfl
  | forceClose hstack => exact h.push (by simp [ChannelFrame.number]) (by simp)
  | startCancel ha =>
    apply Known.push _ (by simp [ChannelFrame.number]) (by simp)
    exact h.of_eq rfl rfl rfl rfl rfl
  | @remoteClosure index id hid =>
    have hpost : Known R { s with functors := s.functors ++ [.cancel id] } :=
      h.post (by simp [ChannelFunctor.number])
    cases halive : s.alive
    · simp only [Bool.false_eq_true, if_false]
      exact h.of_eq rfl rfl rfl rfl rfl
    · simp only [if_true]
      exact hpost.of_eq rfl rfl rfl rfl rfl
  | onMessage ha hstack =>
    refine h.push (by simp [ChannelFrame.number]) fun conn frames error heq => ?_
    cases heq
    exact hreceived _ _ _ ha
  | connectionDown | destroy =>
    apply Known.push _ (by simp [ChannelFrame.number]) (by simp)
    exact h.of_eq rfl rfl rfl rfl rfl
  | timerIgnored | scheduleHeartbeat | heartbeatMissed | elapse | drawRequestId
  | callMethodWithoutDone | remoteStartCancel | resetController | setTimeout | setDeadline | setFailed
  | setMaxPendingCalls | setDegradeHandler | connectionUp | connectionGone | shutdown =>
    exact h.of_eq rfl rfl rfl rfl rfl

end Known

end RpcChannel

end NebulaRpc.Rpc
