import NebulaRpc.Rpc.Bookings

/-!
# The link of a channel

What a channel knows of its connection, its heartbeats and its limit is touched by few steps. Calls
that begin, are completed or are rejected leave it alone.
-/

namespace NebulaRpc.Rpc

structure ChannelLink where
  connection : Option Nat
  connectionUp : Bool
  connectionState : ChannelState
  heartbeatMissed : Nat
  heartbeatTimer : Option Nat
  maxPendingCalls : Nat
  alive : Bool

namespace RpcChannel

variable {F : MetaFormat} {a : ChannelStep} {s s' : RpcChannel}

def link (s : RpcChannel) : ChannelLink where
  connection := s.connection
  connectionUp := s.connectionUp
  connectionState := s.connectionState
  heartbeatMissed := s.heartbeatMissed
  heartbeatTimer := s.heartbeatTimer
  maxPendingCalls := s.maxPendingCalls
  alive := s.alive

/-- The timer of this step is the heartbeat timer, and the channel still exists. -/
def beats (s : RpcChannel) (timer : Nat) : Prop :=
  s.alive = true ∧ s.env.timers.find? (·.1 = timer) = some (timer, .heartbeat)

/-- What a step can do to the link. -/
inductive Relinks (s : RpcChannel) : ChannelStep → ChannelLink → Prop
  | same {a : ChannelStep} : Relinks s a s.link
  | setMaxPendingCalls (n : Nat) :
      Relinks s (.setMaxPendingCalls n) { s.link with maxPendingCalls := n }
  | heartbeatFrame {conn : Nat} {frame : RpcFrame} {frames : List RpcFrame} {error : Option String}
      {stack : List ChannelFrame} {accepted : Bool} {index : Nat} {order : List UInt64}
      (hstack : s.stack = .onMessage conn (frame :: frames) error :: stack)
      (htype : frame.rpcMeta.type = .heartbeat) :
      Relinks s (.resume accepted index order) { s.link with heartbeatMissed := 0 }
  | protocolError {accepted : Bool} {index : Nat} {order : List UInt64} :
      Relinks s (.resume accepted index order) { s.link with connectionState := .disconnected }
  | scheduled {timer : Nat} {accepted : Bool} {index : Nat} {order : List UInt64} :
      Relinks s (.resume accepted index order) { s.link with heartbeatTimer := some timer }
  | connectionUp {timer conn : Nat} :
      Relinks s (.connectionUp conn) { s.link with
        connection := some conn
        connectionUp := true
        connectionState := .connected
        heartbeatMissed := 0
        heartbeatTimer := some timer }
  | connectionDown {conn : Nat} {order : List UInt64} {connection : Option Nat} {up : Bool}
      {state : ChannelState}
      (hconnection : (connection, up) =
        if s.connection = some conn then (none, false) else (s.connection, s.connectionUp))
      (hstate : state ≠ .connected) :
      Relinks s (.connectionDown conn order) { s.link with
        connection := connection
        connectionUp := up
        connectionState := state
        heartbeatTimer := none }
  | shutdown : Relinks s .shutdown { s.link with connectionUp := false }
  /-- there is no connection to probe -/
  | idle {timer next : Nat} {traceId : UInt64} (hbeats : s.beats timer)
      (hidle : s.connectionState ≠ .connected ∨ s.connection = none) :
      Relinks s (.timer timer traceId)
        { s.link with heartbeatMissed := 0, heartbeatTimer := some next }
  | lost {timer conn : Nat} {traceId : UInt64} (hbeats : s.beats timer)
      (hconnected : s.connectionState = .connected) (hconnection : s.connection = some conn)
      (hmissed : kHeartbeatMaxMissed ≤ s.heartbeatMissed) :
      Relinks s (.timer timer traceId) { s.link with heartbeatMissed := 0 }
  | probed {timer conn : Nat} {traceId : UInt64} (hbeats : s.beats timer)
      (hconnected : s.connectionState = .connected) (hconnection : s.connection = some conn)
      (hmissed : s.heartbeatMissed < kHeartbeatMaxMissed) :
      Relinks s (.timer timer traceId) { s.link with heartbeatMissed := s.heartbeatMissed + 1 }
  | destroy :
      Relinks s .destroy { s.link with
        connection := none
        connectionUp := false
        heartbeatTimer := none
        alive := false }

/-! ## Calls leave the link alone -/

theorem link_notifyCompletion (s : RpcChannel) (number : Nat) (coroutine : Bool) :
    (s.notifyCompletion number coroutine).link = s.link := by
  unfold notifyCompletion
  dsimp only
  split <;> rfl

theorem link_of_completes {id : UInt64} (h : Completes s s' id) : s'.link = s.link := by
  obtain rfl | ⟨call, e, -, rfl⟩ := h
  · rfl
  · exact link_notifyCompletion _ _ _

theorem link_completeCallWithFrame (s : RpcChannel) (id : UInt64) (frame : RpcFrame) :
    (s.completeCallWithFrame id frame).link = s.link :=
  link_of_completes (completes_completeCallWithFrame s id frame)

theorem link_completeCallWithFailure (s : RpcChannel) (id : UInt64) (reason : List UInt8)
    (state : RpcCallState) : (s.completeCallWithFailure id reason state).link = s.link :=
  link_of_completes (completes_completeCallWithFailure s id reason state)

theorem link_completeCallWithCancel (s : RpcChannel) (id : UInt64) :
    (s.completeCallWithCancel id).link = s.link :=
  link_of_completes (completes_completeCallWithCancel s id)

theorem link_finish (s : RpcChannel) (id : UInt64) (call : PendingCall) (ending : Ending) :
    (s.finish id call ending).link = s.link :=
  link_notifyCompletion _ _ _

theorem link_failPendingNow (s : RpcChannel) (id : UInt64) (reason : List UInt8) :
    (s.failPendingNow id reason).link = s.link := by
  unfold failPendingNow takePendingCall
  cases s.findPending id with
  | none => rfl
  | some call =>
    dsimp only [Option.map_some]
    split
    · exact link_notifyCompletion _ _ _
    · rfl

theorem link_hook (s : RpcChannel) (id : UInt64) (call : PendingCall) (bytes : List UInt8) :
    ((s.emplace id call).hook id bytes).link = s.link := by
  have hemplace : (s.emplace id call).link = s.link := by
    obtain heq | heq := emplace_cases s id call
    · rw [heq]
    · rw [heq]
      rfl
  rw [← hemplace]
  unfold hook
  split
  · rfl
  · split <;> rfl

theorem link_performed {t : RpcChannel} {functor : ChannelFunctor} (h : Performed t functor s') :
    s'.link = t.link := by
  cases h with
  | unavailable => exact link_notifyCompletion _ _ _
  | overloaded =>
    unfold rejectOverloaded
    dsimp only
    split
    · rfl
    · exact link_notifyCompletion _ _ _
  | expired => exact link_notifyCompletion _ _ _
  | inserted => exact link_hook t _ _ _
  | cancelled => exact (link_finish _ _ _ _).trans (link_hook t _ _ _)
  | invalid => exact link_notifyCompletion _ _ _
  | cancel => exact link_finish t _ _ _
  | quiet => rfl

theorem link_perform (t : RpcChannel) (functor : ChannelFunctor) :
    (t.perform functor).link = t.link :=
  link_performed (performed_perform t functor)

theorem link_prepareCall (F : MetaFormat) (s : RpcChannel) (x : CallArguments) :
    (s.prepareCall F x).2.link = s.link := by
  obtain ⟨n, completions, -, hstate⟩ := prepareCall_state F s x
  rw [hstate]
  rfl

theorem link_registered (s : RpcChannel) (id : UInt64) (token : Int) (bytes : List UInt8) :
    (s.registered id token bytes).link = s.link := by
  have hwrite : ∀ t : RpcChannel, (t.writeRegisteredCall id bytes).link = t.link := by
    intro t
    unfold writeRegisteredCall
    split
    · rfl
    · exact link_completeCallWithFailure _ _ _ _
  unfold registered
  split
  · rfl
  · dsimp only
    rw [hwrite]
    unfold registerTimeoutTimer
    split <;> rfl

theorem link_sendHeartbeat (F : MetaFormat) (s : RpcChannel) (traceId : UInt64) :
    (s.sendHeartbeat F traceId).link = s.link := by
  unfold sendHeartbeat
  dsimp only
  split
  · rfl
  · split <;> rfl

/-! ## Every step -/

theorem Relinks.of_eq {l : ChannelLink} (h : l = s.link) : Relinks s a l := h ▸ .same

theorem relinks_resume {accepted : Bool} {index : Nat} {order : List UInt64}
    (hstep : s.resume accepted index order = some s') :
    Relinks s (.resume accepted index order) s'.link := by
  unfold resume at hstep
  split at hstep
  · cases hstep
  · cases hstep; exact .same
  · cases hstep; exact .same
  · cases hstep; exact .of_eq (link_notifyCompletion _ _ _)
  · cases hstep; exact .of_eq (link_registered _ _ _ _)
  · cases hstep; exact .same
  · cases hstep; exact .same
  · cases hstep
    dsimp only
    split
    · exact .of_eq (link_completeCallWithCancel _ _)
    · exact .same
  · cases hstep
    exact .of_eq (link_completeCallWithFailure _ _ _ _)
  · next hstack =>
    cases hstep
    unfold handleFrame
    split
    · next htype => exact .heartbeatFrame hstack htype
    · exact .of_eq (link_completeCallWithFrame _ _ _)
  · next error _ _ =>
    split at hstep
    · cases hstep
      cases error with
      | none => exact .same
      | some error => exact .protocolError
    · cases hstep
  · cases hstep; exact .scheduled
  · split at hstep
    · cases hstep; exact .same
    · cases hstep; exact .of_eq (link_failPendingNow _ _ _)

theorem relinks_timer {timer : Nat} {kind : ChannelTimer} (traceId : UInt64)
    (htimer : s.env.timers.find? (·.1 = timer) = some (timer, kind)) :
    Relinks s (.timer timer traceId)
      (if s.alive then { s with env := s.env.cancelTimer (some timer) }.fire F traceId kind
        else { s with env := s.env.cancelTimer (some timer) }).link := by
  split
  · next halive =>
    cases kind with
    | timeout id => exact .of_eq (link_completeCallWithFailure _ _ _ _)
    | heartbeat =>
      simp only [fire, onHeartbeatTimer]
      split
      · next hidle => exact .idle ⟨halive, htimer⟩ hidle
      next hconnected =>
      rw [not_or, not_not] at hconnected
      obtain ⟨conn, hconnection⟩ := Option.ne_none_iff_exists'.mp hconnected.2
      split
      · next hmissed => exact .lost ⟨halive, htimer⟩ hconnected.1 hconnection hmissed
      · next hmissed =>
        have hprobed : Relinks s (.timer timer traceId)
            { s.link with heartbeatMissed := s.heartbeatMissed + 1 } :=
          .probed ⟨halive, htimer⟩ hconnected.1 hconnection (Nat.lt_of_not_le hmissed)
        exact (link_sendHeartbeat F { s with
          env := s.env.cancelTimer (some timer), heartbeatMissed := s.heartbeatMissed + 1 }
          traceId).symm ▸ hprobed
  · exact .same

theorem relinks_connectionClosed (s : RpcChannel) (conn : Nat) (order : List UInt64) :
    Relinks s (.connectionDown conn order) (s.connectionClosed conn order).link := by
  have hconnected : ∀ state : ChannelState, state ≠ .connected →
      Relinks s (.connectionDown conn order) { s.link with
        connection := if s.connection = some conn then none else s.connection
        connectionUp := if s.connection = some conn then false else s.connectionUp
        connectionState := state
        heartbeatTimer := none } := by
    intro state hstate
    refine .connectionDown ?_ hstate
    split <;> rfl
  have hlink : (s.connectionClosed conn order).link = { s.link with
      connection := if s.connection = some conn then none else s.connection
      connectionUp := if s.connection = some conn then false else s.connectionUp
      connectionState := if s.connectionState = .disconnected then .disconnected else .connecting
      heartbeatTimer := none } := by
    unfold connectionClosed cancelHeartbeat
    by_cases hconnection : s.connection = some conn
    · by_cases hstate : s.connectionState = .disconnected
      · simp [link, hconnection, hstate]
      · simp [link, hconnection, hstate, push]
    · by_cases hstate : s.connectionState = .disconnected
      · simp [link, hconnection, hstate]
      · simp [link, hconnection, hstate, push]
  rw [hlink]
  apply hconnected
  split <;> simp

theorem step_relinks (hstep : s.step F a = some s') : Relinks s a s'.link := by
  cases a with
  | beginCall x later =>
    obtain ⟨t, hperforms, rfl⟩ := step_performs rfl hstep
    have hprepare := link_prepareCall F s x
    cases hperforms with
    | beginCall =>
      exact .of_eq ((link_perform _ _).trans hprepare)
  | runFunctor index =>
    simp only [step, Option.ite_none_right_eq_some, Option.map_eq_some_iff] at hstep
    obtain ⟨-, functor, -, rfl⟩ := hstep
    exact .of_eq (link_perform _ _)
  | remoteBeginCall x =>
    simp only [step, Option.ite_none_right_eq_some, Option.some.injEq] at hstep
    obtain ⟨-, rfl⟩ := hstep
    exact .of_eq (link_prepareCall F s x)
  | resume accepted index order => exact relinks_resume hstep
  | timer timer traceId =>
    simp only [step, Option.ite_none_right_eq_some, Option.map_eq_some_iff] at hstep
    obtain ⟨-, ⟨timer', kind⟩, htimer, rfl⟩ := hstep
    have htimer' := htimer
    obtain rfl : timer' = timer := by simpa using List.find?_some htimer'
    exact relinks_timer traceId htimer
  | cancelCoroutineCall id =>
    simp only [step, Option.ite_none_right_eq_some, Option.some.injEq] at hstep
    obtain ⟨-, rfl⟩ := hstep
    split
    · exact .same
    · exact .of_eq (link_completeCallWithCancel _ _)
  | remoteCancelCoroutineCall id =>
    simp only [step, Option.ite_none_right_eq_some, Option.some.injEq] at hstep
    obtain ⟨-, rfl⟩ := hstep
    split <;> exact .same
  | remoteClosure index =>
    simp only [step, Option.map_eq_some_iff] at hstep
    obtain ⟨id, -, rfl⟩ := hstep
    exact .same
  | connectionDown conn order =>
    simp only [step, Option.ite_none_right_eq_some, Option.some.injEq] at hstep
    obtain ⟨-, rfl⟩ := hstep
    exact relinks_connectionClosed s conn order
  | connectionUp conn =>
    simp only [step, Option.ite_none_right_eq_some, Option.some.injEq] at hstep
    obtain ⟨-, rfl⟩ := hstep
    exact .connectionUp
  | setMaxPendingCalls n =>
    simp only [step, Option.ite_none_right_eq_some, Option.some.injEq] at hstep
    obtain ⟨-, rfl⟩ := hstep
    exact .setMaxPendingCalls n
  | shutdown =>
    simp only [step, Option.ite_none_right_eq_some, Option.some.injEq] at hstep
    obtain ⟨-, rfl⟩ := hstep
    exact .shutdown
  | destroy =>
    simp only [step, Option.ite_none_right_eq_some, Option.some.injEq] at hstep
    obtain ⟨-, rfl⟩ := hstep
    exact .destroy
  | drawRequestId | remoteStartCancel | resetController | setTimeout | setDeadline =>
    obtain rfl : _ = s' := Option.some.inj hstep
    exact .same
  | setFailed reason =>
    obtain ⟨_, _, _, _, -, rfl⟩ := step_setFailed hstep
    exact .same
  | callMethodWithoutDone | elapse | startCancel | setDegradeHandler | onMessage =>
    simp only [step, Option.ite_none_right_eq_some, Option.some.injEq] at hstep
    obtain ⟨-, rfl⟩ := hstep
    exact .same

end RpcChannel

end NebulaRpc.Rpc
