import NebulaRpc.Net.Output
import NebulaRpc.Net.Postings
import NebulaRpc.Rpc.Bookings
import NebulaRpc.Rpc.Connectivity

/-!
# The channel on its loop

An `RpcChannel` together with its `EventLoop` and its connections. What the channel posts is queued
by the loop and called in its order, what it writes goes into the output buffer of the connection,
and its `Flush` functors flush it. Everything else that the loop thread does with a connection is
left open: any action at any time. A ticket names a functor that the channel has posted.
-/

namespace NebulaRpc.Rpc

open Net

/-- What is posted to the loop. -/
inductive LoopedFunctor where
  | channel (ticket : Nat)
  /-- any other functor; user code may run in it -/
  | other
  deriving DecidableEq

structure LoopedChannel where
  channel : RpcChannel := {}
  loop : EventLoop LoopedFunctor := {}
  /-- the tickets of the functors that the channel has posted and the loop has not called -/
  tickets : List Nat := []
  /-- how many functors the channel has posted -/
  posted : Nat := 0
  connections : Nat → TcpConnection := fun _ => {}

inductive LoopedStep where
  | channel (l : ChannelStep)
  /-- the loop calls the next functor; `send` answers if that flushes a connection -/
  | callNext (send : SendResult)
  | loop (l : EventLoopStep LoopedFunctor)
  | act (conn : Nat) (l : ConnectionAction)

/-- A thread other than the loop thread takes the step. -/
def ChannelStep.remote : ChannelStep → Bool
  | .remoteBeginCall _ | .remoteCancelCoroutineCall _ | .remoteStartCancel _ | .remoteClosure _ => true
  | _ => false

def LoopedStep.remote : LoopedStep → Bool
  | .channel l => l.remote
  | _ => false

/-- Any thread may take the step, and nothing is posted in it. -/
def ChannelStep.anywhere : ChannelStep → Bool
  | .elapse _ | .drawRequestId | .resetController _ | .setTimeout .. | .setDeadline .. => true
  | _ => false

/-- The loop thread calls this handler when it handles events. -/
def ChannelStep.handler : ChannelStep → Bool
  | .onMessage .. | .timer .. => true
  | _ => false

def ChannelStep.runsFunctor : ChannelStep → Bool
  | .runFunctor _ => true
  | _ => false

/-- The loop thread is in `HandleEvent`. -/
def handling : LoopControl → Bool
  | .handling _ => true
  | _ => false

/-- The step of the loop is taken by `Loop` itself, when everything that it has called has
returned. -/
def goesOn : EventLoopStep LoopedFunctor → Bool
  | .queueInLoop _ | .remotePush _ | .remoteWakeUp | .wakeUp | .raiseSignal | .quit => false
  | _ => true

/-- The step neither posts nor calls a functor of the channel. -/
def foreign : EventLoopStep LoopedFunctor → Bool
  | .queueInLoop (.channel _) | .remotePush (.channel _) | .callNext => false
  | _ => true

def LoopedFunctor.ticket : LoopedFunctor → Option Nat
  | .channel ticket => some ticket
  | .other => none

/-! ## What a step of the channel posts -/

def ChannelFunctor.flushed : ChannelFunctor → Option Nat
  | .flush conn => some conn
  | _ => none

/-- The connection that `OnMessage` reads from. -/
def ChannelFrame.reading : ChannelFrame → Option Nat
  | .onMessage conn .. => some conn
  | _ => none

namespace RpcChannel

/-- The runs of `OnMessage` on the stack. -/
def readings (s : RpcChannel) : List Nat := s.stack.filterMap ChannelFrame.reading

/-- Functors have been posted that flush nothing, and `OnMessage` has not been called. -/
structure Extends (s s' : RpcChannel) : Prop where
  functors : ∃ posted, s'.functors = s.functors ++ posted ∧ ∀ f ∈ posted, f.flushed = none
  readings : s'.readings <:+ s.readings

variable {F : MetaFormat} {a : ChannelStep} {s s₁ s' : RpcChannel}

theorem Extends.of_eq (hfunctors : s'.functors = s.functors) (hstack : s'.stack = s.stack) :
    Extends s s' := by
  refine ⟨⟨[], by simp [hfunctors], by simp⟩, ?_⟩
  unfold RpcChannel.readings
  rw [hstack]

theorem Extends.refl (s : RpcChannel) : Extends s s := .of_eq rfl rfl

theorem Extends.trans (h : Extends s s₁) (h' : Extends s₁ s') : Extends s s' := by
  obtain ⟨posted, hposted, hnone⟩ := h.functors
  obtain ⟨posted', hposted', hnone'⟩ := h'.functors
  refine ⟨⟨posted ++ posted', by rw [hposted', hposted, List.append_assoc], ?_⟩,
    h'.readings.trans h.readings⟩
  intro f hf
  exact (List.mem_append.mp hf).elim (hnone f) (hnone' f)

theorem Extends.post (h : Extends s s') {functor : ChannelFunctor} (hfunctor : functor.flushed = none) :
    Extends s { s' with functors := s'.functors ++ [functor] } :=
  h.trans ⟨⟨[functor], rfl, by simpa using hfunctor⟩, List.suffix_rfl⟩

theorem Extends.push (h : Extends s s') {frame : ChannelFrame} (hframe : frame.reading = none) :
    Extends s (s'.push frame) :=
  h.trans ⟨⟨[], by simp [RpcChannel.push], by simp⟩,
    by simp [RpcChannel.readings, RpcChannel.push, hframe]⟩

/-- The frame on top of the stack has been replaced. -/
theorem Extends.replace (frames : List ChannelFrame) {frame : ChannelFrame}
    {stack : List ChannelFrame} (hstack : s.stack = frame :: stack)
    (hframes : frames.filterMap ChannelFrame.reading <:+ frame.reading.toList) :
    Extends s { s with stack := frames ++ stack } := by
  refine ⟨⟨[], by simp, by simp⟩, ?_⟩
  obtain ⟨earlier, hearlier⟩ := hframes
  refine ⟨earlier, ?_⟩
  simp only [RpcChannel.readings, hstack, List.filterMap_append, ← List.append_assoc, hearlier]
  cases h : frame.reading <;> simp [h]

theorem Extends.notifyCompletion (h : Extends s s') (number : Nat) (coroutine : Bool) :
    Extends s (s'.notifyCompletion number coroutine) := by
  unfold RpcChannel.notifyCompletion
  have hnotified : Extends s { s' with notified := number :: s'.notified } :=
    h.trans (.of_eq rfl rfl)
  dsimp only
  split
  · exact hnotified.post rfl
  · exact hnotified.push rfl

theorem extends_of_completes {id : UInt64} (h : Completes s s' id) : Extends s s' := by
  obtain rfl | ⟨call, e, -, rfl⟩ := h
  · exact .refl _
  · apply Extends.notifyCompletion
    exact .of_eq rfl rfl

theorem extends_finish (s : RpcChannel) (id : UInt64) (call : PendingCall) (ending : Ending) :
    Extends s (s.finish id call ending) := by
  apply Extends.notifyCompletion
  exact .of_eq rfl rfl

theorem extends_failPendingNow (s : RpcChannel) (id : UInt64) (reason : List UInt8) :
    Extends s (s.failPendingNow id reason) := by
  unfold failPendingNow takePendingCall
  cases s.findPending id with
  | none => exact .refl s
  | some call =>
    dsimp only [Option.map_some]
    split
    · apply Extends.notifyCompletion
      exact .of_eq rfl rfl
    · exact .of_eq rfl rfl

theorem extends_hook (s : RpcChannel) (id : UInt64) (call : PendingCall) (bytes : List UInt8) :
    Extends s ((s.emplace id call).hook id bytes) := by
  have hemplace : Extends s (s.emplace id call) := by
    obtain heq | heq := emplace_cases s id call
    · rw [heq]
      exact .refl s
    · rw [heq]
      exact .of_eq rfl rfl
  unfold hook
  split
  · exact hemplace.push rfl
  · split
    · exact hemplace.push rfl
    · apply Extends.push _ rfl
      exact hemplace.trans (.of_eq rfl rfl)

theorem extends_reject (s : RpcChannel) (call : PendingCall) (reason : List UInt8)
    (state : RpcCallState) : Extends s (s.reject call reason state) := by
  apply Extends.notifyCompletion
  exact .of_eq rfl rfl

theorem extends_performed {functor : ChannelFunctor} (h : Performed s functor s') :
    Extends s s' := by
  cases h with
  | unavailable => exact extends_reject s _ _ _
  | overloaded =>
    unfold rejectOverloaded
    dsimp only
    split
    · apply Extends.push _ rfl
      exact .of_eq rfl rfl
    · apply Extends.notifyCompletion
      exact .of_eq rfl rfl
  | expired => exact extends_reject s _ _ _
  | inserted => exact extends_hook s _ _ _
  | cancelled => exact (extends_hook s _ _ _).trans (extends_finish _ _ _ _)
  | invalid =>
    apply Extends.notifyCompletion
    exact .of_eq rfl rfl
  | cancel => exact extends_finish s _ _ _
  | quiet => exact .refl s

theorem extends_perform (s : RpcChannel) (functor : ChannelFunctor) :
    Extends s (s.perform functor) :=
  extends_performed (performed_perform s functor)

theorem extends_registered (s : RpcChannel) (id : UInt64) (token : Int) (bytes : List UInt8) :
    Extends s (s.registered id token bytes) := by
  have hwrite : ∀ t : RpcChannel, Extends t (t.writeRegisteredCall id bytes) := by
    intro t
    unfold writeRegisteredCall
    split
    · exact .of_eq rfl rfl
    · exact extends_of_completes (completes_completeCallWithFailure _ _ _ _)
  unfold registered
  split
  · exact .refl s
  · apply Extends.trans _ (hwrite _)
    unfold registerTimeoutTimer
    split <;> exact .of_eq rfl rfl

theorem extends_connectionClosed (s : RpcChannel) (conn : Nat) (order : List UInt64) :
    Extends s (s.connectionClosed conn order) := by
  unfold connectionClosed
  dsimp only
  split <;> split
  · exact .of_eq rfl rfl
  · apply Extends.push _ rfl
    exact .of_eq rfl rfl
  · exact .of_eq rfl rfl
  · apply Extends.push _ rfl
    exact .of_eq rfl rfl

theorem extends_onHeartbeatTimer (F : MetaFormat) (s : RpcChannel) (traceId : UInt64) :
    Extends s (s.onHeartbeatTimer F traceId) := by
  have hsend : ∀ t : RpcChannel, Extends t (t.sendHeartbeat F traceId) := by
    intro t
    unfold sendHeartbeat
    dsimp only
    split
    · exact .refl t
    · split <;> exact .of_eq rfl rfl
  unfold onHeartbeatTimer
  split
  · exact .of_eq rfl rfl
  split
  · apply Extends.push _ rfl
    exact .of_eq rfl rfl
  · apply Extends.push _ rfl
    apply Extends.trans _ (hsend _)
    exact .of_eq rfl rfl

theorem prepareCall_queue (F : MetaFormat) (s : RpcChannel) (x : CallArguments) :
    Extends s (s.prepareCall F x).2 ∧ (s.prepareCall F x).1.flushed = none := by
  refine ⟨?_, ?_⟩
  · obtain ⟨n, completions, -, hstate⟩ := prepareCall_state F s x
    rw [hstate]
    exact .of_eq rfl rfl
  · unfold prepareCall
    dsimp only
    split
    · split <;> rfl
    · rfl

/-- `OnMessage` is about to find that the buffer holds no further frame. -/
def endsReading (s : RpcChannel) : ChannelStep → Bool
  | .resume .. =>
    match s.stack with
    | .onMessage _ [] none :: _ => true
    | _ => false
  | _ => false

/-- `OnMessage` returns: `Flush` is posted. -/
def EndsReading (s : RpcChannel) (conn : Nat) (s' : RpcChannel) : Prop :=
  ∃ stack, s.stack = .onMessage conn [] none :: stack ∧
    s' = { s with stack := stack, functors := s.functors ++ [.flush conn] }

theorem extends_resume {accepted : Bool} {index : Nat} {order : List UInt64}
    (hstep : s.resume accepted index order = some s') :
    s.endsReading (.resume accepted index order) = false ∧ Extends s s' ∨
      s.endsReading (.resume accepted index order) = true ∧ ∃ conn, EndsReading s conn s' := by
  unfold resume at hstep
  split at hstep
  · cases hstep
  · next hstack =>
    cases hstep
    exact .inl ⟨by simp [endsReading, hstack], .replace [] hstack (by simp)⟩
  · next hstack =>
    cases hstep
    exact .inl ⟨by simp [endsReading, hstack], .replace [] hstack (by simp)⟩
  · next hstack =>
    cases hstep
    refine .inl ⟨by simp [endsReading, hstack], ?_⟩
    apply Extends.notifyCompletion
    exact (Extends.replace [] hstack (by simp)).trans (.of_eq rfl rfl)
  · next hstack =>
    cases hstep
    exact .inl ⟨by simp [endsReading, hstack],
      (Extends.replace [] hstack (by simp)).trans (extends_registered _ _ _ _)⟩
  · next hstack =>
    cases hstep
    exact .inl ⟨by simp [endsReading, hstack], .replace [] hstack (by simp)⟩
  · next hstack =>
    cases hstep
    exact .inl ⟨by simp [endsReading, hstack], .replace [] hstack (by simp)⟩
  · next id ids stack hstack =>
    cases hstep
    have hreplaced : Extends s { s with stack := .startCancel ids :: stack } :=
      .replace [.startCancel ids] hstack (by simp [ChannelFrame.reading])
    refine .inl ⟨by simp [endsReading, hstack], ?_⟩
    split
    · exact hreplaced.trans (extends_of_completes (completes_completeCallWithCancel _ _))
    · exact hreplaced
  · next id ids stack hstack =>
    cases hstep
    have hreplaced : Extends s { s with stack := .failEach ids :: stack } :=
      .replace [.failEach ids] hstack (by simp [ChannelFrame.reading])
    exact .inl ⟨by simp [endsReading, hstack],
      hreplaced.trans (extends_of_completes (completes_completeCallWithFailure _ _ _ _))⟩
  · next conn frame frames error stack hstack =>
    cases hstep
    have hreplaced : Extends s { s with stack := .onMessage conn frames error :: stack } :=
      .replace [.onMessage conn frames error] hstack (by simp [ChannelFrame.reading])
    refine .inl ⟨by simp [endsReading, hstack], ?_⟩
    unfold handleFrame
    split
    · exact hreplaced.trans (.of_eq rfl rfl)
    · exact hreplaced.trans (extends_of_completes (completes_completeCallWithFrame _ _ _))
  · next conn error stack hstack =>
    split at hstep
    · cases hstep
      cases error with
      | none => exact .inr ⟨by simp [endsReading, hstack], conn, stack, hstack, rfl⟩
      | some error =>
        refine .inl ⟨by simp [endsReading, hstack], ?_⟩
        apply Extends.push _ rfl
        apply Extends.push _ rfl
        exact (Extends.replace [] hstack (by simp)).trans (.of_eq rfl rfl)
    · cases hstep
  · next hstack =>
    cases hstep
    exact .inl ⟨by simp [endsReading, hstack],
      (Extends.replace [] hstack (by simp)).trans (.of_eq rfl rfl)⟩
  · next hstack =>
    refine .inl ⟨by simp [endsReading, hstack], ?_⟩
    split at hstep
    · cases hstep
      exact (Extends.replace [] hstack (by simp)).trans (.of_eq rfl rfl)
    · cases hstep
      exact extends_failPendingNow _ _ _

theorem extends_other (hstep : s.step F a = some s') (ha : a.runsFunctor = false)
    (hmessage : ∀ conn frames error, a ≠ .onMessage conn frames error)
    (hresume : ∀ accepted index order, a ≠ .resume accepted index order) : Extends s s' := by
  cases a with
  | runFunctor index => cases ha
  | onMessage => exact absurd rfl (hmessage _ _ _)
  | resume => exact absurd rfl (hresume _ _ _)
  | beginCall x later =>
    simp only [step, Option.ite_none_right_eq_some, Option.some.injEq] at hstep
    obtain ⟨-, rfl⟩ := hstep
    apply Extends.trans _ (extends_perform _ _)
    exact (prepareCall_queue F s x).1.trans (.of_eq rfl rfl)
  | remoteBeginCall x =>
    simp only [step, Option.ite_none_right_eq_some, Option.some.injEq] at hstep
    obtain ⟨-, rfl⟩ := hstep
    exact (prepareCall_queue F s x).1.post (prepareCall_queue F s x).2
  | timer timer traceId =>
    simp only [step, Option.ite_none_right_eq_some, Option.map_eq_some_iff] at hstep
    obtain ⟨-, ⟨timer', kind⟩, -, rfl⟩ := hstep
    have hcancelled : Extends s { s with env := s.env.cancelTimer (some timer) } := .of_eq rfl rfl
    dsimp only
    split
    · cases kind with
      | timeout id =>
        exact hcancelled.trans (extends_of_completes (completes_completeCallWithFailure _ _ _ _))
      | heartbeat => exact hcancelled.trans (extends_onHeartbeatTimer F _ _)
    · exact hcancelled
  | cancelCoroutineCall id =>
    simp only [step, Option.ite_none_right_eq_some, Option.some.injEq] at hstep
    obtain ⟨-, rfl⟩ := hstep
    split
    · exact .refl s
    · exact extends_of_completes (completes_completeCallWithCancel _ _)
  | remoteCancelCoroutineCall id =>
    simp only [step, Option.ite_none_right_eq_some, Option.some.injEq] at hstep
    obtain ⟨-, rfl⟩ := hstep
    split
    · exact .refl s
    · exact (Extends.refl s).post rfl
  | remoteClosure index =>
    simp only [step, Option.map_eq_some_iff] at hstep
    obtain ⟨id, -, rfl⟩ := hstep
    have herased : Extends s { s with cancelling := s.cancelling.eraseIdx index } := .of_eq rfl rfl
    split
    · exact herased.post rfl
    · exact herased
  | startCancel c =>
    simp only [step, Option.ite_none_right_eq_some, Option.some.injEq] at hstep
    obtain ⟨-, rfl⟩ := hstep
    apply Extends.push _ rfl
    exact .of_eq rfl rfl
  | connectionDown conn order =>
    simp only [step, Option.ite_none_right_eq_some, Option.some.injEq] at hstep
    obtain ⟨-, rfl⟩ := hstep
    exact extends_connectionClosed s conn order
  | destroy =>
    simp only [step, Option.ite_none_right_eq_some, Option.some.injEq] at hstep
    obtain ⟨-, rfl⟩ := hstep
    apply Extends.push _ rfl
    exact .of_eq rfl rfl
  | drawRequestId | remoteStartCancel | resetController | setTimeout | setDeadline =>
    obtain rfl : _ = s' := Option.some.inj hstep
    exact .of_eq rfl rfl
  | setFailed reason =>
    obtain ⟨_, _, _, _, -, rfl⟩ := step_setFailed hstep
    exact .of_eq rfl rfl
  | callMethodWithoutDone | elapse | setDegradeHandler | setMaxPendingCalls | connectionUp
  | shutdown =>
    simp only [step, Option.ite_none_right_eq_some, Option.some.injEq] at hstep
    obtain ⟨-, rfl⟩ := hstep
    exact .of_eq rfl rfl

/-- A step that runs no functor posts more, and only the end of `OnMessage` posts a `Flush`. -/
theorem extends_step (hstep : s.step F a = some s') (ha : a.runsFunctor = false) :
    (∃ conn frames error, a = .onMessage conn frames error ∧ s.stack = [] ∧
        s' = s.push (.onMessage conn frames error)) ∨
      (∀ conn frames error, a ≠ .onMessage conn frames error) ∧
        (s.endsReading a = true ∧ (∃ conn, EndsReading s conn s') ∨
          s.endsReading a = false ∧ Extends s s') := by
  cases a with
  | onMessage conn frames error =>
    simp only [step, Option.ite_none_right_eq_some, Option.some.injEq] at hstep
    obtain ⟨hstack, rfl⟩ := hstep
    refine .inl ⟨conn, frames, error, rfl, ?_, rfl⟩
    simpa using (Bool.and_eq_true_iff.mp hstack).1
  | resume accepted index order => exact .inr ⟨by simp, (extends_resume hstep).symm⟩
  | _ =>
    refine .inr ⟨by simp, .inr ⟨rfl, ?_⟩⟩
    apply extends_other hstep ha <;> simp

theorem extends_runFunctor {index : Nat} (hstep : s.step F (.runFunctor index) = some s') :
    Extends { s with functors := s.functors.eraseIdx index } s' ∧ s.stack = [] := by
  simp only [step, Option.ite_none_right_eq_some, Option.map_eq_some_iff] at hstep
  obtain ⟨hstack, functor, -, rfl⟩ := hstep
  exact ⟨extends_perform _ _, by simpa using hstack⟩

end RpcChannel

/-! ## What is called in this round -/

section Soon

variable {α : Type*} {loop loop' : EventLoop α} {functor : α}

/-- The functor is called before the batch of this round ends. -/
def Soon (loop : EventLoop α) (functor : α) : Prop :=
  loop.control.collects = true ∧ functor ∈ loop.localPending ∨ functor ∈ loop.localBatch

theorem Soon.mem (h : Soon loop functor) : functor ∈ loop.localWaiting := by
  obtain ⟨-, hmem⟩ | hmem := h
  · exact List.mem_append_right _ hmem
  · exact List.mem_append_left _ hmem

theorem Soon.control (h : Soon loop functor) : loop.control.collects = true ∨
    loop.control = .swapping ∨ ∃ n, loop.control = .executing n := by
  obtain ⟨hcollects, -⟩ | hmem := h
  · exact .inl hcollects
  · unfold EventLoop.localBatch at hmem
    split at hmem
    · next hc => exact .inr (.inl hc)
    · next n hc => exact .inr (.inr ⟨n, hc⟩)
    · cases hmem

theorem soon_swapLocal (h : Soon loop functor) (hcollects : loop.control.collects = true) :
    Soon loop.swapLocal functor := by
  obtain ⟨-, hmem⟩ | hmem := h
  · exact .inr hmem
  · unfold EventLoop.localBatch at hmem
    split at hmem
    · next hc => simp [hc, LoopControl.collects] at hcollects
    · next n hc => simp [hc, LoopControl.collects] at hcollects
    · cases hmem

theorem Soon.same (h : Soon loop functor) (hcontrol : loop'.control = loop.control)
    (hexecuting : loop'.localExecuting = loop.localExecuting)
    (hpending : ∀ f ∈ loop.localPending, f ∈ loop'.localPending) : Soon loop' functor := by
  obtain ⟨hcollects, hmem⟩ | hmem := h
  · exact .inl ⟨hcontrol ▸ hcollects, hpending _ hmem⟩
  · apply Or.inr
    simpa [EventLoop.localBatch, hcontrol, hexecuting] using hmem

theorem Soon.step (h : Soon loop functor) {l : EventLoopStep α} (hstep : loop.step l = some loop') :
    Soon loop' functor ∨ l = .callNext ∧ loop'.called = loop.called ++ [functor] := by
  cases l with
  | queueInLoop f =>
    simp only [EventLoop.step, Option.ite_none_right_eq_some] at hstep
    obtain ⟨-, hstep⟩ := hstep
    cases hstep
    apply Or.inl
    unfold EventLoop.queueInLoop
    dsimp only
    split <;> exact h.same rfl rfl fun _ hf => List.mem_append_left _ hf
  | remotePush | wakeUp | raiseSignal | quit =>
    cases hstep
    exact .inl (h.same rfl rfl fun _ hf => hf)
  | remoteWakeUp =>
    simp only [EventLoop.step, Option.ite_none_right_eq_some] at hstep
    obtain ⟨-, hstep⟩ := hstep
    cases hstep
    exact .inl (h.same rfl rfl fun _ hf => hf)
  | handleWakeUpRead =>
    simp only [EventLoop.step, Option.ite_none_right_eq_some] at hstep
    obtain ⟨hc, hstep⟩ := hstep
    cases hstep
    obtain ⟨-, hmem⟩ | hmem := h
    · exact .inl (.inl ⟨rfl, hmem⟩)
    · simp [EventLoop.localBatch, hc] at hmem
  | eventsHandled =>
    simp only [EventLoop.step, Option.ite_none_right_eq_some] at hstep
    obtain ⟨hc, hstep⟩ := hstep
    cases hstep
    have hsignal : Soon { loop with signalPending := false } functor := h.same rfl rfl fun _ hf => hf
    apply Or.inl
    split
    · obtain ⟨-, hmem⟩ | hmem := h
      · exact .inl ⟨rfl, hmem⟩
      · simp [EventLoop.localBatch, hc] at hmem
    · exact soon_swapLocal hsignal (by simp [hc, LoopControl.collects])
  | signalReturns =>
    simp only [EventLoop.step, Option.ite_none_right_eq_some] at hstep
    obtain ⟨hc, hstep⟩ := hstep
    cases hstep
    exact .inl (soon_swapLocal h (by simp [hc, LoopControl.collects]))
  | swapRemote =>
    simp only [EventLoop.step, Option.ite_none_right_eq_some] at hstep
    obtain ⟨hc, hstep⟩ := hstep
    cases hstep
    obtain ⟨hcollects, -⟩ | hmem := h
    · simp [hc, LoopControl.collects] at hcollects
    · exact .inl (.inr (by simpa [EventLoop.localBatch, hc] using hmem))
  | callNext =>
    simp only [EventLoop.step] at hstep
    split at hstep
    · next n hc =>
      obtain ⟨f, hget, rfl⟩ := Option.map_eq_some_iff.mp hstep
      obtain ⟨hcollects, -⟩ | hmem := h
      · simp [hc, LoopControl.collects] at hcollects
      · simp only [EventLoop.localBatch, hc] at hmem
        have hlt : n < loop.localExecuting.length := by
          by_contra hge
          simp [List.drop_eq_nil_of_le (Nat.le_of_not_lt hge)] at hmem
        rw [List.getElem?_append_left hlt] at hget
        rw [List.drop_eq_getElem?_toList_append, hget] at hmem
        obtain rfl | hmem := List.mem_cons.mp hmem
        · exact .inr ⟨rfl, rfl⟩
        · exact .inl (.inr hmem)
    · cases hstep
  | finish =>
    simp only [EventLoop.step, Option.ite_none_right_eq_some] at hstep
    obtain ⟨hc, hstep⟩ := hstep
    obtain ⟨hcollects, -⟩ | hmem := h
    · simp [hc, LoopControl.collects] at hcollects
    · simp [EventLoop.localBatch, hc, List.drop_eq_nil_of_le] at hmem
  | loop | test | poll | cleared =>
    simp only [EventLoop.step, Option.ite_none_right_eq_some] at hstep
    obtain ⟨hc, -⟩ := hstep
    obtain hcollects | hswapping | ⟨n, hexecuting⟩ := h.control <;>
      simp_all [LoopControl.collects]

end Soon

namespace LoopedChannel

/-- `QueueInLoop` on the loop thread or on another one. -/
def queue (remote : Bool) (loop : EventLoop LoopedFunctor) (functor : LoopedFunctor) :
    EventLoop LoopedFunctor :=
  if remote then
    { loop with remotePending := loop.remotePending ++ [functor], waking := loop.waking + 1 }
  else loop.queueInLoop functor

def queueAll (remote : Bool) (loop : EventLoop LoopedFunctor) (tickets : List Nat) :
    EventLoop LoopedFunctor :=
  tickets.foldl (fun loop ticket => queue remote loop (.channel ticket)) loop

/-- What the channel has written goes to its connections. -/
def writeAll (connections : Nat → TcpConnection) (writes : List (Nat × List UInt8)) :
    Nat → TcpConnection :=
  writes.foldl (fun connections w =>
    Function.update connections w.1 ((connections w.1).write w.2)) connections

/-- The channel has come to the state `c`; it had posted `known` functors before. -/
def handOver (s : LoopedChannel) (remote : Bool) (known : Nat) (c : RpcChannel) : LoopedChannel :=
  let fresh := List.range' s.posted (c.functors.length - known)
  { s with
    channel := c
    loop := queueAll remote s.loop fresh
    tickets := s.tickets ++ fresh
    posted := s.posted + (c.functors.length - known)
    connections := writeAll s.connections
      (c.env.written.drop s.channel.env.written.length) }

/-- The thread that takes this step of the channel may run it. -/
def admits (s : LoopedChannel) (l : ChannelStep) : Bool :=
  !l.runsFunctor && (l.remote || l.anywhere ||
    if l.handler then handling s.loop.control else s.loop.control.userCode)

/-- A connection that comes up is a new one. -/
def fresh (s : LoopedChannel) : ChannelStep → Bool
  | .connectionUp conn => (s.connections conn).state = .connecting
  | _ => true

def established (s : LoopedChannel) : ChannelStep → LoopedChannel
  | .connectionUp conn =>
    { s with connections := Function.update s.connections conn (s.connections conn).connectEstablished }
  | _ => s

/-- A functor of the channel that has been called runs. -/
def runFunctor (F : MetaFormat) (s : LoopedChannel) (ticket : Nat) (send : SendResult) :
    Option LoopedChannel :=
  let index := s.tickets.idxOf ticket
  (s.channel.functors[index]?).bind fun functor =>
    (s.channel.step F (.runFunctor index)).map fun c =>
      let s := { s with tickets := s.tickets.eraseIdx index }.handOver false
        (s.channel.functors.length - 1) c
      match functor with
      | .flush conn => { s with
          connections := Function.update s.connections conn ((s.connections conn).flush send) }
      | _ => s

def step (F : MetaFormat) (s : LoopedChannel) : LoopedStep → Option LoopedChannel
  | .channel l =>
    if s.admits l && s.fresh l then
      (s.channel.step F l).map fun c => (s.established l).handOver l.remote s.channel.functors.length c
    else none
  | .callNext send =>
    if s.channel.stack.isEmpty then
      (s.loop.step .callNext).bind fun loop =>
        match loop.called.getLast? with
        | some (.channel ticket) => { s with loop := loop }.runFunctor F ticket send
        | _ => some { s with loop := loop }
    else none
  | .loop l =>
    if foreign l && (!goesOn l || s.channel.stack.isEmpty) then
      (s.loop.step l).map fun loop => { s with loop := loop }
    else none
  | .act conn l =>
    if s.loop.control.userCode then
      some { s with connections := Function.update s.connections conn ((s.connections conn).act l) }
    else none

/-- The functor of the channel that `callNext` has called. -/
def calling (s s' : LoopedChannel) : Option (Nat × ChannelFunctor) :=
  match s'.loop.called.getLast? with
  | some (.channel ticket) =>
    (s.channel.functors[s.tickets.idxOf ticket]?).map fun functor => (ticket, functor)
  | _ => none

def run (F : MetaFormat) (s : LoopedChannel) (steps : List LoopedStep) : Option LoopedChannel :=
  Transition.run (step F) s steps

def start (nextRequestId : Nat) (e : ChannelEnv) (signalCallback : Bool) : LoopedChannel :=
  { channel := { nextRequestId := nextRequestId, env := e }
    loop := EventLoop.start signalCallback }

/-! ## Tickets in the queues of the loop -/

/-- The functors of the channel that the loop thread has posted and not yet called. -/
def localTickets (loop : EventLoop LoopedFunctor) : List Nat :=
  loop.localWaiting.filterMap LoopedFunctor.ticket

/-- The same for other threads. -/
def remoteTickets (loop : EventLoop LoopedFunctor) : List Nat :=
  loop.remoteWaiting.filterMap LoopedFunctor.ticket

/-- This functor of the channel has this ticket. -/
def Filed (s : LoopedChannel) (ticket : Nat) (functor : ChannelFunctor) : Prop :=
  ∃ i : Nat, s.tickets[i]? = some ticket ∧ s.channel.functors[i]? = some functor

/-- The tickets are given in order, and what has one waits in a queue. -/
structure Ticketed (s : LoopedChannel) : Prop where
  batched : s.loop.Batched
  length : s.tickets.length = s.channel.functors.length
  nodup : s.tickets.Nodup
  perm : s.tickets.Perm (localTickets s.loop ++ remoteTickets s.loop)
  lt : ∀ t ∈ s.tickets, t < s.posted
  order : (localTickets s.loop).Pairwise (· < ·)

variable {F : MetaFormat} {s s' : LoopedChannel} {remote : Bool} {loop : EventLoop LoopedFunctor}
  {c : RpcChannel} {t : Nat} {functor : ChannelFunctor}

theorem Ticketed.start (nextRequestId : Nat) (e : ChannelEnv) (signalCallback : Bool) :
    Ticketed (start nextRequestId e signalCallback) := by
  refine ⟨.start signalCallback, rfl, List.nodup_nil, ?_, ?_, ?_⟩ <;>
    simp [LoopedChannel.start, EventLoop.start, localTickets, remoteTickets, EventLoop.localWaiting,
      EventLoop.remoteWaiting, EventLoop.localBatch, EventLoop.remoteBatch]

theorem queue_local (loop : EventLoop LoopedFunctor) (functor : LoopedFunctor) :
    (queue false loop functor).localWaiting = loop.localWaiting ++ [functor] ∧
      (queue false loop functor).remoteWaiting = loop.remoteWaiting := by
  simp only [queue, Bool.false_eq_true, if_false, EventLoop.queueInLoop]
  split <;>
    simp [EventLoop.wakeUp, EventLoop.localWaiting, EventLoop.localBatch, EventLoop.remoteWaiting,
      EventLoop.remoteBatch]

theorem queue_remote (loop : EventLoop LoopedFunctor) (functor : LoopedFunctor) :
    (queue true loop functor).localWaiting = loop.localWaiting ∧
      (queue true loop functor).remoteWaiting = loop.remoteWaiting ++ [functor] := by
  simp [queue, EventLoop.localWaiting, EventLoop.localBatch, EventLoop.remoteWaiting,
    EventLoop.remoteBatch]

@[simp]
theorem control_queue (loop : EventLoop LoopedFunctor) (functor : LoopedFunctor) :
    (queue remote loop functor).control = loop.control := by
  unfold queue EventLoop.queueInLoop
  split
  · rfl
  · dsimp only
    split <;> rfl

@[simp]
theorem called_queue (loop : EventLoop LoopedFunctor) (functor : LoopedFunctor) :
    (queue remote loop functor).called = loop.called := by
  unfold queue EventLoop.queueInLoop
  split
  · rfl
  · dsimp only
    split <;> rfl

/-- A post is a step of the loop. -/
theorem step_queue (hcontrol : remote = true ∨ loop.control.userCode = true)
    (functor : LoopedFunctor) :
    loop.step (if remote then .remotePush functor else .queueInLoop functor) =
      some (queue remote loop functor) := by
  cases remote with
  | true => rfl
  | false =>
    have huser : loop.control.userCode = true := by simpa using hcontrol
    simp [EventLoop.step, queue, huser]

theorem control_queueAll (loop : EventLoop LoopedFunctor) (fresh : List Nat) :
    (queueAll remote loop fresh).control = loop.control := by
  induction fresh generalizing loop with
  | nil => rfl
  | cons t fresh ih => exact (ih _).trans (control_queue _ _)

theorem called_queueAll (loop : EventLoop LoopedFunctor) (fresh : List Nat) :
    (queueAll remote loop fresh).called = loop.called := by
  induction fresh generalizing loop with
  | nil => rfl
  | cons t fresh ih => exact (ih _).trans (called_queue _ _)

theorem batched_queueAll (hcontrol : remote = true ∨ loop.control.userCode = true)
    (h : loop.Batched) (fresh : List Nat) : (queueAll remote loop fresh).Batched := by
  induction fresh generalizing loop with
  | nil => exact h
  | cons t fresh ih =>
    apply ih
    · rw [control_queue]
      exact hcontrol
    · exact (h.step (step_queue hcontrol (.channel t))).1

theorem tickets_queueAll (remote : Bool) (loop : EventLoop LoopedFunctor) (fresh : List Nat) :
    localTickets (queueAll remote loop fresh) =
        localTickets loop ++ (if remote then [] else fresh) ∧
      remoteTickets (queueAll remote loop fresh) =
        remoteTickets loop ++ (if remote then fresh else []) := by
  induction fresh generalizing loop with
  | nil => simp [queueAll]
  | cons t fresh ih =>
    obtain ⟨hlocal, hremote⟩ := ih (queue remote loop (.channel t))
    rw [queueAll, List.foldl_cons, ← queueAll, hlocal, hremote]
    cases remote with
    | true => simp [localTickets, remoteTickets, queue_remote, LoopedFunctor.ticket]
    | false => simp [localTickets, remoteTickets, queue_local, LoopedFunctor.ticket]

theorem Ticketed.lt_local (h : Ticketed s) (ht : t ∈ localTickets s.loop) : t < s.posted :=
  h.lt t (h.perm.mem_iff.mpr (List.mem_append_left _ ht))

theorem Ticketed.connections (h : Ticketed s) (connections : Nat → TcpConnection) :
    Ticketed { s with connections := connections } :=
  ⟨h.batched, h.length, h.nodup, h.perm, h.lt, h.order⟩

/-- The channel has posted more functors. -/
theorem Ticketed.handOver {c₀ : RpcChannel} (h : Ticketed { s with channel := c₀ })
    {posted : List ChannelFunctor}
    (hcontrol : posted = [] ∨ remote = true ∨ s.loop.control.userCode = true)
    (hfunctors : c.functors = c₀.functors ++ posted) :
    Ticketed (s.handOver remote c₀.functors.length c) := by
  have hcount : c.functors.length - c₀.functors.length = posted.length := by simp [hfunctors]
  have hfresh : ∀ t ∈ List.range' s.posted posted.length, s.posted ≤ t ∧ t < s.posted + posted.length := by
    intro t ht
    simpa using ht
  obtain ⟨hlocal, hremote⟩ := tickets_queueAll remote s.loop (List.range' s.posted posted.length)
  refine ⟨?_, ?_, ?_, ?_, ?_, ?_⟩
  · simp only [LoopedChannel.handOver, hcount]
    obtain rfl | hcontrol := hcontrol
    · exact h.batched
    · exact batched_queueAll hcontrol h.batched _
  · simp only [LoopedChannel.handOver, List.length_append, List.length_range', hfunctors]
    have := h.length
    simp_all
  · simp only [LoopedChannel.handOver, hcount]
    refine h.nodup.append List.nodup_range' fun t ht ht' => ?_
    have hlt := h.lt t ht
    have hle := (hfresh t ht').1
    exact absurd hlt (Nat.not_lt.mpr hle)
  · simp only [LoopedChannel.handOver, hcount, hlocal, hremote]
    have hperm := h.perm.append_right (List.range' s.posted posted.length)
    apply hperm.trans
    cases remote with
    | true => simp
    | false =>
      simp only [Bool.false_eq_true, if_false, List.append_nil, List.append_assoc]
      exact List.perm_append_comm.append_left _
  · simp only [LoopedChannel.handOver, hcount]
    intro t ht
    obtain ht | ht := List.mem_append.mp ht
    · have hlt := h.lt t ht
      simp only at hlt
      omega
    · exact (hfresh t ht).2
  · simp only [LoopedChannel.handOver, hcount, hlocal]
    cases remote with
    | true => simpa using h.order
    | false =>
      simp only [Bool.false_eq_true, if_false]
      refine List.pairwise_append.mpr ⟨h.order, List.pairwise_lt_range', fun t ht t' ht' => ?_⟩
      exact lt_of_lt_of_le (h.lt_local ht) (hfresh t' ht').1

/-- The functor that the loop calls stands in front of one of the queues. -/
theorem called_cases (h : s.loop.Batched) (hstep : s.loop.step .callNext = some loop) :
    loop.Batched ∧ ∃ f, loop.called = s.loop.called ++ [f] ∧
      (s.loop.localWaiting = f :: loop.localWaiting ∧ loop.remoteWaiting = s.loop.remoteWaiting ∨
        loop.localWaiting = s.loop.localWaiting ∧
          s.loop.remoteWaiting = f :: loop.remoteWaiting) := by
  obtain ⟨hbatched, hmoved⟩ := h.step hstep
  have hne : loop.called ≠ s.loop.called := by
    simp only [EventLoop.step] at hstep
    split at hstep
    · obtain ⟨functor, -, rfl⟩ := Option.map_eq_some_iff.mp hstep
      simp
    · cases hstep
  cases hmoved with
  | @calledLocal functor hlocal hremote hcalled =>
    exact ⟨hbatched, functor, hcalled, .inl ⟨hlocal, hremote⟩⟩
  | @calledRemote functor hlocal hremote hcalled =>
    exact ⟨hbatched, functor, hcalled, .inr ⟨hlocal, hremote⟩⟩
  | other hl hlocal hremote hcalled => exact absurd hcalled hne

theorem called_ticket (h : s.loop.Batched) (hstep : s.loop.step .callNext = some loop)
    (hticket : loop.called.getLast? = some (.channel t)) :
    localTickets s.loop = t :: localTickets loop ∧ remoteTickets loop = remoteTickets s.loop ∨
      localTickets loop = localTickets s.loop ∧ remoteTickets s.loop = t :: remoteTickets loop := by
  obtain ⟨-, f, hcalled, hcases⟩ := called_cases h hstep
  obtain rfl : f = .channel t := by simpa [hcalled] using hticket
  unfold localTickets remoteTickets
  obtain ⟨hlocal, hremote⟩ | ⟨hlocal, hremote⟩ := hcases
  · exact .inl ⟨by rw [hlocal]; rfl, by rw [hremote]⟩
  · exact .inr ⟨by rw [hlocal], by rw [hremote]; rfl⟩

/-- A functor that is not of the channel has no ticket. -/
theorem called_other (h : s.loop.Batched) (hstep : s.loop.step .callNext = some loop)
    (hnone : ∀ ticket, loop.called.getLast? ≠ some (.channel ticket)) :
    localTickets loop = localTickets s.loop ∧ remoteTickets loop = remoteTickets s.loop := by
  obtain ⟨-, f, hcalled, hcases⟩ := called_cases h hstep
  have hf : f.ticket = none := by
    cases f with
    | channel ticket => exact absurd (by simp [hcalled]) (hnone ticket)
    | other => rfl
  unfold localTickets remoteTickets
  obtain ⟨hlocal, hremote⟩ | ⟨hlocal, hremote⟩ := hcases <;> simp [hlocal, hremote, hf]

/-- The loop has taken a functor of the channel from its queue. -/
theorem Ticketed.dequeue (h : Ticketed s) (hstep : s.loop.step .callNext = some loop)
    (hticket : loop.called.getLast? = some (.channel t)) :
    Ticketed { s with
      loop := loop
      tickets := s.tickets.eraseIdx (s.tickets.idxOf t)
      channel := { s.channel with
        functors := s.channel.functors.eraseIdx (s.tickets.idxOf t) } } := by
  have hbatched := (called_cases h.batched hstep).1
  have hcases := called_ticket h.batched hstep hticket
  have hperm : s.tickets.Perm (t :: (localTickets loop ++ remoteTickets loop)) := by
    apply h.perm.trans
    obtain ⟨hlocal, hremote⟩ | ⟨hlocal, hremote⟩ := hcases
    · rw [hlocal, hremote]
      rfl
    · rw [hlocal, hremote]
      exact List.perm_middle
  have hmem : t ∈ s.tickets := hperm.mem_iff.mpr List.mem_cons_self
  refine ⟨hbatched, ?_, h.nodup.eraseIdx _, ?_, fun t' ht' => ?_, ?_⟩
  · have hlt := List.idxOf_lt_length_of_mem hmem
    have hlt' : s.tickets.idxOf t < s.channel.functors.length := h.length ▸ hlt
    simp only
    rw [List.length_eraseIdx_of_lt hlt, List.length_eraseIdx_of_lt hlt', h.length]
  · rw [List.eraseIdx_idxOf_eq_erase]
    simpa using hperm.erase t
  · exact h.lt t' ((List.eraseIdx_sublist _ _).mem ht')
  · obtain ⟨hlocal, -⟩ | ⟨hlocal, -⟩ := hcases
    · have horder := h.order
      rw [hlocal] at horder
      exact (List.pairwise_cons.mp horder).2
    · simpa [hlocal] using h.order

/-- The loop goes on, or something else is posted. -/
theorem tickets_foreign (h : s.loop.Batched) {l : EventLoopStep LoopedFunctor}
    (hl : foreign l = true) (hstep : s.loop.step l = some loop) : loop.Batched ∧
      localTickets loop = localTickets s.loop ∧ remoteTickets loop = remoteTickets s.loop ∧
        loop.called = s.loop.called := by
  obtain ⟨hbatched, hmoved⟩ := h.step hstep
  refine ⟨hbatched, ?_⟩
  unfold localTickets remoteTickets
  cases hmoved with
  | @posted functor hlocal hremote hcalled | @pushed functor hlocal hremote hcalled =>
    cases functor with
    | channel ticket => cases hl
    | other => simp [hlocal, hremote, hcalled, LoopedFunctor.ticket]
  | calledLocal | calledRemote => cases hl
  | other _ hlocal hremote hcalled => rw [hlocal, hremote, hcalled]; exact ⟨rfl, rfl, rfl⟩

theorem Ticketed.goesOn (h : Ticketed s) {l : EventLoopStep LoopedFunctor} (hl : foreign l = true)
    (hstep : s.loop.step l = some loop) : Ticketed { s with loop := loop } := by
  obtain ⟨hbatched, hlocal, hremote, -⟩ := tickets_foreign h.batched hl hstep
  refine ⟨hbatched, h.length, h.nodup, ?_, h.lt, ?_⟩
  · simpa [hlocal, hremote] using h.perm
  · simpa [hlocal] using h.order

/-! ## What a step does to the queues -/

/-- Tickets are only added, and those of the loop thread go when their functor is called. -/
structure Advances (s s' : LoopedChannel) (remote : Bool) : Prop where
  posted : s.posted ≤ s'.posted
  locals : ∀ t ∈ localTickets s'.loop,
    t ∈ localTickets s.loop ∨ s.posted ≤ t ∧ t < s'.posted ∧ remote = false
  remotes : ∀ t ∈ remoteTickets s'.loop,
    t ∈ remoteTickets s.loop ∨ s.posted ≤ t ∧ t < s'.posted ∧ remote = true
  fresh : ∀ t, s.posted ≤ t → t < s'.posted → remote = false → t ∈ localTickets s'.loop
  kept : ∀ t ∈ localTickets s.loop, t ∈ localTickets s'.loop ∨ .channel t ∈ s'.loop.called
  called : ∀ f ∈ s.loop.called, f ∈ s'.loop.called

theorem Filed.get (h : s.Filed t functor) (hnodup : s.tickets.Nodup) :
    s.channel.functors[s.tickets.idxOf t]? = some functor := by
  obtain ⟨i, hticket, hfunctor⟩ := h
  obtain ⟨hlt, rfl⟩ := List.getElem?_eq_some_iff.mp hticket
  rw [hnodup.idxOf_getElem]
  exact hfunctor

theorem Filed.handOver {c₀ : RpcChannel} (h : Filed { s with channel := c₀ } t functor)
    {posted : List ChannelFunctor} (hfunctors : c.functors = c₀.functors ++ posted)
    (remote : Bool) (known : Nat) : Filed (s.handOver remote known c) t functor := by
  obtain ⟨i, hticket, hfunctor⟩ := h
  have hlt := (List.getElem?_eq_some_iff.mp hticket).1
  have hlt' := (List.getElem?_eq_some_iff.mp hfunctor).1
  refine ⟨i, ?_, ?_⟩
  · simp only [LoopedChannel.handOver]
    rw [List.getElem?_append_left hlt]
    exact hticket
  · simp only [LoopedChannel.handOver, hfunctors]
    rw [List.getElem?_append_left hlt']
    exact hfunctor

theorem Filed.dequeue (h : s.Filed t functor) {i : Nat} (hi : s.tickets[i]? ≠ some t)
    (loop : EventLoop LoopedFunctor) :
    Filed { s with
      loop := loop
      tickets := s.tickets.eraseIdx i
      channel := { s.channel with functors := s.channel.functors.eraseIdx i } } t functor := by
  obtain ⟨j, hticket, hfunctor⟩ := h
  obtain hlt | rfl | hgt := Nat.lt_trichotomy j i
  · refine ⟨j, ?_, ?_⟩ <;> simpa [List.getElem?_eraseIdx, hlt]
  · exact absurd hticket hi
  · obtain ⟨j, rfl⟩ := Nat.exists_eq_add_one_of_ne_zero (Nat.ne_zero_of_lt hgt)
    have hle : ¬j < i := by omega
    refine ⟨j, ?_, ?_⟩ <;> simpa [List.getElem?_eraseIdx, hle]

theorem soon_queueAll {loop : EventLoop LoopedFunctor} {f : LoopedFunctor} (h : Soon loop f)
    (remote : Bool) (fresh : List Nat) : Soon (queueAll remote loop fresh) f := by
  induction fresh generalizing loop with
  | nil => exact h
  | cons t fresh ih =>
    apply ih
    unfold queue EventLoop.queueInLoop
    split
    · exact h.same rfl rfl fun _ hf => hf
    · dsimp only
      split <;> exact h.same rfl rfl fun _ hf => List.mem_append_left _ hf

/-- What is posted before the functors are collected is called in this round. -/
theorem soon_queue {loop : EventLoop LoopedFunctor} (hcollects : loop.control.collects = true)
    (f : LoopedFunctor) : Soon (queue false loop f) f := by
  refine .inl ⟨?_, ?_⟩
  · rwa [control_queue]
  · simp only [queue, Bool.false_eq_true, if_false, EventLoop.queueInLoop]
    split <;> simp [EventLoop.wakeUp]

theorem advances_handOver (s : LoopedChannel) (remote : Bool) (known : Nat) (c : RpcChannel) :
    Advances s (s.handOver remote known c) remote := by
  obtain ⟨hlocal, hremote⟩ := tickets_queueAll remote s.loop
    (List.range' s.posted (c.functors.length - known))
  refine ⟨?_, ?_, ?_, ?_, ?_, ?_⟩ <;> simp only [LoopedChannel.handOver]
  · omega
  · intro t ht
    rw [hlocal, List.mem_append] at ht
    cases remote <;> simp_all
  · intro t ht
    rw [hremote, List.mem_append] at ht
    cases remote <;> simp_all
  · rintro t hle hlt rfl
    simp [hlocal, hle, hlt]
  · intro t ht
    rw [hlocal]
    exact .inl (List.mem_append_left _ ht)
  · intro f hf
    rwa [called_queueAll]

/-! ## Every step -/

theorem functors_step {l : ChannelStep} (hstep : s.channel.step F l = some c)
    (hruns : l.runsFunctor = false) : ∃ posted, c.functors = s.channel.functors ++ posted := by
  obtain ⟨conn, frames, error, -, -, rfl⟩ | ⟨-, ⟨-, conn, stack, -, rfl⟩ | ⟨-, hextends⟩⟩ :=
    RpcChannel.extends_step hstep hruns
  · exact ⟨[], (List.append_nil _).symm⟩
  · exact ⟨[.flush conn], rfl⟩
  · obtain ⟨posted, hposted, -⟩ := hextends.functors
    exact ⟨posted, hposted⟩

theorem functors_anywhere {l : ChannelStep} (hl : l.anywhere = true)
    (hstep : s.channel.step F l = some c) : c.functors = s.channel.functors := by
  cases l with
  | elapse now =>
    simp only [RpcChannel.step, Option.ite_none_right_eq_some, Option.some.injEq] at hstep
    obtain ⟨-, rfl⟩ := hstep
    rfl
  | drawRequestId | resetController | setTimeout | setDeadline =>
    obtain rfl : _ = c := Option.some.inj hstep
    rfl
  | _ => cases hl

theorem channel_spec {l : ChannelStep} (hstep : s.step F (.channel l) = some s') :
    l.runsFunctor = false ∧ s.fresh l = true ∧
      (l.anywhere = true ∨ l.remote = true ∨ s.loop.control.userCode = true) ∧
      (l.handler = true → handling s.loop.control = true) ∧
      ∃ c, s.channel.step F l = some c ∧
        s' = (s.established l).handOver l.remote s.channel.functors.length c := by
  simp only [LoopedChannel.step, Option.ite_none_right_eq_some, Bool.and_eq_true, admits,
    Bool.not_eq_true', Bool.or_eq_true] at hstep
  obtain ⟨⟨⟨hruns, hthread⟩, hfresh⟩, hstep⟩ := hstep
  obtain ⟨c, hc, rfl⟩ := Option.map_eq_some_iff.mp hstep
  refine ⟨hruns, hfresh, ?_, fun hhandler => ?_, c, hc, rfl⟩
  · obtain (hremote | hanywhere) | hcontrol := hthread
    · exact .inr (.inl hremote)
    · exact .inl hanywhere
    · refine .inr (.inr ?_)
      split at hcontrol
      · unfold handling at hcontrol
        split at hcontrol
        · next hc => simp [hc, LoopControl.userCode]
        · cases hcontrol
      · exact hcontrol
  · cases l <;> simp_all [ChannelStep.handler, ChannelStep.remote, ChannelStep.anywhere]

/-- The loop has taken the functor with this ticket from a queue. -/
def dequeued (s : LoopedChannel) (loop : EventLoop LoopedFunctor) (ticket : Nat) : LoopedChannel :=
  { s with
    loop := loop
    tickets := s.tickets.eraseIdx (s.tickets.idxOf ticket)
    channel := { s.channel with functors := s.channel.functors.eraseIdx (s.tickets.idxOf ticket) } }

/-- The connections behind a functor that may be a `Flush`. -/
def flushedBy (functor : ChannelFunctor) (send : SendResult) (connections : Nat → TcpConnection) :
    Nat → TcpConnection :=
  match functor with
  | .flush conn => Function.update connections conn ((connections conn).flush send)
  | _ => connections

theorem callNext_spec {send : SendResult} (hstep : s.step F (.callNext send) = some s') :
    s.channel.stack = [] ∧ ∃ loop, s.loop.step .callNext = some loop ∧
      ((∃ ticket functor c, loop.called.getLast? = some (.channel ticket) ∧
          s.channel.functors[s.tickets.idxOf ticket]? = some functor ∧
          RpcChannel.Extends (s.dequeued loop ticket).channel c ∧
          s' = { (s.dequeued loop ticket).handOver false
              (s.dequeued loop ticket).channel.functors.length c with
            connections := flushedBy functor send ((s.dequeued loop ticket).handOver false
              (s.dequeued loop ticket).channel.functors.length c).connections }) ∨
        (∀ ticket, loop.called.getLast? ≠ some (.channel ticket)) ∧ s' = { s with loop := loop }) := by
  simp only [LoopedChannel.step, Option.ite_none_right_eq_some] at hstep
  obtain ⟨hstack, hstep⟩ := hstep
  obtain ⟨loop, hloop, hstep⟩ := Option.bind_eq_some_iff.mp hstep
  refine ⟨by simpa using hstack, loop, hloop, ?_⟩
  split at hstep
  · next ticket hticket =>
    obtain ⟨functor, hfunctor, hstep⟩ := Option.bind_eq_some_iff.mp hstep
    obtain ⟨c, hc, rfl⟩ := Option.map_eq_some_iff.mp hstep
    have hlt := (List.getElem?_eq_some_iff.mp hfunctor).1
    have hlength : (s.dequeued loop ticket).channel.functors.length =
        s.channel.functors.length - 1 := List.length_eraseIdx_of_lt hlt
    refine .inl ⟨ticket, functor, c, hticket, hfunctor, (RpcChannel.extends_runFunctor hc).1, ?_⟩
    rw [hlength]
    cases functor <;> rfl
  · next hnone =>
    cases hstep
    exact .inr ⟨hnone, rfl⟩

theorem loop_spec {l : EventLoopStep LoopedFunctor} (hstep : s.step F (.loop l) = some s') :
    foreign l = true ∧ (goesOn l = true → s.channel.stack = []) ∧
      ∃ loop, s.loop.step l = some loop ∧ s' = { s with loop := loop } := by
  simp only [LoopedChannel.step, Option.ite_none_right_eq_some, Bool.and_eq_true, Bool.or_eq_true,
    Bool.not_eq_true', List.isEmpty_iff] at hstep
  obtain ⟨⟨hforeign, hthread⟩, hstep⟩ := hstep
  obtain ⟨loop, hloop, rfl⟩ := Option.map_eq_some_iff.mp hstep
  refine ⟨hforeign, fun hgoes => ?_, loop, hloop, rfl⟩
  simpa [hgoes] using hthread

theorem Ticketed.step (h : Ticketed s) {l : LoopedStep} (hstep : s.step F l = some s') :
    Ticketed s' := by
  cases l with
  | channel l =>
    obtain ⟨hruns, -, hthread, -, c, hc, rfl⟩ := channel_spec hstep
    have hbase : Ticketed (s.established l) := by
      unfold established
      split
      · exact h.connections _
      · exact h
    have hchannel : (s.established l).channel = s.channel ∧ (s.established l).loop = s.loop := by
      unfold established
      split <;> exact ⟨rfl, rfl⟩
    obtain ⟨posted, hposted⟩ := functors_step hc hruns
    have hcontrol : posted = [] ∨ l.remote = true ∨
        (s.established l).loop.control.userCode = true := by
      rw [hchannel.2]
      refine hthread.imp_left fun hanywhere => ?_
      have hsame := functors_anywhere hanywhere hc
      simpa [hsame] using hposted
    rw [← hchannel.1] at hposted ⊢
    exact Ticketed.handOver hbase hcontrol hposted
  | callNext send =>
    obtain ⟨-, loop, hloop, ⟨ticket, functor, c, hticket, -, hextends, rfl⟩ | ⟨hnone, rfl⟩⟩ :=
      callNext_spec hstep
    · obtain ⟨posted, hposted, -⟩ := hextends.functors
      have hbase : Ticketed (s.dequeued loop ticket) := h.dequeue hloop hticket
      have hcontrol : loop.control.userCode = true := by
        simp only [EventLoop.step] at hloop
        split at hloop
        · obtain ⟨f, -, rfl⟩ := Option.map_eq_some_iff.mp hloop
          rfl
        · cases hloop
      apply Ticketed.connections
      exact Ticketed.handOver hbase (.inr (.inr hcontrol)) hposted
    · obtain ⟨hlocal, hremote⟩ := called_other h.batched hloop hnone
      refine ⟨(called_cases h.batched hloop).1, h.length, h.nodup, ?_, h.lt, ?_⟩
      · simpa [hlocal, hremote] using h.perm
      · simpa [hlocal] using h.order
  | loop l =>
    obtain ⟨hforeign, -, loop, hloop, rfl⟩ := loop_spec hstep
    exact h.goesOn hforeign hloop
  | act conn l =>
    simp only [LoopedChannel.step, Option.ite_none_right_eq_some] at hstep
    obtain ⟨-, hstep⟩ := hstep
    cases hstep
    exact h.connections _

theorem established_same (s : LoopedChannel) (l : ChannelStep) :
    (s.established l).channel = s.channel ∧ (s.established l).loop = s.loop ∧
      (s.established l).tickets = s.tickets ∧ (s.established l).posted = s.posted := by
  unfold established
  split <;> exact ⟨rfl, rfl, rfl, rfl⟩

theorem Advances.refl (s : LoopedChannel) (remote : Bool) : Advances s s remote :=
  ⟨le_rfl, fun _ h => .inl h, fun _ h => .inl h, fun _ hle hlt => absurd hlt (Nat.not_lt.mpr hle),
    fun _ h => .inl h, fun _ h => h⟩

/-- The same queues and tickets. -/
theorem Advances.congr (h : Advances s s' remote) {s₁ s₁' : LoopedChannel}
    (hloop : localTickets s₁.loop = localTickets s.loop ∧
      remoteTickets s₁.loop = remoteTickets s.loop ∧ s₁.loop.called = s.loop.called ∧
        s₁.posted = s.posted)
    (hloop' : localTickets s₁'.loop = localTickets s'.loop ∧
      remoteTickets s₁'.loop = remoteTickets s'.loop ∧ s₁'.loop.called = s'.loop.called ∧
        s₁'.posted = s'.posted) : Advances s₁ s₁' remote := by
  obtain ⟨hlocals, hremotes, hcalled, hposted⟩ := hloop
  obtain ⟨hlocals', hremotes', hcalled', hposted'⟩ := hloop'
  refine ⟨?_, ?_, ?_, ?_, ?_, ?_⟩
  · rw [hposted, hposted']; exact h.posted
  · rw [hlocals, hlocals', hposted, hposted']; exact h.locals
  · rw [hremotes, hremotes', hposted, hposted']; exact h.remotes
  · rw [hlocals', hposted, hposted']; exact h.fresh
  · rw [hlocals, hlocals', hcalled']; exact h.kept
  · rw [hcalled, hcalled']; exact h.called

theorem advances_dequeued (h : Ticketed s) (hstep : s.loop.step .callNext = some loop)
    (hticket : loop.called.getLast? = some (.channel t)) :
    Advances s (s.dequeued loop t) false := by
  obtain ⟨-, f, hcalled, -⟩ := called_cases h.batched hstep
  obtain rfl : f = .channel t := by simpa [hcalled] using hticket
  refine ⟨le_rfl, fun t' ht' => .inl ?_, fun t' ht' => .inl ?_,
    fun t' hle hlt => absurd hlt (Nat.not_lt.mpr hle), fun t' ht' => ?_, fun f hf => ?_⟩
  · obtain ⟨hlocal, -⟩ | ⟨hlocal, -⟩ := called_ticket h.batched hstep hticket
    · exact hlocal ▸ List.mem_cons_of_mem _ ht'
    · exact hlocal ▸ ht'
  · obtain ⟨-, hremote⟩ | ⟨-, hremote⟩ := called_ticket h.batched hstep hticket
    · exact hremote ▸ ht'
    · exact hremote ▸ List.mem_cons_of_mem _ ht'
  · obtain ⟨hlocal, -⟩ | ⟨hlocal, -⟩ := called_ticket h.batched hstep hticket
    · rw [hlocal] at ht'
      obtain rfl | ht' := List.mem_cons.mp ht'
      · exact .inr (by simp [dequeued, hcalled])
      · exact .inl ht'
    · exact .inl (show t' ∈ localTickets loop from hlocal ▸ ht')
  · simp [dequeued, hcalled, hf]

/-- What the channel posts comes behind what the loop has called. -/
theorem Advances.trans (h : Advances s s₁ false) (hposted : s₁.posted = s.posted)
    (h' : Advances s₁ s' false) : Advances s s' false := by
  refine ⟨hposted ▸ h'.posted, fun t ht => ?_, fun t ht => ?_, ?_, fun t ht => ?_,
    fun f hf => h'.called f (h.called f hf)⟩
  · obtain ht | ht := h'.locals t ht
    · obtain ht | ⟨hle, hlt, -⟩ := h.locals t ht
      · exact .inl ht
      · exact absurd hlt (by omega)
    · exact .inr (hposted ▸ ht)
  · obtain ht | ⟨-, -, hfalse⟩ := h'.remotes t ht
    · obtain ht | ⟨hle, hlt, -⟩ := h.remotes t ht
      · exact .inl ht
      · exact absurd hlt (by omega)
    · cases hfalse
  · rw [← hposted]
    exact h'.fresh
  · obtain ht | hcalled := h.kept t ht
    · exact h'.kept t ht
    · exact .inr (h'.called _ hcalled)

theorem advances_step (h : Ticketed s) {l : LoopedStep} (hstep : s.step F l = some s') :
    Advances s s' (LoopedStep.remote l) := by
  cases l with
  | channel l =>
    obtain ⟨-, -, -, -, c, -, rfl⟩ := channel_spec hstep
    obtain ⟨-, hloop, -, hposted⟩ := established_same s l
    apply (advances_handOver (s.established l) l.remote s.channel.functors.length c).congr
    · rw [hloop, hposted]
      exact ⟨rfl, rfl, rfl, rfl⟩
    · exact ⟨rfl, rfl, rfl, rfl⟩
  | callNext send =>
    obtain ⟨-, loop, hloop, ⟨ticket, functor, c, hticket, -, -, rfl⟩ | ⟨hnone, rfl⟩⟩ :=
      callNext_spec hstep
    · apply (advances_dequeued h hloop hticket).trans rfl
      apply (advances_handOver (s.dequeued loop ticket) false
        (s.dequeued loop ticket).channel.functors.length c).congr <;> exact ⟨rfl, rfl, rfl, rfl⟩
    · obtain ⟨hlocal, hremote⟩ := called_other h.batched hloop hnone
      obtain ⟨-, f, hcalled, -⟩ := called_cases h.batched hloop
      refine ⟨le_rfl, fun t ht => .inl (hlocal ▸ ht), fun t ht => .inl (hremote ▸ ht),
        fun t hle hlt => absurd hlt (Nat.not_lt.mpr hle), fun t ht => .inl (hlocal ▸ ht),
        fun f hf => ?_⟩
      simp [hcalled, hf]
  | loop l =>
    obtain ⟨hforeign, -, loop, hloop, rfl⟩ := loop_spec hstep
    obtain ⟨-, hlocal, hremote, hcalled⟩ := tickets_foreign h.batched hforeign hloop
    apply (Advances.refl s false).congr
    · exact ⟨rfl, rfl, rfl, rfl⟩
    · exact ⟨hlocal, hremote, hcalled, rfl⟩
  | act conn l =>
    simp only [LoopedChannel.step, Option.ite_none_right_eq_some] at hstep
    obtain ⟨-, hstep⟩ := hstep
    cases hstep
    apply (Advances.refl s false).congr <;> exact ⟨rfl, rfl, rfl, rfl⟩

theorem local_ticket_of_soon (h : Soon loop (.channel t)) : t ∈ localTickets loop :=
  List.mem_filterMap.mpr ⟨.channel t, h.mem, rfl⟩

/-- A functor that is due in this round stays so until it is called. -/
theorem soon_step (h : Ticketed s) {l : LoopedStep} (hstep : s.step F l = some s')
    (hsoon : Soon s.loop (.channel t)) (hfiled : s.Filed t functor) :
    Soon s'.loop (.channel t) ∧ s'.Filed t functor ∨
      (∃ send, l = .callNext send) ∧ s.calling s' = some (t, functor) ∧
        ∀ t' ∈ localTickets s'.loop, t < t' := by
  cases l with
  | channel l =>
    obtain ⟨hruns, -, -, -, c, hc, rfl⟩ := channel_spec hstep
    obtain ⟨hchannel, hloop, htickets, -⟩ := established_same s l
    obtain ⟨posted, hposted⟩ := functors_step hc hruns
    refine .inl ⟨?_, ?_⟩
    · apply soon_queueAll
      rwa [hloop]
    · have hbase : (s.established l).Filed t functor := by
        unfold Filed
        rwa [hchannel, htickets]
      rw [← hchannel] at hposted
      exact hbase.handOver hposted _ _
  | callNext send =>
    obtain ⟨-, loop, hloop, ⟨ticket, functor', c, hticket, hget, hextends, rfl⟩ | ⟨hnone, rfl⟩⟩ :=
      callNext_spec hstep
    · obtain ⟨posted, hposted, -⟩ := hextends.functors
      have hdequeued : Ticketed (s.dequeued loop ticket) := h.dequeue hloop hticket
      obtain hsoon' | ⟨-, hcalled⟩ := hsoon.step hloop
      · have hne : t ≠ ticket := by
          have hmem := hdequeued.perm.mem_iff.mpr (List.mem_append_left _ (local_ticket_of_soon hsoon'))
          simp only [dequeued, List.eraseIdx_idxOf_eq_erase] at hmem
          exact (h.nodup.mem_erase_iff.mp hmem).1
        have hi : s.tickets[s.tickets.idxOf ticket]? ≠ some t := by
          have hlt := h.length ▸ (List.getElem?_eq_some_iff.mp hget).1
          rw [List.getElem?_eq_getElem hlt, List.getElem_idxOf]
          simpa using hne.symm
        refine .inl ⟨soon_queueAll hsoon' _ _, ?_⟩
        exact (hfiled.dequeue hi loop).handOver hposted false _
      · obtain rfl : t = ticket := by simpa [hcalled] using hticket
        refine .inr ⟨⟨send, rfl⟩, ?_, fun t' ht' => ?_⟩
        · have hlast : (queueAll false loop (List.range' s.posted
              (c.functors.length - (s.dequeued loop t).channel.functors.length))).called.getLast? =
                some (.channel t) := by
            rw [called_queueAll, hticket]
          simp only [calling, LoopedChannel.handOver, dequeued] at hlast ⊢
          rw [hlast]
          simp [hfiled.get h.nodup]
        · have hlocal := (advances_handOver (s.dequeued loop t) false
            (s.dequeued loop t).channel.functors.length c).locals t' ht'
          obtain hlocal | ⟨hle, -, -⟩ := hlocal
          · obtain ⟨hhead, -⟩ | ⟨-, hhead⟩ := called_ticket h.batched hloop hticket
            · have horder := h.order
              rw [hhead] at horder
              exact (List.pairwise_cons.mp horder).1 t' hlocal
            · -- it is in the queue of the loop thread
              have hnodup := h.perm.nodup_iff.mp h.nodup
              rw [hhead] at hnodup
              exact absurd (local_ticket_of_soon hsoon)
                ((List.nodup_append'.mp hnodup).2.2 · List.mem_cons_self)
          · exact lt_of_lt_of_le (h.lt_local (local_ticket_of_soon hsoon)) hle
    · obtain hsoon | ⟨-, hcalled⟩ := hsoon.step hloop
      · exact .inl ⟨hsoon, hfiled⟩
      · exact absurd (by simp [hcalled]) (hnone t)
  | loop l =>
    obtain ⟨hforeign, -, loop, hloop, rfl⟩ := loop_spec hstep
    obtain hsoon | ⟨rfl, -⟩ := hsoon.step hloop
    · exact .inl ⟨hsoon, hfiled⟩
    · cases hforeign
  | act conn l =>
    simp only [LoopedChannel.step, Option.ite_none_right_eq_some] at hstep
    obtain ⟨-, hstep⟩ := hstep
    cases hstep
    exact .inl ⟨hsoon, hfiled⟩

/-! ## What the loop thread does -/

/-- What is posted leaves the loop thread where it is. -/
theorem control_of_stays {l : EventLoopStep LoopedFunctor} (hl : goesOn l = false)
    (hstep : s.loop.step l = some loop) : loop.control = s.loop.control := by
  cases l with
  | queueInLoop f =>
    simp only [EventLoop.step, Option.ite_none_right_eq_some] at hstep
    obtain ⟨-, hstep⟩ := hstep
    cases hstep
    show (queue false s.loop f).control = _
    exact control_queue _ _
  | remoteWakeUp =>
    simp only [EventLoop.step, Option.ite_none_right_eq_some] at hstep
    obtain ⟨-, hstep⟩ := hstep
    cases hstep
    rfl
  | remotePush | wakeUp | raiseSignal | quit =>
    cases hstep
    rfl
  | _ => cases hl

/-- The loop thread leaves a functor when the next one is called, or at the end of the batch. -/
theorem control_executing {l : EventLoopStep LoopedFunctor} {n : Nat}
    (hcontrol : s.loop.control = .executing n) (hstep : s.loop.step l = some loop) :
    l = .callNext ∨ l = .finish ∨ loop.control = .executing n := by
  cases hgoes : goesOn l with
  | false => exact .inr (.inr (hcontrol ▸ control_of_stays hgoes hstep))
  | true =>
    cases l with
    | callNext => exact .inl rfl
    | finish => exact .inr (.inl rfl)
    | queueInLoop | remotePush | remoteWakeUp | wakeUp | raiseSignal | quit => cases hgoes
    | _ => simp [EventLoop.step, hcontrol] at hstep

theorem control_callNext (hstep : s.loop.step .callNext = some loop) :
    ∃ n, loop.control = .executing n := by
  simp only [EventLoop.step] at hstep
  split at hstep
  · next n _ =>
    obtain ⟨f, -, rfl⟩ := Option.map_eq_some_iff.mp hstep
    exact ⟨n + 1, rfl⟩
  · cases hstep

/-- The functor that is called has waited, and what it writes or flushes goes to the connections. -/
theorem calling_spec {send : SendResult} (h : Ticketed s)
    (hstep : s.step F (.callNext send) = some s') :
    (∃ n, s'.loop.control = .executing n) ∧
      ((∃ ticket functor, s.calling s' = some (ticket, functor) ∧
          (ticket ∈ localTickets s.loop ∨ ticket ∈ remoteTickets s.loop) ∧
          s'.connections = flushedBy functor send (writeAll s.connections
            (s'.channel.env.written.drop s.channel.env.written.length))) ∨
        s.calling s' = none ∧ s'.channel = s.channel ∧ s'.connections = s.connections) := by
  obtain ⟨-, loop, hloop, ⟨ticket, functor, c, hticket, hget, -, rfl⟩ | ⟨hnone, rfl⟩⟩ :=
    callNext_spec hstep
  · refine ⟨?_, .inl ⟨ticket, functor, ?_, ?_, rfl⟩⟩
    · simp only [LoopedChannel.handOver, control_queueAll]
      exact control_callNext hloop
    · simp [calling, LoopedChannel.handOver, called_queueAll, dequeued, hticket, hget]
    · obtain ⟨hlocal, -⟩ | ⟨-, hremote⟩ := called_ticket h.batched hloop hticket
      · exact .inl (hlocal ▸ List.mem_cons_self)
      · exact .inr (hremote ▸ List.mem_cons_self)
  · refine ⟨control_callNext hloop, .inr ⟨?_, rfl, rfl⟩⟩
    unfold calling
    split
    · next ticket hticket => exact absurd hticket (hnone ticket)
    · rfl

end LoopedChannel

end NebulaRpc.Rpc
