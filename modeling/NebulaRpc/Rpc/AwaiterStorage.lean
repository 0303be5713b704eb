import NebulaRpc.Rpc.Link
import NebulaRpc.Rpc.Nesting

/-!
# The storage of an awaiter

A channel with the `RpcAwaiterStorage`s of its coroutine calls. A pending call refers to the
request, the response and the controller in the storage, so the destructor of the storage has to end
the call: it takes the handle and calls `CancelCoroutineCall`. On the loop thread that ends the call
at once; on another thread it is posted to the loop, and the destructor goes on.

A storage has the number of its call. The destructor runs in one step on the loop thread and in
three steps on another thread: it takes the handle, calls the channel, and is gone.
-/

namespace NebulaRpc.Rpc

/-- How far the destructor has come. -/
inductive StoragePhase where
  | alive
  /-- another thread has taken the handle -/
  | claimed
  /-- another thread is behind the call of `CancelCoroutineCall`, or without a handle -/
  | cancelled
  | gone
  deriving DecidableEq

structure AwaiterStorage where
  handle : Bool := true
  phase : StoragePhase := .alive

structure AwaitedChannel where
  channel : RpcChannel := {}
  storages : Nat → AwaiterStorage := fun _ => {}
  /-- a destructor has called the channel when it was destroyed -/
  misused : Bool := false

inductive AwaitedChannelStep where
  | channel (a : ChannelStep)
  /-- `~RpcAwaiterStorage` on the loop thread -/
  | destroy (n : Nat)
  /-- `~RpcAwaiterStorage` on another thread -/
  | claimElsewhere (n : Nat)
  | cancelElsewhere (n : Nat)
  | releaseElsewhere (n : Nat)

namespace AwaitedChannel

/-- The id that the completion of a call holds. -/
def requestId (s : AwaitedChannel) (n : Nat) : UInt64 := (s.channel.env.completions n).requestId

def setStorage (s : AwaitedChannel) (n : Nat) (storage : AwaiterStorage) : AwaitedChannel :=
  { s with storages := Function.update s.storages n storage }

/-- The coroutine that a functor resumes. -/
def resumes (s : AwaitedChannel) : ChannelStep → Option Nat
  | .runFunctor index =>
    match s.channel.functors[index]? with
    | some (.resume n) => some n
    | _ => none
  | _ => none

/-- The loop thread may destroy this storage. -/
def mayDestroy (s : AwaitedChannel) (n : Nat) : Bool :=
  n < s.channel.begun && (s.storages n).phase = .alive && s.channel.userCode

/-- `CancelCoroutineCall` on the loop thread, where `RunInLoop` runs at once. -/
def cancelCoroutineCall (s : AwaitedChannel) (id : UInt64) : AwaitedChannel :=
  if id = 0 then s
  else if s.channel.destroyed then { s with misused := true }
  else if s.channel.alive then { s with channel := s.channel.completeCallWithCancel id }
  else s

/-- `CancelCoroutineCall` on another thread. -/
def postCancel (s : AwaitedChannel) (id : UInt64) : AwaitedChannel :=
  if id = 0 then s
  else if s.channel.destroyed then { s with misused := true }
  else
    { s with channel := { s.channel with functors := s.channel.functors ++ [.cancel id] } }

def step (F : MetaFormat) (s : AwaitedChannel) : AwaitedChannelStep → Option AwaitedChannel
  | .channel a =>
    (s.channel.step F a).map fun channel =>
      match s.resumes a with
      | none => { s with channel := channel }
      | some n => { s with channel := channel }.setStorage n { s.storages n with handle := false }
  | .destroy n =>
    if s.mayDestroy n then
      let cancelled := if (s.storages n).handle then s.cancelCoroutineCall (s.requestId n) else s
      some (cancelled.setStorage n { handle := false, phase := .gone })
    else none
  | .claimElsewhere n =>
    if n < s.channel.begun ∧ (s.storages n).phase = .alive then
      some (s.setStorage n { handle := false,
                             phase := if (s.storages n).handle then .claimed else .cancelled })
    else none
  | .cancelElsewhere n =>
    if (s.storages n).phase = .claimed then
      some ((s.postCancel (s.requestId n)).setStorage n { handle := false, phase := .cancelled })
    else none
  | .releaseElsewhere n =>
    if n < s.channel.begun ∧ (s.storages n).phase = .cancelled then
      some (s.setStorage n { handle := false, phase := .gone })
    else none

def run (F : MetaFormat) (s : AwaitedChannel) (steps : List AwaitedChannelStep) :
    Option AwaitedChannel :=
  Transition.run (step F) s steps

/-- A channel that has just been constructed. -/
def start (nextRequestId : Nat) (e : ChannelEnv) : AwaitedChannel :=
  { channel := { nextRequestId := nextRequestId, env := e } }

end AwaitedChannel

/-! ## The ids of coroutine calls -/

namespace ChannelEnv

variable (e : ChannelEnv) (call : PendingCall) (n : Nat)

@[simp]
theorem completions_updateController (f : RpcController → RpcController) (controller : Option Nat) :
    (e.updateController f controller).completions = e.completions := by
  cases controller <;> rfl

@[simp]
theorem completions_applyFailure (controller : Option Nat) (reason : List UInt8)
    (state : RpcCallState) :
    (e.applyFailure controller reason state).completions = e.completions := by
  simp [applyFailure]

@[simp]
theorem completions_applyFrame (frame : RpcFrame) :
    (e.applyFrame call frame).completions = e.completions := by
  unfold applyFrame
  repeat' split
  all_goals simp

@[simp]
theorem completions_cancelTimer (timer : Option Nat) :
    (e.cancelTimer timer).completions = e.completions := by
  cases timer <;> rfl

@[simp]
theorem completions_release : (e.release call).completions = e.completions := by
  unfold release
  dsimp only
  split <;> simp

/-- What is recorded of a call leaves its id alone. -/
@[simp]
theorem requestId_record (state : RpcCallState) :
    ((e.record call state).completions n).requestId = (e.completions n).requestId := by
  unfold record
  dsimp only
  split
  · obtain rfl | hne := eq_or_ne n call.number
    · rw [Function.update_self]
    · rw [Function.update_of_ne hne]
  · rfl

@[simp]
theorem requestId_setRemoteErrorCode (code : Int32) :
    ((e.setRemoteErrorCode call code).completions n).requestId = (e.completions n).requestId := by
  unfold setRemoteErrorCode
  split
  · dsimp only
    obtain rfl | hne := eq_or_ne n call.number
    · rw [Function.update_self]
    · rw [Function.update_of_ne hne]
  · rfl

theorem requestId_finish (ending : Ending) :
    ((e.finish call ending).completions n).requestId = (e.completions n).requestId := by
  cases ending <;> simp [finish]

end ChannelEnv

namespace RpcChannel

open Relation (ReflTransGen)

variable {F : MetaFormat} {a : ChannelStep} {s₀ s s₁ s' : RpcChannel} {id : UInt64}
  {present : Nat → Prop}

/-- Coroutine calls are pending under the id that their completion holds, and of the calls in
question; the calls that are not yet begun are in question too. -/
structure Keyed (present : Nat → Prop) (s : RpcChannel) : Prop where
  pending : ∀ p ∈ s.pendingCalls, p.2.coroutine = true → present p.2.number ∧
    p.2.number < s.begun ∧ (s.env.completions p.2.number).requestId = p.1
  queued : ∀ id bytes call, .registerAndSend id bytes call ∈ s.functors → call.coroutine = true →
    present call.number ∧ call.number < s.begun ∧ (s.env.completions call.number).requestId = id
  fresh : ∀ n, s.begun ≤ n → present n

namespace Keyed

/-- Calls are only dropped. -/
theorem of_subset (h : Keyed present s) (hbegun : s'.begun = s.begun)
    (hpending : ∀ p ∈ s'.pendingCalls, ∃ q ∈ s.pendingCalls, q.1 = p.1 ∧
      q.2.number = p.2.number ∧ q.2.coroutine = p.2.coroutine)
    (hfunctors : ∀ f ∈ s'.functors, f ∈ s.functors ∨ f.number = none)
    (hcompletions : ∀ n, (s'.env.completions n).requestId = (s.env.completions n).requestId) :
    Keyed present s' := by
  refine ⟨fun p hp hcoroutine => ?_, fun id bytes call hmem hcoroutine => ?_, ?_⟩
  · obtain ⟨q, hq, hid, hnumber, hsame⟩ := hpending p hp
    obtain ⟨hpresent, hlt, hkey⟩ := h.pending q hq (hsame.trans hcoroutine)
    rw [hnumber] at hpresent hlt hkey
    exact ⟨hpresent, hbegun ▸ hlt, by rw [hcompletions, hkey, hid]⟩
  · obtain hold | hnone := hfunctors _ hmem
    · obtain ⟨hpresent, hlt, hkey⟩ := h.queued id bytes call hold hcoroutine
      exact ⟨hpresent, hbegun ▸ hlt, by rw [hcompletions, hkey]⟩
    · cases hnone
  · rw [hbegun]
    exact h.fresh

theorem of_eq (h : Keyed present s) (hbegun : s'.begun = s.begun)
    (hpending : s'.pendingCalls = s.pendingCalls) (hfunctors : s'.functors = s.functors)
    (hcompletions : ∀ n, (s'.env.completions n).requestId = (s.env.completions n).requestId) :
    Keyed present s' :=
  h.of_subset hbegun (fun p hp => ⟨p, hpending ▸ hp, rfl, rfl, rfl⟩)
    (fun _ hf => .inl (hfunctors ▸ hf)) hcompletions

theorem post (h : Keyed present s) {functor : ChannelFunctor} (hnumber : functor.number = none) :
    Keyed present { s with functors := s.functors ++ [functor] } := by
  refine h.of_subset rfl (fun p hp => ⟨p, hp, rfl, rfl, rfl⟩) (fun f hf => ?_) fun _ => rfl
  obtain hf | rfl := by simpa using hf
  · exact .inl hf
  · exact .inr hnumber

theorem dequeue (h : Keyed present s) (index : Nat) :
    Keyed present { s with functors := s.functors.eraseIdx index } :=
  h.of_subset rfl (fun p hp => ⟨p, hp, rfl, rfl, rfl⟩)
    (fun _ hf => .inl (List.mem_of_mem_eraseIdx hf)) fun _ => rfl

theorem notify (h : Keyed present s) (number : Nat) (coroutine : Bool) :
    Keyed present (s.notifyCompletion number coroutine) := by
  have hnotified : Keyed present { s with notified := number :: s.notified } :=
    h.of_eq rfl rfl rfl fun _ => rfl
  unfold notifyCompletion
  dsimp only
  split
  · exact hnotified.post rfl
  · exact h.of_eq rfl rfl rfl fun _ => rfl

theorem erase (h : Keyed present s) (id : UInt64) {e : ChannelEnv}
    (hcompletions : ∀ n, (e.completions n).requestId = (s.env.completions n).requestId) :
    Keyed present { s.erasePending id with env := e } :=
  h.of_subset rfl (fun p hp => ⟨p, List.mem_of_mem_filter hp, rfl, rfl, rfl⟩) (fun _ => .inl)
    hcompletions

theorem modify (h : Keyed present s) (id : UInt64) {f : PendingCall → PendingCall}
    (hnumber : ∀ x, (f x).number = x.number) (hcoroutine : ∀ x, (f x).coroutine = x.coroutine) :
    Keyed present (s.modifyPending id f) := by
  refine h.of_subset rfl (fun p hp => ?_) (fun _ => .inl) fun _ => rfl
  obtain ⟨q, hq, rfl⟩ := List.mem_map.mp hp
  refine ⟨q, hq, ?_⟩
  split
  · exact ⟨rfl, (hnumber q.2).symm, (hcoroutine q.2).symm⟩
  · exact ⟨rfl, rfl, rfl⟩

theorem store (h : Keyed present s) (id : UInt64) (token : Int) (bytes : List UInt8)
    (call : PendingCall) : Keyed present (s.store id token bytes call) := by
  have hassign : Keyed present (s.assign id token call) := by
    have htoken : Keyed present (s.modifyPending id ({ · with cancelToken := token })) :=
      h.modify id (fun _ => rfl) fun _ => rfl
    unfold assign registerTimeoutTimer
    split
    · apply Keyed.modify
      · exact htoken.of_eq rfl rfl rfl fun _ => rfl
      · exact fun _ => rfl
      · exact fun _ => rfl
    · exact htoken
  unfold RpcChannel.store
  dsimp only
  split
  · exact hassign.of_eq rfl rfl rfl fun _ => rfl
  · exact hassign

theorem cause {ending : Ending} (h : Keyed present s) (hcause : Cause a s₀ s s₁ id ending) :
    Keyed present s₁ := by
  cases hcause with
  | functor => exact h.dequeue _
  | unwritten =>
    apply Keyed.store
    exact h.of_eq rfl rfl rfl fun _ => rfl
  | timeout => exact h.of_eq rfl rfl rfl fun n => by simp
  | _ => exact h.of_eq rfl rfl rfl fun _ => rfl

/-- The completion of a coroutine call holds the id under which it is to be registered. -/
theorem prepareCall_registers {x : CallArguments} {bytes : List UInt8} {call : PendingCall}
    (h : (s.prepareCall F x).1 = .registerAndSend id bytes call) (hcoroutine : call.coroutine = true) :
    call.number = s.begun ∧ ((s.prepareCall F x).2.env.completions s.begun).requestId = id := by
  obtain ⟨method, controller, request, response, coroutine, traceId⟩ := x
  cases method with
  | none => cases h
  | some method =>
    cases request with
    | none => cases h
    | some request =>
      cases response with
      | none => cases h
      | some parses =>
        simp only [prepareCall] at h ⊢
        split at h
        · cases h
        · next hbytes =>
          cases h
          obtain rfl : coroutine = true := hcoroutine
          simp [hbytes]

/-- A call is begun. -/
theorem prepare (h : Keyed present s) (F : MetaFormat) (x : CallArguments) :
    Keyed present { (s.prepareCall F x).2 with
      functors := s.functors ++ [(s.prepareCall F x).1] } := by
  have hold : ∀ n < s.begun, (s.prepareCall F x).2.env.completions n = s.env.completions n := by
    intro n hn
    unfold prepareCall
    dsimp only
    repeat' split
    all_goals first | rfl | simp [Function.update_of_ne (Nat.ne_of_lt hn)]
  obtain ⟨_, completions, -, hstate⟩ := prepareCall_state F s x
  have hbegun : (s.prepareCall F x).2.begun = s.begun + 1 := by rw [hstate]
  have hpending : (s.prepareCall F x).2.pendingCalls = s.pendingCalls := by rw [hstate]
  refine ⟨fun p hp hcoroutine => ?_, fun id bytes call hmem hcoroutine => ?_, fun n hn => ?_⟩
  · obtain ⟨hpresent, hlt, hkey⟩ := h.pending p (hpending ▸ hp) hcoroutine
    exact ⟨hpresent, by simp only [hbegun]; omega, by simp only [hold _ hlt, hkey]⟩
  · rw [List.mem_append, List.mem_singleton] at hmem
    obtain hmem | heq := hmem
    · obtain ⟨hpresent, hlt, hkey⟩ := h.queued id bytes call hmem hcoroutine
      exact ⟨hpresent, by simp only [hbegun]; omega, by simp only [hold _ hlt, hkey]⟩
    · obtain ⟨hnumber, hkey⟩ := prepareCall_registers heq.symm hcoroutine
      refine ⟨h.fresh _ hnumber.ge, by simp only [hbegun]; omega, ?_⟩
      rw [hnumber]
      exact hkey
  · exact h.fresh n (by simp only [hbegun] at hn; omega)

/-- A queued call goes into the map, unless its id is there already. -/
theorem insert (h : Keyed present s) {index : Nat} {bytes : List UInt8} {call : PendingCall}
    (hfunctor : s.functors[index]? = some (.registerAndSend id bytes call)) :
    Keyed present (({ s with functors := s.functors.eraseIdx index }.emplace id call).hook id
      bytes) := by
  have hemplace : Keyed present ({ s with functors := s.functors.eraseIdx index }.emplace id call) := by
    unfold emplace
    split
    · exact h.dequeue index
    · refine ⟨fun p hp hcoroutine => ?_, (h.dequeue index).queued, h.fresh⟩
      obtain hp | heq := List.mem_append.mp hp
      · exact h.pending p hp hcoroutine
      · rw [List.mem_singleton.mp heq] at hcoroutine ⊢
        exact h.queued id bytes call (List.mem_of_getElem? hfunctor) hcoroutine
  unfold hook
  split
  · exact hemplace.of_eq rfl rfl rfl fun _ => rfl
  · split <;> exact hemplace.of_eq rfl rfl rfl fun _ => rfl

theorem effect (h : Keyed present s) (heffect : Effect F a s₀ s s') : Keyed present s' := by
  cases heffect with
  | finish hcause hfind hpending =>
    unfold RpcChannel.finish
    apply Keyed.notify
    apply (h.cause hcause).erase
    intro n
    rw [ChannelEnv.requestId_finish, ChannelEnv.completions_release]
  | skip hcause hnone => exact h.cause hcause
  | discard => exact h.erase _ fun n => by rw [ChannelEnv.completions_release]
  | prepare ha => exact h.prepare F _
  | invalid | unavailable | expired =>
    apply Keyed.notify
    exact (h.dequeue _).of_eq rfl rfl rfl fun n => by simp
  | overloaded =>
    unfold rejectOverloaded
    dsimp only
    split
    · exact (h.dequeue _).of_eq rfl rfl rfl fun n => by simp [push]
    · apply Keyed.notify
      exact (h.dequeue _).of_eq rfl rfl rfl fun n => by simp
  | insert hfunctor => exact h.insert hfunctor
  | store =>
    apply Keyed.store
    exact h.of_eq rfl rfl rfl fun _ => rfl
  | @degraded id call reason stack accepted =>
    apply Keyed.notify
    refine h.of_eq rfl rfl rfl fun n => ?_
    cases accepted <;> simp
  | dequeue => exact h.dequeue _
  | post hnumber => exact h.post hnumber
  | @endOfFrames conn error stack order hstack horder =>
    cases error with
    | none => exact (h.post rfl).of_eq rfl rfl rfl fun _ => rfl
    | some error => exact h.of_eq rfl rfl rfl fun _ => rfl
  | sendHeartbeat =>
    unfold sendHeartbeat
    dsimp only
    split
    · exact h
    · split <;> exact h.of_eq rfl rfl rfl fun _ => rfl
  | @remoteClosure index id hid =>
    have hpost := h.post (show (ChannelFunctor.cancel id).number = none from rfl)
    cases halive : s.alive
    · exact h.of_eq rfl rfl rfl fun _ => rfl
    · exact hpost.of_eq rfl rfl rfl fun _ => rfl
  | _ => exact h.of_eq rfl rfl rfl fun n => by simp [updateController, push, destroy,
      cancelHeartbeat, scheduleHeartbeat, connectionEstablished, ChannelEnv.setTimer]

end Keyed

/-! ## No coroutine call is queued -/

/-- No coroutine call waits for its registration. -/
def Unqueued (s : RpcChannel) : Prop :=
  ∀ id bytes call, .registerAndSend id bytes call ∈ s.functors → call.coroutine = false

theorem Unqueued.of_subset (h : Unqueued s)
    (hfunctors : ∀ f ∈ s'.functors, f ∈ s.functors ∨ f.number = none) : Unqueued s' := by
  intro id bytes call hmem
  obtain hmem | hnone := hfunctors _ hmem
  · exact h id bytes call hmem
  · cases hnone

theorem Unqueued.of_eq (h : Unqueued s) (hfunctors : s'.functors = s.functors) : Unqueued s' :=
  h.of_subset fun _ hf => .inl (hfunctors ▸ hf)

theorem Unqueued.post (h : Unqueued s) {functor : ChannelFunctor} (hnumber : functor.number = none) :
    Unqueued { s with functors := s.functors ++ [functor] } := by
  apply h.of_subset
  intro f hf
  obtain hf | rfl := by simpa using hf
  · exact .inl hf
  · exact .inr hnumber

theorem Unqueued.dequeue (h : Unqueued s) (index : Nat) :
    Unqueued { s with functors := s.functors.eraseIdx index } :=
  h.of_subset fun _ hf => .inl (List.mem_of_mem_eraseIdx hf)

theorem Unqueued.notify (h : Unqueued s) (number : Nat) (coroutine : Bool) :
    Unqueued (s.notifyCompletion number coroutine) := by
  unfold notifyCompletion
  dsimp only
  split
  · exact (h.post (show (ChannelFunctor.resume number).number = none from rfl)).of_eq rfl
  · exact h.of_eq rfl

theorem functors_store (s : RpcChannel) (id : UInt64) (token : Int) (bytes : List UInt8)
    (call : PendingCall) : (s.store id token bytes call).functors = s.functors := by
  unfold store assign registerTimeoutTimer modifyPending
  dsimp only
  repeat' split
  all_goals rfl

theorem functors_emplace (s : RpcChannel) (id : UInt64) (call : PendingCall) :
    (s.emplace id call).functors = s.functors := by
  unfold emplace
  split <;> rfl

theorem functors_hook (s : RpcChannel) (id : UInt64) (bytes : List UInt8) :
    (s.hook id bytes).functors = s.functors := by
  unfold hook
  repeat' split
  all_goals rfl

theorem Unqueued.cause {ending : Ending} (h : Unqueued s) (hcause : Cause a s₀ s s₁ id ending) :
    Unqueued s₁ := by
  cases hcause with
  | functor => exact h.dequeue _
  | unwritten => exact h.of_eq (functors_store ..)
  | _ => exact h.of_eq rfl

theorem Unqueued.effect (h : Unqueued s) (hbegin : ∀ x, a.arguments = some x → x.coroutine = false)
    (heffect : Effect F a s₀ s s') : Unqueued s' := by
  cases heffect with
  | finish hcause hfind hpending =>
    apply Unqueued.notify
    exact (h.cause hcause).of_eq rfl
  | skip hcause hnone => exact h.cause hcause
  | @prepare x ha =>
    intro id bytes call hmem
    rw [List.mem_append, List.mem_singleton] at hmem
    obtain hmem | heq := hmem
    · exact h id bytes call hmem
    · obtain ⟨reason, hfunctor⟩ | ⟨bytes', call', hfunctor, -, -, -, -, hcoroutine, -⟩ :=
        prepareCall_functor F s x
      · cases heq.trans hfunctor
      · cases heq.trans hfunctor
        rw [hcoroutine]
        exact hbegin x ha
  | invalid | unavailable | expired =>
    apply Unqueued.notify
    exact (h.dequeue _).of_eq rfl
  | overloaded =>
    unfold rejectOverloaded
    dsimp only
    split
    · exact (h.dequeue _).of_eq rfl
    · apply Unqueued.notify
      exact (h.dequeue _).of_eq rfl
  | insert => exact (h.dequeue _).of_eq ((functors_hook ..).trans (functors_emplace ..))
  | store => exact h.of_eq (functors_store ..)
  | degraded =>
    apply Unqueued.notify
    exact h.of_eq rfl
  | dequeue => exact h.dequeue _
  | post hnumber => exact h.post hnumber
  | @endOfFrames conn error stack order hstack horder =>
    cases error with
    | none => exact (h.post (show (ChannelFunctor.flush conn).number = none from rfl)).of_eq rfl
    | some error => exact h.of_eq rfl
  | sendHeartbeat =>
    unfold sendHeartbeat
    dsimp only
    split
    · exact h
    · split <;> exact h.of_eq rfl
  | @remoteClosure index id hid =>
    cases halive : s.alive
    · exact h.of_eq rfl
    · exact (h.post (show (ChannelFunctor.cancel id).number = none from rfl)).of_eq rfl
  | _ => exact h.of_eq rfl

/-- What runs on the loop thread queues no registration. -/
theorem Unqueued.perform (h : Unqueued s) (functor : ChannelFunctor) :
    Unqueued (s.perform functor) := by
  have hcancel : ∀ {s : RpcChannel} (id : UInt64), Unqueued s →
      Unqueued (s.completeCallWithCancel id) := by
    intro s id h
    obtain hsame | ⟨call, e, -, heq⟩ := completes_completeCallWithCancel s id
    · rw [hsame]
      exact h
    · rw [heq]
      apply Unqueued.notify
      exact h.of_eq rfl
  cases functor with
  | registerAndSend id bytes call =>
    change Unqueued (s.registerAndSend id bytes call)
    unfold registerAndSend
    split
    · apply Unqueued.notify
      exact h.of_eq rfl
    · split
      · unfold rejectOverloaded
        dsimp only
        split
        · exact h.of_eq rfl
        · apply Unqueued.notify
          exact h.of_eq rfl
      · split
        · apply Unqueued.notify
          exact h.of_eq rfl
        · have hhook : Unqueued ((s.emplace id call).hook id bytes) :=
            h.of_eq ((functors_hook ..).trans (functors_emplace ..))
          obtain hregister | ⟨hregister, -⟩ :=
            registerCancelCallback_cases (s.emplace id call) id bytes
          · rw [hregister]
            exact hhook
          · rw [hregister]
            exact hcancel id hhook
  | completeInvalid number controller coroutine reason =>
    apply Unqueued.notify
    exact h.of_eq rfl
  | cancel id =>
    change Unqueued (if s.alive then s.completeCallWithCancel id else s)
    split
    · exact hcancel id h
    · exact h
  | resume number | flush conn => exact h

theorem Unqueued.step (h : Unqueued s) (hstep : s.step F a = some s') : Unqueued s' := by
  by_cases hbegin : ∃ x later, a = .beginCall x later
  · obtain ⟨x, later, rfl⟩ := hbegin
    simp only [RpcChannel.step, Option.ite_none_right_eq_some, Option.some.injEq] at hstep
    obtain ⟨-, rfl⟩ := hstep
    apply Unqueued.perform
    exact h.of_eq (functors_prepareCall F s x)
  · refine invariant_step h (fun h heffect => h.effect (fun x hx => ?_) heffect) hstep
    cases a with
    | beginCall x' later => exact absurd ⟨x', later, rfl⟩ hbegin
    | remoteBeginCall x' =>
      cases hx
      simp only [RpcChannel.step, Option.ite_none_right_eq_some, Bool.and_eq_true] at hstep
      simpa using hstep.1.2
    | _ => cases hx

/-- `CompleteCallWithCancel` takes the call out of the map. -/
theorem of_mem_completeCallWithCancel (hopened : Opened s) {p : UInt64 × PendingCall}
    (hp : p ∈ (s.completeCallWithCancel id).pendingCalls) : p ∈ s.pendingCalls ∧ p.1 ≠ id := by
  unfold completeCallWithCancel at hp
  obtain ⟨hnone, hcalls⟩ | ⟨call, hfind, hpending, hsome⟩ := s.tryComplete_cases id
  · rw [hnone] at hp
    refine ⟨hp, ?_⟩
    rintro rfl
    obtain ⟨call, hfind⟩ := exists_findPending (List.mem_map_of_mem hp)
    exact hcalls call hfind (hopened.pending _ (find_eq_some hfind))
  · rw [hsome] at hp
    have hmem : p ∈ (s.erasePending id).pendingCalls := by
      unfold notifyCompletion push at hp
      dsimp only at hp
      split at hp <;> exact hp
    simpa [erasePending] using hmem

/-! ## The destructor of the channel -/

/-- As long as the channel is alive, its destructor has not begun. -/
def Standing (s : RpcChannel) : Prop :=
  s.alive = true → .failAllPendingNow ∉ s.stack ∧ s.destroyed = false

theorem Standing.of_stack (h : Standing s) (halive : s'.alive = s.alive)
    (hdestroyed : s'.destroyed = s.destroyed)
    (hstack : .failAllPendingNow ∈ s'.stack → .failAllPendingNow ∈ s.stack) : Standing s' := by
  intro ha
  obtain ⟨hnot, hfalse⟩ := h (halive ▸ ha)
  exact ⟨fun hmem => hnot (hstack hmem), hdestroyed.trans hfalse⟩

theorem Standing.of_eq (h : Standing s) (halive : s'.alive = s.alive)
    (hdestroyed : s'.destroyed = s.destroyed) (hstack : s'.stack = s.stack) : Standing s' :=
  h.of_stack halive hdestroyed (hstack ▸ id)

/-- A handler goes on, or it is done, and others may be called. -/
theorem Standing.pop (h : Standing s) {frame : ChannelFrame} {stack : List ChannelFrame}
    (hstack : s.stack = frame :: stack) (frames : List ChannelFrame)
    (hframes : .failAllPendingNow ∉ frames) :
    Standing { s with stack := frames ++ stack } := by
  refine h.of_stack rfl rfl fun hmem => ?_
  rw [hstack]
  exact List.mem_cons_of_mem _ ((List.mem_append.mp hmem).resolve_left hframes)

theorem Standing.push (h : Standing s) {frame : ChannelFrame} (hframe : .failAllPendingNow ≠ frame) :
    Standing (s.push frame) :=
  h.of_stack rfl rfl fun hmem => (List.mem_cons.mp hmem).resolve_left hframe

theorem Standing.notify (h : Standing s) (number : Nat) (coroutine : Bool) :
    Standing (s.notifyCompletion number coroutine) := by
  unfold notifyCompletion
  dsimp only
  split
  · exact h.of_eq rfl rfl rfl
  · exact h.of_stack rfl rfl fun hmem => (List.mem_cons.mp hmem).resolve_left (by simp)

theorem Standing.store (h : Standing s) (id : UInt64) (token : Int) (bytes : List UInt8)
    (call : PendingCall) : Standing (s.store id token bytes call) := by
  unfold RpcChannel.store assign registerTimeoutTimer modifyPending
  dsimp only
  repeat' split
  all_goals exact h.of_eq rfl rfl rfl

theorem Standing.cause {ending : Ending} (h : Standing s) (hcause : Cause a s₀ s s₁ id ending) :
    Standing s₁ := by
  cases hcause with
  | @frame conn frame frames error _ _ _ _ hfirst ha hstack =>
    exact h.pop hstack [.onMessage conn frames error] (by simp)
  | @connection id ids _ hstack => exact h.pop hstack [.failEach ids] (by simp)
  | @startCancel id ids _ hstack => exact h.pop hstack [.startCancel ids] (by simp)
  | unwritten hstack hfind => exact (h.pop hstack [] (by simp)).store _ _ _ _
  | _ => exact h.of_eq rfl rfl rfl

theorem Standing.effect (h : Standing s) (heffect : Effect F a s₀ s s') : Standing s' := by
  have hqueue : ∀ (index count : Nat) (e : ChannelEnv), Standing { s with
      functors := s.functors.eraseIdx index, env := e, overloadRejectCount := count } :=
    fun _ _ _ => h.of_eq rfl rfl rfl
  cases heffect with
  | finish hcause =>
    apply Standing.notify
    exact (h.cause hcause).of_eq rfl rfl rfl
  | skip hcause => exact h.cause hcause
  | @prepare arguments ha =>
    obtain ⟨n, completions, -, hstate⟩ := prepareCall_state F s arguments
    rw [hstate]
    exact h.of_eq rfl rfl rfl
  | invalid | unavailable | expired => exact (hqueue _ s.overloadRejectCount _).notify _ _
  | overloaded =>
    unfold rejectOverloaded
    dsimp only
    split
    · exact (hqueue _ (s.overloadRejectCount + 1) _).push (by simp)
    · exact (hqueue _ (s.overloadRejectCount + 1) _).notify _ _
  | insert =>
    unfold hook emplace
    repeat' split
    all_goals exact h.of_stack rfl rfl fun hmem => (List.mem_cons.mp hmem).resolve_left (by simp)
  | store hstack => exact (h.pop hstack [] (by simp)).store _ _ _ _
  | unregistered hstack | returned hstack => exact h.pop hstack [] (by simp)
  | degraded hfirst ha hstack =>
    apply Standing.notify
    exact (h.pop hstack [] (by simp)).of_eq rfl rfl rfl
  | @cancelIgnored id ids stack hstack => exact h.pop hstack [.startCancel ids] (by simp)
  | @heartbeatFrame conn frame frames error stack hstack =>
    exact (h.pop hstack [.onMessage conn frames error] (by simp)).of_eq rfl rfl rfl
  | @endOfFrames conn error stack order hstack =>
    cases error with
    | none => exact (h.pop hstack [] (by simp)).of_eq rfl rfl rfl
    | some error =>
      exact (h.pop hstack [.failEach order, .disconnect] (by simp)).of_eq rfl rfl rfl
  | destroyed hstack =>
    intro halive
    exact absurd (hstack ▸ List.mem_cons_self) (h halive).1
  | sendHeartbeat =>
    unfold sendHeartbeat
    dsimp only
    repeat' split
    all_goals exact h.of_eq rfl rfl rfl
  | forceClose | startCancel | onMessage | connectionDown =>
    exact h.of_stack rfl rfl fun hmem => (List.mem_cons.mp hmem).resolve_left (by simp)
  | destroy =>
    intro halive
    simp [RpcChannel.destroy, RpcChannel.push] at halive
  | _ => exact h.of_eq rfl rfl rfl

theorem alive_step (hstep : s.step F a = some s') (ha : a ≠ .destroy) : s'.alive = s.alive := by
  have hrelinks := step_relinks hstep
  change s'.link.alive = s.alive
  generalize s'.link = link at hrelinks ⊢
  cases hrelinks with
  | destroy => exact absurd rfl ha
  | _ => rfl

end RpcChannel

/-! ## Storages and pending calls -/

namespace AwaitedChannel

/-- The call of this storage is pending. -/
def Pending (s : AwaitedChannel) (n : Nat) : Prop :=
  ∃ p ∈ s.channel.pendingCalls, p.2.coroutine = true ∧ p.2.number = n

/-- No pending call has lost its storage, and no storage has called a channel that was destroyed. -/
structure Sheltered (s : AwaitedChannel) : Prop where
  pending : ∀ n, s.Pending n → (s.storages n).phase ≠ .gone
  unused : s.misused = false

/-- When frames may be destroyed. On the loop thread: with the handle, before the destructor of the
channel begins; a call that is pending has its handle and an id. On another thread: when the call is
not pending any more, and again, with the handle, before the destructor of the channel begins. And
the channel is not destroyed while another thread is about to call it. -/
def Orderly (s : AwaitedChannel) : AwaitedChannelStep → Prop
  | .destroy n => s.mayDestroy n = true →
    (s.Pending n → (s.storages n).handle = true ∧ s.requestId n ≠ 0) ∧
      ((s.storages n).handle = true → s.channel.alive = true)
  | .claimElsewhere n => ¬s.Pending n ∧ ((s.storages n).handle = true → s.channel.alive = true)
  | .channel .destroy => ∀ n, (s.storages n).phase ≠ .claimed
  | _ => True

variable {F : MetaFormat} {s s' : AwaitedChannel} {l : AwaitedChannelStep}

/-- What the run of a channel with its storages keeps: the storage of a pending call is not being
destroyed, and a destructor that is about to call the channel finds it alive. -/
structure Secured (s : AwaitedChannel) : Prop where
  keyed : s.channel.Keyed fun n => (s.storages n).phase = .alive
  opened : s.channel.Opened
  unqueued : s.channel.Unqueued
  standing : s.channel.Standing
  claimed : ∀ n, (s.storages n).phase = .claimed → s.channel.alive = true
  unused : s.misused = false

theorem Secured.alive (h : Secured s) {n : Nat} (hpending : s.Pending n) :
    (s.storages n).phase = .alive := by
  obtain ⟨p, hp, hcoroutine, rfl⟩ := hpending
  exact (h.keyed.pending p hp hcoroutine).1

theorem Secured.sheltered (h : Secured s) : Sheltered s := by
  refine ⟨fun n hpending hgone => ?_, h.unused⟩
  cases (h.alive hpending).symm.trans hgone

/-- A storage goes on to another phase. -/
theorem Secured.setStorage (h : Secured s) {n : Nat} {storage : AwaiterStorage}
    (hphase : storage.phase = (s.storages n).phase ∨ (s.storages n).phase ≠ .alive ∨
      n < s.channel.begun ∧ ¬s.Pending n)
    (hclaimed : storage.phase = .claimed → s.channel.alive = true) :
    Secured (s.setStorage n storage) := by
  refine ⟨⟨fun p hp hcoroutine => ?_, fun id bytes call hmem hcoroutine => ?_, fun m hm => ?_⟩,
    h.opened, h.unqueued, h.standing, fun m hm => ?_, h.unused⟩
  · obtain ⟨halive, hlt, hkey⟩ := h.keyed.pending p hp hcoroutine
    refine ⟨?_, hlt, hkey⟩
    obtain heq | hne := eq_or_ne p.2.number n
    · simp only [AwaitedChannel.setStorage, heq, Function.update_self]
      rw [heq] at halive
      obtain hsame | hnot | ⟨-, hended⟩ := hphase
      · exact hsame.trans halive
      · exact absurd halive hnot
      · exact absurd ⟨p, hp, hcoroutine, heq⟩ hended
    · simpa [AwaitedChannel.setStorage, hne] using halive
  · have hfalse := h.unqueued id bytes call hmem
    rw [hfalse] at hcoroutine
    cases hcoroutine
  · have halive := h.keyed.fresh m hm
    obtain heq | hne := eq_or_ne m n
    · simp only [AwaitedChannel.setStorage, heq, Function.update_self]
      rw [heq] at halive
      obtain hsame | hnot | ⟨hlt, -⟩ := hphase
      · exact hsame.trans halive
      · exact absurd halive hnot
      · change s.channel.begun ≤ m at hm
        omega
    · simpa [AwaitedChannel.setStorage, hne] using halive
  · obtain heq | hne := eq_or_ne m n
    · simp only [AwaitedChannel.setStorage, heq, Function.update_self] at hm
      exact hclaimed hm
    · exact h.claimed m (by simpa [AwaitedChannel.setStorage, hne] using hm)

/-- The channel takes a step, and a functor may take the handle of a coroutine. -/
theorem Secured.channel (h : Secured s) {a : ChannelStep} {channel : RpcChannel}
    (hstep : s.channel.step F a = some channel)
    (hdestroy : a = .destroy → ∀ n, (s.storages n).phase ≠ .claimed) :
    Secured { s with channel := channel } := by
  refine ⟨RpcChannel.invariant_step h.keyed (fun h heffect => h.effect heffect) hstep,
    RpcChannel.invariant_step h.opened (fun h heffect => h.effect heffect) hstep,
    h.unqueued.step hstep,
    RpcChannel.invariant_step h.standing (fun h heffect => h.effect heffect) hstep,
    fun n hn => ?_, h.unused⟩
  have ha : a ≠ .destroy := fun ha => hdestroy ha n hn
  exact (RpcChannel.alive_step hstep ha).trans (h.claimed n hn)

/-- `CancelCoroutineCall` on the loop thread, when the channel is alive. -/
theorem Secured.cancel (F : MetaFormat) (h : Secured s) (huser : s.channel.userCode = true)
    (halive : s.channel.alive = true) (id : UInt64) : Secured (s.cancelCoroutineCall id) := by
  have hdestroyed := (h.standing halive).2
  unfold cancelCoroutineCall
  rw [hdestroyed, halive]
  simp only [Bool.false_eq_true, if_false, if_true]
  split
  · exact h
  · next hid =>
    apply h.channel (F := F) (a := .cancelCoroutineCall id)
    · simp [RpcChannel.step, huser, hdestroyed, hid, halive]
    · simp

theorem begun_cancelCoroutineCall (s : AwaitedChannel) (id : UInt64) :
    (s.cancelCoroutineCall id).channel.begun = s.channel.begun := by
  have hbegun : (s.channel.completeCallWithCancel id).begun = s.channel.begun := by
    obtain hsame | ⟨call, e, -, heq⟩ := RpcChannel.completes_completeCallWithCancel s.channel id
    · rw [hsame]
    · rw [heq]
      exact RpcChannel.begun_notifyCompletion _ _ _
  unfold cancelCoroutineCall
  repeat' split
  all_goals first | rfl | exact hbegun

/-- The destructor on the loop thread ends the call of its storage. -/
theorem Secured.destroy (F : MetaFormat) (h : Secured s) {n : Nat} (horderly : s.Orderly (.destroy n))
    (hmay : s.mayDestroy n = true) :
    Secured ((if (s.storages n).handle then s.cancelCoroutineCall (s.requestId n) else s).setStorage n
      { handle := false, phase := .gone }) := by
  obtain ⟨hpending, halive⟩ := horderly hmay
  simp only [mayDestroy, Bool.and_eq_true, decide_eq_true_eq] at hmay
  obtain ⟨⟨hlt, -⟩, huser⟩ := hmay
  cases hhandle : (s.storages n).handle with
  | false =>
    refine h.setStorage (.inr (.inr ⟨hlt, fun hp => ?_⟩)) (by simp)
    rw [hhandle] at hpending
    cases (hpending hp).1
  | true =>
    have hcancel := h.cancel F huser (halive hhandle) (s.requestId n)
    refine hcancel.setStorage (.inr (.inr ⟨?_, ?_⟩)) (by simp)
    · rw [begun_cancelCoroutineCall]
      exact hlt
    · rintro ⟨p, hp, hcoroutine, hnumber⟩
      -- an entry that is left was there before
      by_cases hold : s.Pending n
      · obtain ⟨-, hid⟩ := hpending hold
        simp only [cancelCoroutineCall, hid, (h.standing (halive hhandle)).2, halive hhandle, if_false,
          if_true, Bool.false_eq_true] at hp
        obtain ⟨hp, hne⟩ := RpcChannel.of_mem_completeCallWithCancel h.opened hp
        obtain ⟨-, -, hkey⟩ := h.keyed.pending p hp hcoroutine
        rw [hnumber] at hkey
        exact hne hkey.symm
      · apply hold
        refine ⟨p, ?_, hcoroutine, hnumber⟩
        unfold cancelCoroutineCall at hp
        repeat' split at hp
        all_goals first | exact hp | exact (RpcChannel.of_mem_completeCallWithCancel h.opened hp).1

/-- Another thread posts the cancellation of a call that has ended. -/
theorem Secured.postCancel (h : Secured s) (halive : s.channel.alive = true) (id : UInt64) :
    Secured (s.postCancel id) := by
  unfold AwaitedChannel.postCancel
  rw [(h.standing halive).2]
  simp only [Bool.false_eq_true, if_false]
  split
  · exact h
  · have hnumber : (ChannelFunctor.cancel id).number = none := rfl
    exact ⟨h.keyed.post hnumber, h.opened.post rfl, h.unqueued.post hnumber,
      h.standing.of_eq rfl rfl rfl, h.claimed, h.unused⟩

theorem storages_postCancel (s : AwaitedChannel) (id : UInt64) :
    (s.postCancel id).storages = s.storages := by
  unfold AwaitedChannel.postCancel
  repeat' split
  all_goals rfl

theorem Secured.step (h : Secured s) (horderly : s.Orderly l) (hstep : s.step F l = some s') :
    Secured s' := by
  cases l with
  | channel a =>
    obtain ⟨channel, hchannel, rfl⟩ := Option.map_eq_some_iff.mp hstep
    have hchannel := h.channel hchannel (by rintro rfl; exact horderly)
    split
    · exact hchannel
    · exact hchannel.setStorage (.inl rfl) (hchannel.claimed _)
  | destroy n =>
    simp only [AwaitedChannel.step, Option.ite_none_right_eq_some] at hstep
    obtain ⟨hmay, hstep⟩ := hstep
    cases hstep
    exact h.destroy F horderly hmay
  | claimElsewhere n =>
    simp only [AwaitedChannel.step, Option.ite_none_right_eq_some] at hstep
    obtain ⟨⟨hlt, -⟩, hstep⟩ := hstep
    cases hstep
    obtain ⟨hended, halive⟩ := horderly
    refine h.setStorage (.inr (.inr ⟨hlt, hended⟩)) fun hclaimed => ?_
    cases hhandle : (s.storages n).handle with
    | true => exact halive hhandle
    | false => simp [hhandle] at hclaimed
  | cancelElsewhere n =>
    simp only [AwaitedChannel.step, Option.ite_none_right_eq_some] at hstep
    obtain ⟨hphase, hstep⟩ := hstep
    cases hstep
    refine (h.postCancel (h.claimed n hphase) _).setStorage (.inr (.inl ?_)) (by simp)
    rw [storages_postCancel, hphase]
    simp
  | releaseElsewhere n =>
    simp only [AwaitedChannel.step, Option.ite_none_right_eq_some] at hstep
    obtain ⟨⟨-, hphase⟩, hstep⟩ := hstep
    cases hstep
    exact h.setStorage (.inr (.inl (by simp [hphase]))) (by simp)

/-- In a run in which frames are destroyed when they may be, every pending coroutine call has its
storage and no storage has called a channel that was destroyed, in every state. -/
theorem sheltered_of_orderly (F : MetaFormat) (nextRequestId : Nat) (e : ChannelEnv)
    (steps : List AwaitedChannelStep) (s : AwaitedChannel)
    (hmeets : Transition.Meets (step F) Orderly (start nextRequestId e) steps)
    (hrun : (start nextRequestId e).run F steps = some s) : Sheltered s := by
  have hstart : Secured (start nextRequestId e) := by
    refine ⟨⟨?_, ?_, ?_⟩, ⟨?_, ?_⟩, ?_, ?_, ?_, rfl⟩ <;>
      simp [start, RpcChannel.Unqueued, RpcChannel.Standing]
  exact (Transition.invariant_run (fun _ _ _ h horderly hstep => h.step horderly hstep) hstart hmeets
    hrun).sheltered

/-- A coroutine call of the first method of a service. -/
def awaitedCall : CallArguments where
  method := some ⟨[1], 0⟩
  controller := some 0
  request := some ⟨0, [], some []⟩
  response := some fun _ => true
  coroutine := true
  traceId := 0

/-- The frame of a coroutine that waits is destroyed on the loop thread; the call of another one is
answered, and another thread destroys its frame before the functor resumes it. -/
def droppedOrderly : List AwaitedChannelStep :=
  [.channel (.connectionUp 0), .channel (.beginCall awaitedCall 0),
    .channel (.resume false 0 []), .destroy 0,
    .channel (.beginCall { awaitedCall with controller := some 1 } 0), .channel (.resume false 0 []),
    .channel (.onMessage 0 [{ rpcMeta := { type := .response, requestId := 2 } }] none),
    .channel (.resume false 0 []), .claimElsewhere 1, .cancelElsewhere 1, .releaseElsewhere 1]

theorem sheltered_of_orderly_dropped : ∃ s, (start 1 {}).run wireFormat droppedOrderly = some s ∧
    s.channel.notified = [1, 0] ∧ (s.storages 0).phase = .gone ∧ (s.storages 1).phase = .gone ∧
    Sheltered s := by
  refine ⟨_, rfl, rfl, rfl, rfl, ?_⟩
  refine sheltered_of_orderly wireFormat 1 {} droppedOrderly _ ?_ rfl
  refine ⟨trivial, ?_⟩
  rintro _ ⟨⟩
  refine ⟨trivial, ?_⟩
  rintro _ ⟨⟩
  refine ⟨trivial, ?_⟩
  rintro _ ⟨⟩
  refine ⟨fun _ => ⟨fun _ => ⟨rfl, by decide⟩, fun _ => rfl⟩, ?_⟩
  rintro _ ⟨⟩
  refine ⟨trivial, ?_⟩
  rintro _ ⟨⟩
  refine ⟨trivial, ?_⟩
  rintro _ ⟨⟩
  refine ⟨trivial, ?_⟩
  rintro _ ⟨⟩
  refine ⟨trivial, ?_⟩
  rintro _ ⟨⟩
  refine ⟨⟨?_, fun _ => rfl⟩, ?_⟩
  · rintro ⟨p, ⟨⟩, -⟩
  rintro _ ⟨⟩
  refine ⟨trivial, ?_⟩
  rintro _ ⟨⟩
  exact ⟨trivial, fun _ _ => trivial⟩

/-- A coroutine waits for its call, and another thread destroys its frame. -/
def droppedElsewhere : List AwaitedChannelStep :=
  [.channel (.connectionUp 0), .channel (.beginCall awaitedCall 0),
    .channel (.resume false 0 []), .claimElsewhere 0, .cancelElsewhere 0, .releaseElsewhere 0]

/-- A coroutine waits for its call, and the channel is destroyed; then the frame is destroyed before
the functor resumes it. -/
def droppedLate : List AwaitedChannelStep :=
  [.channel (.connectionUp 0), .channel (.beginCall awaitedCall 0),
    .channel (.resume false 0 []), .channel .destroy, .channel (.resume false 0 []),
    .channel (.resume false 0 []), .destroy 0]

/-- In the first run the call is pending without its storage, in the second one the destructor calls
the channel that is destroyed. -/
theorem call_without_storage : ∃ s s', (start 1 {}).run wireFormat droppedElsewhere = some s ∧
    s.Pending 0 ∧ (s.storages 0).phase = .gone ∧ ¬Sheltered s ∧
    (start 1 {}).run wireFormat droppedLate = some s' ∧ s'.channel.destroyed = true ∧
    s'.misused = true ∧ ¬Sheltered s' := by
  have hpending : ∀ s : AwaitedChannel, s.Pending 0 → (s.storages 0).phase = .gone →
      ¬Sheltered s := fun s hp hgone h => h.pending 0 hp hgone
  refine ⟨_, _, rfl, ⟨_, List.mem_cons_self, rfl, rfl⟩, rfl, ?_, rfl, rfl, rfl, ?_⟩
  · exact hpending _ ⟨_, List.mem_cons_self, rfl, rfl⟩ rfl
  · intro h
    cases h.unused

end AwaitedChannel

end NebulaRpc.Rpc
