import Mathlib.Data.Set.Function
import NebulaRpc.Rpc.Nesting

/-!
# The timers and the closures of pending calls

A pending call with a deadline has one timer, and a pending callback call with a controller has one
cancel closure in it until `StartCancel` takes it. The call that is being registered has its token
still on the stack, and its timer not at all.
-/

namespace NebulaRpc.Rpc

/-- What a controller keeps of cancel closures. -/
def RpcController.hooks (c : RpcController) : List (Int × UInt64) × Bool × Int :=
  (c.cancelCallbacks, c.cancelRequested, c.nextCancelToken)

/-- The timers and the closures are the same. -/
structure ChannelEnv.Alike (e e' : ChannelEnv) : Prop where
  timers : e'.timers = e.timers
  nextTimer : e'.nextTimer = e.nextTimer
  hooks : ∀ c, (e'.controllers c).hooks = (e.controllers c).hooks

namespace ChannelEnv

variable {e e' e'' : ChannelEnv}

theorem Alike.refl (e : ChannelEnv) : Alike e e := ⟨rfl, rfl, fun _ => rfl⟩

theorem Alike.trans (h : Alike e e') (h' : Alike e' e'') : Alike e e'' :=
  ⟨h'.timers.trans h.timers, h'.nextTimer.trans h.nextTimer,
    fun c => (h'.hooks c).trans (h.hooks c)⟩

theorem controllers_updateController (e : ChannelEnv) (f : RpcController → RpcController)
    (controller : Option Nat) (c : Nat) :
    (e.updateController f controller).controllers c =
      if controller = some c then f (e.controllers c) else e.controllers c := by
  cases controller with
  | none => simp [updateController]
  | some c' =>
    by_cases hc : c' = c
    · subst hc
      simp [updateController]
    · simp [updateController, hc, Function.update_of_ne (Ne.symm hc)]

@[simp]
theorem timers_updateController (e : ChannelEnv) (f : RpcController → RpcController)
    (controller : Option Nat) : (e.updateController f controller).timers = e.timers := by
  cases controller <;> rfl

@[simp]
theorem nextTimer_updateController (e : ChannelEnv) (f : RpcController → RpcController)
    (controller : Option Nat) : (e.updateController f controller).nextTimer = e.nextTimer := by
  cases controller <;> rfl

/-- An update that leaves the closures alone. -/
theorem Alike.updateController (e : ChannelEnv) (f : RpcController → RpcController)
    (hf : ∀ x, (f x).hooks = x.hooks) (controller : Option Nat) :
    Alike e (e.updateController f controller) := by
  refine ⟨timers_updateController .., nextTimer_updateController .., fun c => ?_⟩
  rw [controllers_updateController]
  split
  · exact hf _
  · rfl

theorem Alike.applyFailure (e : ChannelEnv) (controller : Option Nat) (reason : List UInt8)
    (state : RpcCallState) : Alike e (e.applyFailure controller reason state) := by
  apply Alike.trans
  · exact .updateController e (·.setFailed reason) (fun _ => rfl) controller
  · exact .updateController _ (·.markCallState state) (fun _ => rfl) controller

theorem Alike.record (e : ChannelEnv) (call : PendingCall) (state : RpcCallState) :
    Alike e (e.record call state) := ⟨rfl, rfl, fun _ => rfl⟩

theorem Alike.setRemoteErrorCode (e : ChannelEnv) (call : PendingCall) (code : Int32) :
    Alike e (e.setRemoteErrorCode call code) := by
  unfold ChannelEnv.setRemoteErrorCode
  split
  · exact ⟨rfl, rfl, fun _ => rfl⟩
  · exact .refl e

theorem Alike.applyFrame (e : ChannelEnv) (call : PendingCall) (frame : RpcFrame) :
    Alike e (e.applyFrame call frame) := by
  have hfailed : ∀ text, Alike e (e.updateController (·.setFailed text) call.controller) :=
    fun text => .updateController e (·.setFailed text) (fun _ => rfl) call.controller
  unfold ChannelEnv.applyFrame
  split
  · exact hfailed _
  · split
    · exact hfailed _
    · split
      · exact ⟨rfl, rfl, fun _ => rfl⟩
      · exact hfailed _

/-- The end of a call leaves the resources alone once they are released. -/
theorem Alike.finish (e : ChannelEnv) (call : PendingCall) (ending : Ending) :
    Alike e (e.finish call ending) := by
  cases ending with
  | frame frame =>
    apply Alike.trans _ (.applyFrame _ call frame)
    apply Alike.trans _ (.updateController _ (·.markCallState .completed) (fun _ => rfl)
      call.controller)
    exact (Alike.record e call _).trans (.setRemoteErrorCode _ call _)
  | failure reason state => exact (Alike.record e call state).trans (.applyFailure _ _ _ _)
  | cancel =>
    exact (Alike.record e call .cancelled).trans
      (.updateController _ (·.markCanceled) (fun _ => rfl) call.controller)

theorem timers_cancelTimer (e : ChannelEnv) (timer : Option Nat) :
    (e.cancelTimer timer).timers = e.timers.filter (timer ≠ some ·.1) := by
  cases timer with
  | none => simp [cancelTimer]
  | some t => simp [cancelTimer, eq_comm]

theorem nextTimer_cancelTimer (e : ChannelEnv) (timer : Option Nat) :
    (e.cancelTimer timer).nextTimer = e.nextTimer := by
  cases timer <;> rfl

theorem controllers_cancelTimer (e : ChannelEnv) (timer : Option Nat) :
    (e.cancelTimer timer).controllers = e.controllers := by
  cases timer <;> rfl

theorem timers_release (e : ChannelEnv) (call : PendingCall) :
    (e.release call).timers = e.timers.filter (call.timeoutTimer ≠ some ·.1) := by
  unfold release
  dsimp only
  split
  · rw [timers_updateController, timers_cancelTimer]
  · rw [timers_cancelTimer]

theorem nextTimer_release (e : ChannelEnv) (call : PendingCall) :
    (e.release call).nextTimer = e.nextTimer := by
  unfold release
  dsimp only
  split
  · rw [nextTimer_updateController, nextTimer_cancelTimer]
  · rw [nextTimer_cancelTimer]

/-- The closure of the call is taken out of its controller. -/
theorem hooks_release (e : ChannelEnv) (call : PendingCall) (c : Nat) :
    ((e.release call).controllers c).hooks =
      if 0 ≤ call.cancelToken ∧ call.controller = some c then
        ((e.controllers c).removeOnCancel call.cancelToken).hooks
      else (e.controllers c).hooks := by
  unfold release
  dsimp only
  by_cases htoken : 0 ≤ call.cancelToken
  · rw [if_pos htoken, controllers_updateController, controllers_cancelTimer]
    simp only [htoken, true_and]
    split <;> rfl
  · simp [htoken, controllers_cancelTimer]

/-- The next token of every controller. -/
def tokens (e : ChannelEnv) (c : Nat) : Int := (e.controllers c).nextCancelToken

theorem Alike.tokens_eq (h : Alike e e') : e'.tokens = e.tokens :=
  funext fun c => congrArg (·.2.2) (h.hooks c)

theorem tokens_updateController (e : ChannelEnv) (f : RpcController → RpcController)
    (hf : ∀ x, (f x).nextCancelToken = x.nextCancelToken) (controller : Option Nat) :
    (e.updateController f controller).tokens = e.tokens := by
  funext c
  rw [tokens, tokens, controllers_updateController]
  split
  · exact hf _
  · rfl

/-- A token that does not overflow is the next one of its controller. -/
theorem wrap32_nextCancelToken {e : ChannelEnv} {c : Nat} {id : UInt64}
    (hnonneg : 0 ≤ (e.controllers c).nextCancelToken)
    (hle : (e.updateController (fun x => (x.registerOnCancel id).2) (some c)).tokens c ≤ 2 ^ 31) :
    wrap32 (e.controllers c).nextCancelToken = (e.controllers c).nextCancelToken := by
  rw [tokens, controllers_updateController, if_pos rfl] at hle
  exact wrap32_of_lt hnonneg (Int.lt_of_add_one_le hle)

theorem tokens_release (e : ChannelEnv) (call : PendingCall) : (e.release call).tokens = e.tokens := by
  funext c
  have hhooks := hooks_release e call c
  split at hhooks
  · exact congrArg (·.2.2) hhooks
  · exact congrArg (·.2.2) hhooks

end ChannelEnv

namespace RpcChannel

variable {s s₀ s₁ s' : RpcChannel} {F : MetaFormat} {a : ChannelStep}

/-! ## The call that is being registered -/

/-- The token of the call with this id, when it is the one that is being registered. -/
def registeringOf (s : RpcChannel) (id : UInt64) : Option Int :=
  (s.registering.filter (·.1 = id)).map (·.2)

/-- The token of a pending call, also when it is still on the stack. -/
def token (s : RpcChannel) (p : UInt64 × PendingCall) : Int :=
  (s.registeringOf p.1).getD p.2.cancelToken

theorem registeringOf_eq_none {id : UInt64} (h : ∀ r ∈ s.registering, r.1 ≠ id) :
    s.registeringOf id = none := by
  cases hr : s.registering with
  | none => simp [registeringOf, hr]
  | some r => simp [registeringOf, hr, h r hr]

theorem registeringOf_registered {id : UInt64} {token : Int} {bytes : List UInt8}
    {stack : List ChannelFrame} (h : s.stack = .registered id token bytes :: stack) :
    s.registeringOf id = some token := by
  simp [registeringOf, registering, h, ChannelFrame.registering]

theorem registeringOf_of_ne {id id' : UInt64} {token : Int} {bytes : List UInt8}
    {stack : List ChannelFrame} (h : s.stack = .registered id token bytes :: stack) (hne : id' ≠ id) :
    s.registeringOf id' = none := by
  apply registeringOf_eq_none
  intro r hr
  rw [registering_cons h] at hr
  cases hr
  exact hne.symm

/-- Registrations of calls that are not pending do not matter. -/
theorem registeringOf_eq (h : ∀ r ∈ s.registering, r.1 ∉ s.keys)
    (h' : ∀ r ∈ s'.registering, r.1 ∉ s.keys) :
    ∀ id ∈ s.keys, s'.registeringOf id = s.registeringOf id := by
  intro id hid
  rw [registeringOf_eq_none, registeringOf_eq_none]
  · rintro r hr rfl
    exact h r hr hid
  · rintro r hr rfl
    exact h' r hr hid

theorem registeringOf_congr (h : s'.stack = s.stack) (id : UInt64) :
    s'.registeringOf id = s.registeringOf id := by
  simp only [registeringOf, registering, h]

/-- Two entries of the map with one id are one entry. -/
theorem pending_unique (h : s.keys.Nodup) {id : UInt64} {call call' : PendingCall}
    (hmem : (id, call) ∈ s.pendingCalls) (hmem' : (id, call') ∈ s.pendingCalls) : call = call' :=
  congrArg Prod.snd (List.inj_on_of_nodup_map h hmem hmem' rfl)

/-! ## Timers -/

/-- The timeout timers are those of the pending calls with a deadline, except for the call that is
being registered. -/
structure Timed (s : RpcChannel) : Prop where
  nodup : (s.env.timers.map (·.1)).Nodup
  lt : ∀ x ∈ s.env.timers, x.1 < s.env.nextTimer
  heartbeat : ∀ t ∈ s.heartbeatTimer, t < s.env.nextTimer ∧ ∀ id, (t, .timeout id) ∉ s.env.timers
  timers : ∀ t id, (t, .timeout id) ∈ s.env.timers ↔
    ∃ p ∈ s.pendingCalls, p.1 = id ∧ p.2.timeoutTimer = some t
  deadlines : ∀ p ∈ s.pendingCalls,
    p.2.timeoutTimer.isSome ↔ p.2.deadline.isSome ∧ s.registeringOf p.1 = none
  queued : ∀ id bytes call, .registerAndSend id bytes call ∈ s.functors → call.timeoutTimer = none

namespace Timed

theorem timer_unique (h : Timed s) {t : Nat} {kind kind' : ChannelTimer}
    (hmem : (t, kind) ∈ s.env.timers) (hmem' : (t, kind') ∈ s.env.timers) : kind = kind' :=
  congrArg Prod.snd (List.inj_on_of_nodup_map h.nodup hmem hmem' rfl)

theorem of_eq (h : Timed s) (hpending : s'.pendingCalls = s.pendingCalls)
    (hqueued : ∀ id bytes call, .registerAndSend id bytes call ∈ s'.functors →
      call.timeoutTimer = none)
    (hregistering : ∀ id ∈ s.keys, s'.registeringOf id = s.registeringOf id)
    (htimers : s'.env.timers = s.env.timers) (hnext : s'.env.nextTimer = s.env.nextTimer)
    (hheartbeat : s'.heartbeatTimer = s.heartbeatTimer) : Timed s' where
  nodup := htimers ▸ h.nodup
  lt := htimers ▸ hnext ▸ h.lt
  heartbeat := htimers ▸ hnext ▸ hheartbeat ▸ h.heartbeat
  timers := htimers ▸ hpending ▸ h.timers
  deadlines p hp := by
    rw [hpending] at hp
    rw [hregistering p.1 (List.mem_map_of_mem hp)]
    exact h.deadlines p hp
  queued := hqueued

/-- A timer that is not for a call is taken out. -/
theorem cancelTimer (h : Timed s) {timer : Option Nat}
    (htimer : ∀ t ∈ timer, ∀ id, (t, .timeout id) ∉ s.env.timers) {heartbeatTimer : Option Nat}
    (hheartbeat : ∀ t ∈ heartbeatTimer, t ∈ s.heartbeatTimer) :
    Timed { s with env := s.env.cancelTimer timer, heartbeatTimer := heartbeatTimer } := by
  have hsub : (s.env.cancelTimer timer).timers.Sublist s.env.timers := by
    rw [ChannelEnv.timers_cancelTimer]
    exact List.filter_sublist
  have hnext := s.env.nextTimer_cancelTimer timer
  refine ⟨h.nodup.sublist (hsub.map _), fun x hx => ?_, fun t ht => ?_, fun t id => ?_, h.deadlines,
    h.queued⟩
  · exact hnext ▸ h.lt x (hsub.subset hx)
  · obtain ⟨hlt, hnot⟩ := h.heartbeat t (hheartbeat t ht)
    exact ⟨hnext ▸ hlt, fun id hmem => hnot id (hsub.subset hmem)⟩
  · rw [← h.timers t id]
    refine ⟨fun hmem => hsub.subset hmem, fun hmem => ?_⟩
    show (t, ChannelTimer.timeout id) ∈ (s.env.cancelTimer timer).timers
    rw [ChannelEnv.timers_cancelTimer]
    refine List.mem_filter.mpr ⟨hmem, ?_⟩
    simp only [ne_eq, decide_eq_true_eq]
    rintro rfl
    exact htimer t rfl id hmem

theorem cancelHeartbeat (h : Timed s) : Timed s.cancelHeartbeat :=
  h.cancelTimer (fun t ht => (h.heartbeat t ht).2) (by simp)

theorem scheduleHeartbeat (h : Timed s) : Timed s.scheduleHeartbeat := by
  have h := h.cancelHeartbeat
  unfold RpcChannel.scheduleHeartbeat
  generalize s.cancelHeartbeat = s₁ at h ⊢
  have hnew : ∀ id, (s₁.env.nextTimer, ChannelTimer.timeout id) ∉ s₁.env.timers :=
    fun id hmem => (h.lt _ hmem).ne rfl
  refine ⟨?_, ?_, ?_, ?_, h.deadlines, h.queued⟩
  · simp only [ChannelEnv.setTimer, List.map_append, List.map_cons, List.map_nil]
    refine List.nodup_append'.mpr ⟨h.nodup, List.nodup_singleton _, ?_⟩
    refine List.disjoint_singleton.mpr fun hmem => ?_
    obtain ⟨x, hx, heq⟩ := List.mem_map.mp hmem
    exact (h.lt x hx).ne heq
  · intro x hx
    obtain hx | rfl := by simpa [ChannelEnv.setTimer] using hx
    · exact (h.lt x hx).trans (Nat.lt_succ_self _)
    · exact Nat.lt_succ_self _
  · rintro t ⟨⟩
    exact ⟨Nat.lt_succ_self _, fun id => by simpa [ChannelEnv.setTimer] using hnew id⟩
  · intro t id
    rw [← h.timers t id]
    simp [ChannelEnv.setTimer]

/-- A call is taken out together with its timer. -/
theorem finish (h : Timed s) (hnodup : s.keys.Nodup) {id : UInt64} {call : PendingCall}
    (hfind : s.findPending id = some call)
    (hpending : s'.pendingCalls = s.pendingCalls.filter (·.1 ≠ id))
    (hqueued : ∀ id bytes call, .registerAndSend id bytes call ∈ s'.functors →
      call.timeoutTimer = none)
    (hregistering : ∀ id ∈ s'.keys, s'.registeringOf id = s.registeringOf id)
    (htimers : s'.env.timers = s.env.timers.filter (call.timeoutTimer ≠ some ·.1))
    (hnext : s'.env.nextTimer = s.env.nextTimer)
    (hheartbeat : s'.heartbeatTimer = s.heartbeatTimer) : Timed s' := by
  have hcall := find_eq_some hfind
  have hsub : s'.env.timers.Sublist s.env.timers := htimers ▸ List.filter_sublist
  refine ⟨h.nodup.sublist (hsub.map _), fun x hx => hnext ▸ h.lt x (hsub.subset hx), ?_, ?_, ?_,
    hqueued⟩
  · intro t ht
    obtain ⟨hlt, hnot⟩ := h.heartbeat t (hheartbeat ▸ ht)
    exact ⟨hnext ▸ hlt, fun id hmem => hnot id (hsub.subset hmem)⟩
  · intro t id'
    simp only [htimers, hpending, List.mem_filter, ne_eq, decide_eq_true_eq]
    rw [h.timers t id']
    constructor
    · rintro ⟨⟨⟨_, call'⟩, hmem, rfl, htimer⟩, hne⟩
      refine ⟨_, ⟨hmem, ?_⟩, rfl, htimer⟩
      rintro rfl
      exact hne (pending_unique hnodup hcall hmem ▸ htimer)
    · rintro ⟨p, ⟨hmem, hne⟩, rfl, htimer⟩
      refine ⟨⟨p, hmem, rfl, htimer⟩, fun heq => hne ?_⟩
      have hmine := (h.timers t id).mpr ⟨_, hcall, rfl, heq⟩
      have hother := (h.timers t p.1).mpr ⟨p, hmem, rfl, htimer⟩
      exact ChannelTimer.timeout.inj (h.timer_unique hother hmine)
  · intro p hp
    rw [hregistering p.1 (List.mem_map_of_mem hp)]
    rw [hpending] at hp
    exact h.deadlines p (List.mem_of_mem_filter hp)

/-- A call goes into the map, without a timer. -/
theorem insert (h : Timed s) {id : UInt64} {bytes : List UInt8} {call : PendingCall} {token : Int}
    (hnew : id ∉ s.keys) (hregistering : s.registering = none) (hcall : call.timeoutTimer = none)
    (hpending : s'.pendingCalls = s.pendingCalls ++ [(id, call)])
    (hqueued : ∀ id bytes call, .registerAndSend id bytes call ∈ s'.functors →
      call.timeoutTimer = none)
    (hstack : s'.stack = .registered id token bytes :: s.stack)
    (htimers : s'.env.timers = s.env.timers) (hnext : s'.env.nextTimer = s.env.nextTimer)
    (hheartbeat : s'.heartbeatTimer = s.heartbeatTimer) : Timed s' := by
  refine ⟨htimers ▸ h.nodup, htimers ▸ hnext ▸ h.lt, htimers ▸ hnext ▸ hheartbeat ▸ h.heartbeat, ?_,
    ?_, hqueued⟩
  · intro t id'
    rw [htimers, hpending, h.timers t id']
    constructor
    · rintro ⟨p, hmem, hp⟩
      exact ⟨p, List.mem_append_left _ hmem, hp⟩
    · rintro ⟨p, hmem, hp⟩
      obtain hmem | heq := List.mem_append.mp hmem
      · exact ⟨p, hmem, hp⟩
      · cases List.mem_singleton.mp heq
        simp [hcall] at hp
  · intro p hp
    rw [hpending] at hp
    obtain hp | heq := List.mem_append.mp hp
    · have hne : p.1 ≠ id := fun heq => hnew (heq ▸ List.mem_map_of_mem hp)
      have hnone : s.registeringOf p.1 = none :=
        registeringOf_eq_none fun r hr => by simp [hregistering] at hr
      have hdeadline := h.deadlines p hp
      rw [hnone] at hdeadline
      rw [registeringOf_of_ne hstack hne]
      exact hdeadline
    · obtain rfl := List.mem_singleton.mp heq
      simp [registeringOf_registered hstack, hcall]

end Timed

/-- A registered call with its token and its timer. -/
def stored (s : RpcChannel) (id : UInt64) (token : Int) (call : PendingCall)
    (p : UInt64 × PendingCall) : UInt64 × PendingCall :=
  if p.1 = id then
    (p.1, { p.2 with
      cancelToken := token
      timeoutTimer := if call.deadline.isSome then some s.env.nextTimer else p.2.timeoutTimer })
  else p

/-- What `store` does to the map and to the timers. -/
theorem store_spec (s : RpcChannel) (id : UInt64) (token : Int) (bytes : List UInt8)
    (call : PendingCall) :
    ∃ e : ChannelEnv, s.store id token bytes call =
        { s with pendingCalls := s.pendingCalls.map (s.stored id token call), env := e } ∧
      (∀ c, (e.controllers c).hooks = (s.env.controllers c).hooks) ∧
      (if call.deadline.isSome then
        e.timers = s.env.timers ++ [(s.env.nextTimer, .timeout id)] ∧
          e.nextTimer = s.env.nextTimer + 1
      else e.timers = s.env.timers ∧ e.nextTimer = s.env.nextTimer) := by
  have hassign : ∃ e : ChannelEnv, s.assign id token call =
        { s with pendingCalls := s.pendingCalls.map (s.stored id token call), env := e } ∧
      (∀ c, (e.controllers c).hooks = (s.env.controllers c).hooks) ∧
      (if call.deadline.isSome then
        e.timers = s.env.timers ++ [(s.env.nextTimer, .timeout id)] ∧
          e.nextTimer = s.env.nextTimer + 1
      else e.timers = s.env.timers ∧ e.nextTimer = s.env.nextTimer) := by
    unfold assign registerTimeoutTimer
    cases hdeadline : call.deadline.isSome with
    | true =>
      refine ⟨(s.env.setTimer (.timeout id)).2, ?_, fun _ => rfl, ?_⟩
      · simp only [if_true, modifyPending, ChannelEnv.setTimer, List.map_map]
        congr 2
        funext p
        by_cases hp : p.1 = id <;> simp [stored, hp, hdeadline]
      · simp [ChannelEnv.setTimer]
    | false =>
      refine ⟨s.env, ?_, fun _ => rfl, by simp⟩
      simp only [Bool.false_eq_true, if_false, modifyPending]
      congr 2
      funext p
      by_cases hp : p.1 = id <;> simp [stored, hp, hdeadline]
  obtain ⟨e, heq, hhooks, htimers⟩ := hassign
  unfold store
  rw [heq]
  dsimp only
  split
  · exact ⟨{ e with written := e.written ++ [(_, bytes)] }, rfl, hhooks, htimers⟩
  · exact ⟨e, rfl, hhooks, htimers⟩

section Stored

variable {id : UInt64} {token : Int} {call : PendingCall} {p : UInt64 × PendingCall}

@[simp]
theorem fst_stored : (s.stored id token call p).1 = p.1 := by
  unfold stored
  split <;> rfl

theorem snd_stored_of_ne (h : p.1 ≠ id) : (s.stored id token call p).2 = p.2 := by
  simp [stored, h]

theorem snd_stored_of_eq (h : p.1 = id) : (s.stored id token call p).2 = { p.2 with
    cancelToken := token
    timeoutTimer := if call.deadline.isSome then some s.env.nextTimer else p.2.timeoutTimer } := by
  simp [stored, h]

end Stored

/-- A call that was being registered has its timer, if it has a deadline. -/
theorem Timed.store (h : Timed s) (hnodup : s.keys.Nodup) {id : UInt64} {token : Int}
    {bytes : List UInt8} {call : PendingCall} {stack : List ChannelFrame}
    (hstack : s.stack = .registered id token bytes :: stack)
    (hfind : s.findPending id = some call)
    (hregistering : ({ s with stack := stack } : RpcChannel).registering = none) :
    Timed ({ s with stack := stack }.store id token bytes call) := by
  obtain ⟨e, heq, -, htimers⟩ := store_spec { s with stack := stack } id token bytes call
  rw [heq]
  have hcall := find_eq_some hfind
  have hnone : ∀ (s' : RpcChannel), s'.stack = stack → ∀ id', s'.registeringOf id' = none := by
    intro s' hs' id'
    rw [registeringOf_congr (s := { s with stack := stack }) hs']
    exact registeringOf_eq_none fun r hr => by simp [hregistering] at hr
  have hmine : call.timeoutTimer = none := by
    have hdeadline := h.deadlines _ hcall
    rw [registeringOf_registered hstack] at hdeadline
    simpa using hdeadline
  have hothers : ∀ p ∈ s.pendingCalls, p.1 ≠ id →
      (p.2.timeoutTimer.isSome ↔ p.2.deadline.isSome) := by
    intro p hp hne
    have hdeadline := h.deadlines p hp
    simpa [registeringOf_of_ne hstack hne] using hdeadline
  have hown : ∀ p ∈ s.pendingCalls, p.1 = id → p.2 = call := by
    rintro ⟨id', call'⟩ hp rfl
    exact pending_unique hnodup hp hcall
  have hdeadlines : ∀ p ∈ s.pendingCalls,
      ((stored { s with stack := stack } id token call p).2.timeoutTimer.isSome ↔
        (stored { s with stack := stack } id token call p).2.deadline.isSome) := by
    intro p hp
    by_cases hp₁ : p.1 = id
    · rw [snd_stored_of_eq hp₁, hown p hp hp₁]
      cases call.deadline.isSome <;> simp [hmine]
    · rw [snd_stored_of_ne hp₁]
      exact hothers p hp hp₁
  have hpending : ∀ p' ∈ s.pendingCalls.map (stored { s with stack := stack } id token call),
      p'.2.timeoutTimer.isSome ↔ p'.2.deadline.isSome ∧
        ({ s with
          stack := stack
          pendingCalls := s.pendingCalls.map (stored { s with stack := stack } id token call)
          env := e } : RpcChannel).registeringOf p'.1 = none := by
    intro p' hp'
    obtain ⟨p, hp, rfl⟩ := List.mem_map.mp hp'
    rw [hdeadlines p hp, hnone _ rfl, and_iff_left rfl]
  cases hdeadline : call.deadline.isSome with
  | false =>
    simp only [hdeadline, Bool.false_eq_true, if_false] at htimers
    refine ⟨htimers.1 ▸ h.nodup, htimers.1 ▸ htimers.2 ▸ h.lt, htimers.1 ▸ htimers.2 ▸ h.heartbeat,
      ?_, hpending, h.queued⟩
    intro t id'
    simp only [htimers.1, List.mem_map, exists_exists_and_eq_and, fst_stored]
    rw [h.timers t id']
    refine exists_congr fun p => and_congr_right fun hp => and_congr_right fun _ => ?_
    by_cases hp₁ : p.1 = id
    · simp [snd_stored_of_eq hp₁, hdeadline]
    · rw [snd_stored_of_ne hp₁]
  | true =>
    simp only [hdeadline, if_true] at htimers
    have hgrow : ∀ x ∈ e.timers, x ∈ s.env.timers ∨ x = (s.env.nextTimer, .timeout id) := by
      intro x hx
      simpa [htimers.1] using hx
    refine ⟨?_, ?_, ?_, ?_, hpending, h.queued⟩
    · show (e.timers.map (·.1)).Nodup
      rw [htimers.1, List.map_append]
      refine List.nodup_append'.mpr ⟨h.nodup, List.nodup_singleton _, ?_⟩
      refine List.disjoint_singleton.mpr fun hmem => ?_
      obtain ⟨x, hx, hx₁⟩ := List.mem_map.mp hmem
      exact (h.lt x hx).ne hx₁
    · intro x hx
      show x.1 < e.nextTimer
      rw [htimers.2]
      obtain hx | rfl := hgrow x hx
      · exact (h.lt x hx).trans (Nat.lt_succ_self _)
      · exact Nat.lt_succ_self _
    · intro t ht
      obtain ⟨hlt, hnot⟩ := h.heartbeat t ht
      refine ⟨htimers.2 ▸ hlt.trans (Nat.lt_succ_self _), fun id' hmem => ?_⟩
      obtain hmem | heq := hgrow _ hmem
      · exact hnot id' hmem
      · exact hlt.ne (congrArg Prod.fst heq)
    · intro t id'
      simp only [htimers.1, List.mem_map, exists_exists_and_eq_and, fst_stored, List.mem_append,
        List.mem_singleton, Prod.mk.injEq, ChannelTimer.timeout.injEq]
      rw [h.timers t id']
      constructor
      · rintro (⟨p, hp, rfl, htimer⟩ | ⟨rfl, rfl⟩)
        · have hne : p.1 ≠ id := fun hp₁ => by simp [hown p hp hp₁, hmine] at htimer
          exact ⟨p, hp, rfl, (congrArg _ (snd_stored_of_ne hne)).trans htimer⟩
        · exact ⟨_, hcall, rfl, by simp [snd_stored_of_eq, hdeadline]⟩
      · rintro ⟨p, hp, rfl, htimer⟩
        by_cases hp₁ : p.1 = id
        · simp only [snd_stored_of_eq hp₁, hdeadline, if_true, Option.some.injEq] at htimer
          exact .inr ⟨htimer.symm, hp₁⟩
        · rw [snd_stored_of_ne hp₁] at htimer
          exact .inl ⟨p, hp, rfl, htimer⟩

/-! ## Closures -/

/-- The closures in the controllers are those of pending callback calls, under their tokens. -/
structure Hooked (s : RpcChannel) : Prop where
  nodup : ∀ c, ((s.env.controllers c).cancelCallbacks.map (·.1)).Nodup
  nonneg : ∀ c, 0 ≤ (s.env.controllers c).nextCancelToken ∧
    ∀ x ∈ (s.env.controllers c).cancelCallbacks, 0 ≤ x.1
  closures : ∀ c, ∀ x ∈ (s.env.controllers c).cancelCallbacks, ∃ p ∈ s.pendingCalls,
    p.1 = x.2 ∧ p.2.coroutine = false ∧ p.2.controller = some c ∧ s.token p = x.1
  held : ∀ p ∈ s.pendingCalls, 0 ≤ s.token p → p.2.coroutine = false ∧
    ∃ c, p.2.controller = some c ∧ ((s.token p, p.1) ∈ (s.env.controllers c).cancelCallbacks ∨
      (s.env.controllers c).cancelRequested = true)
  lt : ∀ p ∈ s.pendingCalls, ∀ c ∈ p.2.controller, s.token p < (s.env.controllers c).nextCancelToken
  unique : ∀ p ∈ s.pendingCalls, ∀ q ∈ s.pendingCalls, p.2.controller = q.2.controller →
    s.token p = s.token q → 0 ≤ s.token p → p.1 = q.1
  unassigned : ∀ p ∈ s.pendingCalls, (s.registeringOf p.1).isSome → p.2.cancelToken = -1
  queued : ∀ id bytes call, .registerAndSend id bytes call ∈ s.functors → call.cancelToken = -1

namespace Hooked

theorem hooks_eq {c c' : RpcController} (h : c.hooks = c'.hooks) :
    c.cancelCallbacks = c'.cancelCallbacks ∧ c.cancelRequested = c'.cancelRequested ∧
      c.nextCancelToken = c'.nextCancelToken := by
  simpa [RpcController.hooks] using h

/-- The pending calls keep their controllers and their tokens. -/
theorem of_map (h : Hooked s) {f : UInt64 × PendingCall → UInt64 × PendingCall}
    (hpending : s'.pendingCalls = s.pendingCalls.map f)
    (hf : ∀ p ∈ s.pendingCalls, (f p).1 = p.1 ∧ (f p).2.coroutine = p.2.coroutine ∧
      (f p).2.controller = p.2.controller ∧ s'.token (f p) = s.token p)
    (hunassigned : ∀ p ∈ s.pendingCalls, (s'.registeringOf p.1).isSome → (f p).2.cancelToken = -1)
    (hqueued : ∀ id bytes call, .registerAndSend id bytes call ∈ s'.functors →
      call.cancelToken = -1)
    (hhooks : ∀ c, (s'.env.controllers c).hooks = (s.env.controllers c).hooks) : Hooked s' := by
  have hcallbacks := fun c => (hooks_eq (hhooks c)).1
  have hrequested := fun c => (hooks_eq (hhooks c)).2.1
  have hnext := fun c => (hooks_eq (hhooks c)).2.2
  refine ⟨?_, ?_, ?_, ?_, ?_, ?_, ?_, hqueued⟩
  · intro c
    rw [hcallbacks]
    exact h.nodup c
  · intro c
    rw [hcallbacks, hnext]
    exact h.nonneg c
  · intro c x hx
    rw [hcallbacks] at hx
    obtain ⟨p, hp, hp₁, hcoroutine, hcontroller, htoken⟩ := h.closures c x hx
    obtain ⟨hf₁, hf₂, hf₃, hf₄⟩ := hf p hp
    exact ⟨f p, hpending ▸ List.mem_map_of_mem hp, hf₁.trans hp₁, hf₂.trans hcoroutine,
      hf₃.trans hcontroller, hf₄.trans htoken⟩
  · intro p' hp'
    rw [hpending] at hp'
    obtain ⟨p, hp, rfl⟩ := List.mem_map.mp hp'
    obtain ⟨hf₁, hf₂, hf₃, hf₄⟩ := hf p hp
    rw [hf₁, hf₂, hf₃, hf₄]
    intro hnonneg
    obtain ⟨hcoroutine, c, hcontroller, hheld⟩ := h.held p hp hnonneg
    exact ⟨hcoroutine, c, hcontroller, by rwa [hcallbacks, hrequested]⟩
  · intro p' hp'
    rw [hpending] at hp'
    obtain ⟨p, hp, rfl⟩ := List.mem_map.mp hp'
    obtain ⟨-, -, hf₃, hf₄⟩ := hf p hp
    rw [hf₃, hf₄]
    intro c hc
    rw [hnext]
    exact h.lt p hp c hc
  · intro p' hp' q' hq'
    rw [hpending] at hp' hq'
    obtain ⟨p, hp, rfl⟩ := List.mem_map.mp hp'
    obtain ⟨q, hq, rfl⟩ := List.mem_map.mp hq'
    obtain ⟨hp₁, -, hp₃, hp₄⟩ := hf p hp
    obtain ⟨hq₁, -, hq₃, hq₄⟩ := hf q hq
    rw [hp₁, hp₃, hp₄, hq₁, hq₃, hq₄]
    exact h.unique p hp q hq
  · intro p' hp'
    rw [hpending] at hp'
    obtain ⟨p, hp, rfl⟩ := List.mem_map.mp hp'
    rw [(hf p hp).1]
    exact hunassigned p hp

theorem token_eq {p : UInt64 × PendingCall} (h : s'.registeringOf p.1 = s.registeringOf p.1) :
    s'.token p = s.token p := by
  rw [token, token, h]

theorem of_eq (h : Hooked s) (hpending : s'.pendingCalls = s.pendingCalls)
    (hqueued : ∀ id bytes call, .registerAndSend id bytes call ∈ s'.functors →
      call.cancelToken = -1)
    (hregistering : ∀ id ∈ s.keys, s'.registeringOf id = s.registeringOf id)
    (hhooks : ∀ c, (s'.env.controllers c).hooks = (s.env.controllers c).hooks) : Hooked s' := by
  apply h.of_map (f := id) (by simpa using hpending) _ _ hqueued hhooks
  · intro p hp
    exact ⟨rfl, rfl, rfl, token_eq (hregistering _ (List.mem_map_of_mem hp))⟩
  · intro p hp
    rw [hregistering _ (List.mem_map_of_mem hp)]
    exact h.unassigned p hp

/-- The closures of a controller are taken, or they are dropped while no pending call uses it. -/
theorem clear (h : Hooked s) {c : Nat} {x : RpcController} (hcallbacks : x.cancelCallbacks = [])
    (hnext : x.nextCancelToken = (s.env.controllers c).nextCancelToken)
    (hrequested : x.cancelRequested = true ∨ ∀ p ∈ s.pendingCalls, p.2.controller ≠ some c) :
    Hooked { s with
      env := { s.env with controllers := Function.update s.env.controllers c x } } := by
  have hsame : ∀ c', c' ≠ c → Function.update s.env.controllers c x c' = s.env.controllers c' :=
    fun c' hne => Function.update_of_ne hne _ _
  have hsub : ∀ c', (Function.update s.env.controllers c x c').cancelCallbacks.Sublist
      (s.env.controllers c').cancelCallbacks := by
    intro c'
    by_cases hc : c' = c
    · subst hc
      simp [hcallbacks]
    · rw [hsame c' hc]
  have hnexts : ∀ c', (Function.update s.env.controllers c x c').nextCancelToken =
      (s.env.controllers c').nextCancelToken := by
    intro c'
    by_cases hc : c' = c
    · subst hc
      simpa using hnext
    · rw [hsame c' hc]
  refine ⟨fun c' => (h.nodup c').sublist ((hsub c').map _), fun c' => ?_, fun c' y hy =>
    h.closures c' y ((hsub c').subset hy), fun p hp hnonneg => ?_, fun p hp c' hc' => ?_, h.unique,
    h.unassigned, h.queued⟩
  · exact ⟨(hnexts c').symm ▸ (h.nonneg c').1, fun y hy => (h.nonneg c').2 y ((hsub c').subset hy)⟩
  · obtain ⟨hcoroutine, c', hcontroller, hheld⟩ := h.held p hp hnonneg
    refine ⟨hcoroutine, c', hcontroller, ?_⟩
    by_cases hc : c' = c
    · subst hc
      refine hrequested.elim (fun hx => .inr (by simpa using hx)) fun hnone => ?_
      exact absurd hcontroller (hnone p hp)
    · show (_ ∈ (Function.update s.env.controllers c x c').cancelCallbacks ∨
        (Function.update s.env.controllers c x c').cancelRequested = true)
      rw [hsame c' hc]
      exact hheld
  · show s.token p < (Function.update s.env.controllers c x c').nextCancelToken
    rw [hnexts]
    exact h.lt p hp c' hc'

theorem eraseP_eq_filter {l : List (Int × UInt64)} (h : (l.map (·.1)).Nodup) (token : Int) :
    l.eraseP (·.1 = token) = l.filter (·.1 ≠ token) := by
  induction l with
  | nil => rfl
  | cons x l ih =>
    obtain ⟨hx, hl⟩ := List.nodup_cons.mp h
    by_cases htoken : x.1 = token
    · subst htoken
      have hrest : l.filter (·.1 ≠ x.1) = l := by
        rw [List.filter_eq_self]
        intro y hy
        have hne : y.1 ≠ x.1 := fun heq => hx (List.mem_map.mpr ⟨y, hy, heq⟩)
        simpa using hne
      simpa using hrest.symm
    · simpa [htoken] using ih hl

/-- A call is taken out together with its closure. -/
theorem finish (h : Hooked s) (hnodup : s.keys.Nodup) {id : UInt64} {call : PendingCall}
    (hfind : s.findPending id = some call)
    (hown : ∀ token, s.registeringOf id = some token → token = -1)
    (hpending : s'.pendingCalls = s.pendingCalls.filter (·.1 ≠ id))
    (hqueued : ∀ id bytes call, .registerAndSend id bytes call ∈ s'.functors →
      call.cancelToken = -1)
    (hregistering : ∀ id ∈ s'.keys, s'.registeringOf id = s.registeringOf id)
    (hhooks : ∀ c, (s'.env.controllers c).hooks =
      if 0 ≤ call.cancelToken ∧ call.controller = some c then
        ((s.env.controllers c).removeOnCancel call.cancelToken).hooks
      else (s.env.controllers c).hooks) : Hooked s' := by
  have hcall := find_eq_some hfind
  have htoken : s.token (id, call) = call.cancelToken := by
    cases hr : s.registeringOf id with
    | none => simp [token, hr]
    | some token =>
      have hminus : call.cancelToken = -1 := h.unassigned _ hcall (by simp [hr])
      simp [RpcChannel.token, hr, hown token hr, hminus]
  have hrest : ∀ c, (s'.env.controllers c).cancelRequested = (s.env.controllers c).cancelRequested ∧
      (s'.env.controllers c).nextCancelToken = (s.env.controllers c).nextCancelToken := by
    intro c
    have hc := hhooks c
    split at hc
    · exact (hooks_eq hc).2
    · exact (hooks_eq hc).2
  have hcallbacks : ∀ c x, x ∈ (s'.env.controllers c).cancelCallbacks ↔
      x ∈ (s.env.controllers c).cancelCallbacks ∧
        ¬(0 ≤ call.cancelToken ∧ call.controller = some c ∧ x.1 = call.cancelToken) := by
    intro c x
    have hc := hhooks c
    split at hc
    · next hcond =>
      rw [(hooks_eq hc).1]
      simp only [RpcController.removeOnCancel, eraseP_eq_filter (h.nodup c)]
      simp [hcond]
    · next hcond =>
      rw [(hooks_eq hc).1, ← and_assoc]
      simp [hcond]
  have hsub : ∀ c, (s'.env.controllers c).cancelCallbacks.Sublist
      (s.env.controllers c).cancelCallbacks := by
    intro c
    have hc := hhooks c
    split at hc
    · rw [(hooks_eq hc).1]
      exact List.eraseP_sublist
    · rw [(hooks_eq hc).1]
  have hmem : ∀ p ∈ s'.pendingCalls, p ∈ s.pendingCalls ∧ p.1 ≠ id ∧ s'.token p = s.token p := by
    intro p hp
    have hsame := token_eq (hregistering p.1 (List.mem_map_of_mem hp))
    rw [hpending] at hp
    obtain ⟨hp, hne⟩ := List.mem_filter.mp hp
    exact ⟨hp, by simpa using hne, hsame⟩
  refine ⟨fun c => (h.nodup c).sublist ((hsub c).map _), fun c => ?_, ?_, ?_, ?_, ?_, ?_, hqueued⟩
  · rw [(hrest c).2]
    exact ⟨(h.nonneg c).1, fun x hx => (h.nonneg c).2 x ((hsub c).subset hx)⟩
  · intro c x hx
    obtain ⟨hx, hkept⟩ := (hcallbacks c x).mp hx
    obtain ⟨p, hp, hp₁, hcoroutine, hcontroller, hp₂⟩ := h.closures c x hx
    have hne : p.1 ≠ id := by
      rintro rfl
      obtain rfl : call = p.2 := pending_unique hnodup hcall hp
      have hx₁ : x.1 = p.2.cancelToken := hp₂.symm.trans htoken
      exact hkept ⟨hx₁ ▸ (h.nonneg c).2 x hx, hcontroller, hx₁⟩
    have hp' : p ∈ s'.pendingCalls := hpending ▸ List.mem_filter.mpr ⟨hp, by simpa using hne⟩
    exact ⟨p, hp', hp₁, hcoroutine, hcontroller, (hmem p hp').2.2.trans hp₂⟩
  · intro p hp'
    obtain ⟨hp, hne, hsame⟩ := hmem p hp'
    rw [hsame]
    intro hnonneg
    obtain ⟨hcoroutine, c, hcontroller, hheld⟩ := h.held p hp hnonneg
    refine ⟨hcoroutine, c, hcontroller, ?_⟩
    rw [hcallbacks, (hrest c).1]
    refine hheld.imp_left fun hx => ⟨hx, ?_⟩
    rintro ⟨-, hcall₂, hx₁⟩
    exact hne (h.unique p hp _ hcall (hcontroller.trans hcall₂.symm) (hx₁.trans htoken.symm) hnonneg)
  · intro p hp' c hc
    obtain ⟨hp, -, hsame⟩ := hmem p hp'
    rw [hsame, (hrest c).2]
    exact h.lt p hp c hc
  · intro p hp' q hq'
    obtain ⟨hp, -, hp₁⟩ := hmem p hp'
    obtain ⟨hq, -, hq₁⟩ := hmem q hq'
    rw [hp₁, hq₁]
    exact h.unique p hp q hq
  · intro p hp'
    rw [hregistering p.1 (List.mem_map_of_mem hp')]
    exact h.unassigned p (hmem p hp').1

/-- A call goes into the map, and its closure into its controller. -/
theorem insert (h : Hooked s) {id : UInt64} {bytes : List UInt8} {call : PendingCall} {token : Int}
    (hnew : id ∉ s.keys) (hregistering : s.registering = none) (hcall : call.cancelToken = -1)
    (hpending : s'.pendingCalls = s.pendingCalls ++ [(id, call)])
    (hqueued : ∀ id bytes call, .registerAndSend id bytes call ∈ s'.functors →
      call.cancelToken = -1)
    (hstack : s'.stack = .registered id token bytes :: s.stack)
    (hregistered : token = -1 ∧ s'.env = s.env ∨
      ∃ c, call.coroutine = false ∧ call.controller = some c ∧
        token = wrap32 (s.env.controllers c).nextCancelToken ∧
        s'.env = s.env.updateController (fun x => (x.registerOnCancel id).2) (some c))
    (htokens : ∀ c, s'.env.tokens c ≤ 2 ^ 31) : Hooked s' := by
  have hwrap : ∀ c, s'.env = s.env.updateController (fun x => (x.registerOnCancel id).2) (some c) →
      wrap32 (s.env.controllers c).nextCancelToken = (s.env.controllers c).nextCancelToken :=
    fun c henv => ChannelEnv.wrap32_nextCancelToken (h.nonneg c).1 (henv ▸ htokens c)
  have hhooks : token = -1 ∧ s'.env = s.env ∨
      ∃ c, call.coroutine = false ∧ call.controller = some c ∧
        token = (s.env.controllers c).nextCancelToken ∧
        s'.env = s.env.updateController (fun x => (x.registerOnCancel id).2) (some c) := by
    refine hregistered.imp_right ?_
    rintro ⟨c, hcoroutine, hcontroller, htoken, henv⟩
    exact ⟨c, hcoroutine, hcontroller, htoken.trans (hwrap c henv), henv⟩
  have hold : ∀ p ∈ s.pendingCalls, s'.token p = s.token p := by
    intro p hp
    have hne : p.1 ≠ id := fun heq => hnew (heq ▸ List.mem_map_of_mem hp)
    apply token_eq
    rw [registeringOf_of_ne hstack hne, registeringOf_eq_none]
    simp [hregistering]
  have hthis : s'.token (id, call) = token := by
    simp [RpcChannel.token, registeringOf_registered hstack]
  have hmem : ∀ p ∈ s'.pendingCalls, p ∈ s.pendingCalls ∨ p = (id, call) := by
    intro p hp
    simpa [hpending] using hp
  have hunassigned : ∀ p ∈ s'.pendingCalls, (s'.registeringOf p.1).isSome → p.2.cancelToken = -1 := by
    intro p hp hsome
    obtain hp | rfl := hmem p hp
    · have hne : p.1 ≠ id := fun heq => hnew (heq ▸ List.mem_map_of_mem hp)
      simp [registeringOf_of_ne hstack hne] at hsome
    · exact hcall
  -- what the controllers hold, whether or not a closure was registered
  have hrequested : ∀ c, (s'.env.controllers c).cancelRequested =
      (s.env.controllers c).cancelRequested := by
    intro c'
    obtain ⟨-, henv⟩ | ⟨c, -, -, -, henv⟩ := hhooks
    · rw [henv]
    · rw [henv, ChannelEnv.controllers_updateController]
      split <;> rfl
  have hnext : ∀ c, (s.env.controllers c).nextCancelToken ≤ (s'.env.controllers c).nextCancelToken ∧
      (call.controller = some c → token < (s'.env.controllers c).nextCancelToken) := by
    intro c'
    have hnonneg := (h.nonneg c').1
    obtain ⟨rfl, henv⟩ | ⟨c, -, hcontroller, rfl, henv⟩ := hhooks
    · rw [henv]
      exact ⟨Int.le_refl _, fun _ => by omega⟩
    · rw [henv, ChannelEnv.controllers_updateController, hcontroller]
      by_cases hc : c = c'
      · subst hc
        simp only [if_true, RpcController.registerOnCancel]
        omega
      · simp [hc]
  have hcallbacks : ∀ c, (s'.env.controllers c).cancelCallbacks =
      (s.env.controllers c).cancelCallbacks ++
        if 0 ≤ token ∧ call.controller = some c then [(token, id)] else [] := by
    intro c'
    obtain ⟨rfl, henv⟩ | ⟨c, -, hcontroller, rfl, henv⟩ := hhooks
    · simp [henv]
    · have hnonneg := (h.nonneg c).1
      rw [henv, ChannelEnv.controllers_updateController, hcontroller]
      by_cases hc : c = c'
      · subst hc
        simp [RpcController.registerOnCancel, hnonneg, hwrap c henv]
      · simp [hc]
  have hfresh : ∀ c, 0 ≤ token → call.controller = some c → call.coroutine = false ∧
      token = (s.env.controllers c).nextCancelToken := by
    intro c' hnonneg hc'
    obtain ⟨rfl, -⟩ | ⟨c, hcoroutine, hcontroller, htoken, -⟩ := hhooks
    · omega
    · obtain rfl : c = c' := Option.some.inj (hcontroller.symm.trans hc')
      exact ⟨hcoroutine, htoken⟩
  have hcontroller : 0 ≤ token → ∃ c, call.controller = some c := by
    intro hnonneg
    obtain ⟨rfl, -⟩ | ⟨c, -, hcontroller, -⟩ := hhooks
    · omega
    · exact ⟨c, hcontroller⟩
  -- a token of a pending call is below that of the new one
  have hother : ∀ p ∈ s.pendingCalls, p.2.controller = call.controller → 0 ≤ token →
      s.token p ≠ token := by
    intro p hp hsame hnonneg
    obtain ⟨c, hc⟩ := hcontroller hnonneg
    have hlt := h.lt p hp c (hsame.trans hc)
    have hthis := (hfresh c hnonneg hc).2
    omega
  refine ⟨fun c => ?_, fun c => ⟨(h.nonneg c).1.trans (hnext c).1, fun x hx => ?_⟩, fun c x hx => ?_,
    fun p hp hnonneg => ?_, fun p hp c hc => ?_, fun p hp q hq hsame htoken hnonneg => ?_,
    hunassigned, hqueued⟩
  · rw [hcallbacks, List.map_append]
    refine List.nodup_append'.mpr ⟨h.nodup c, ?_, ?_⟩
    · split <;> simp
    · intro t ht ht'
      split at ht'
      · next hcond =>
        obtain rfl : t = token := by simpa using ht'
        obtain ⟨x, hx, rfl⟩ := List.mem_map.mp ht
        obtain ⟨p, hp, -, -, hp₂, hp₃⟩ := h.closures c x hx
        exact hother p hp (hp₂.trans hcond.2.symm) hcond.1 hp₃
      · simp at ht'
  · rw [hcallbacks] at hx
    obtain hx | hx := List.mem_append.mp hx
    · exact (h.nonneg c).2 x hx
    · split at hx
      · next hcond =>
        obtain rfl := List.mem_singleton.mp hx
        exact hcond.1
      · simp at hx
  · rw [hcallbacks] at hx
    obtain hx | hx := List.mem_append.mp hx
    · obtain ⟨p, hp, hp₁, hp₂, hp₃, hp₄⟩ := h.closures c x hx
      exact ⟨p, hpending ▸ List.mem_append_left _ hp, hp₁, hp₂, hp₃, (hold p hp).trans hp₄⟩
    · split at hx
      · next hcond =>
        obtain rfl := List.mem_singleton.mp hx
        exact ⟨(id, call), hpending ▸ List.mem_append_right _ (List.mem_singleton_self _), rfl,
          (hfresh c hcond.1 hcond.2).1, hcond.2, hthis⟩
      · simp at hx
  · obtain hp | rfl := hmem p hp
    · rw [hold p hp] at hnonneg ⊢
      obtain ⟨hcoroutine, c, hc, hheld⟩ := h.held p hp hnonneg
      refine ⟨hcoroutine, c, hc, ?_⟩
      rw [hcallbacks, hrequested]
      exact hheld.imp_left (List.mem_append_left _)
    · rw [hthis] at hnonneg ⊢
      obtain ⟨c, hc⟩ := hcontroller hnonneg
      refine ⟨(hfresh c hnonneg hc).1, c, hc, .inl ?_⟩
      rw [hcallbacks, if_pos ⟨hnonneg, hc⟩]
      exact List.mem_append_right _ (List.mem_singleton_self _)
  · obtain hp | rfl := hmem p hp
    · rw [hold p hp]
      exact (h.lt p hp c hc).trans_le (hnext c).1
    · rw [hthis]
      exact (hnext c).2 hc
  · obtain hp | rfl := hmem p hp <;> obtain hq | rfl := hmem q hq
    · rw [hold p hp, hold q hq] at htoken
      exact h.unique p hp q hq hsame htoken (hold p hp ▸ hnonneg)
    · rw [hold p hp, hthis] at htoken
      rw [hold p hp, htoken] at hnonneg
      exact absurd htoken (hother p hp hsame hnonneg)
    · rw [hold q hq, hthis] at htoken
      rw [hthis] at hnonneg
      exact absurd htoken.symm (hother q hq hsame.symm hnonneg)
    · rfl

/-- The token of a call that was being registered goes from the stack into the map. -/
theorem store (h : Hooked s) {id : UInt64} {token : Int} {bytes : List UInt8} {call : PendingCall}
    {stack : List ChannelFrame} (hstack : s.stack = .registered id token bytes :: stack)
    (hregistering : ({ s with stack := stack } : RpcChannel).registering = none) :
    Hooked ({ s with stack := stack }.store id token bytes call) := by
  obtain ⟨e, heq, hhooks, -⟩ := store_spec { s with stack := stack } id token bytes call
  rw [heq]
  have hnone : ∀ (s' : RpcChannel), s'.stack = stack → ∀ id', s'.registeringOf id' = none := by
    intro s' hs' id'
    rw [registeringOf_congr (s := { s with stack := stack }) hs']
    exact registeringOf_eq_none fun r hr => by simp [hregistering] at hr
  apply h.of_map rfl
  · intro p hp
    by_cases hp₁ : p.1 = id
    · refine ⟨fst_stored, ?_, ?_, ?_⟩
      · rw [snd_stored_of_eq hp₁]
      · rw [snd_stored_of_eq hp₁]
      · rw [RpcChannel.token, RpcChannel.token, hnone _ rfl, hp₁, registeringOf_registered hstack,
          snd_stored_of_eq hp₁]
        rfl
    · refine ⟨fst_stored, ?_, ?_, ?_⟩
      · rw [snd_stored_of_ne hp₁]
      · rw [snd_stored_of_ne hp₁]
      · rw [RpcChannel.token, RpcChannel.token, hnone _ rfl, registeringOf_of_ne hstack hp₁,
          snd_stored_of_ne hp₁]
  · intro p hp hsome
    rw [hnone _ rfl] at hsome
    cases hsome
  · exact h.queued
  · exact hhooks

end Hooked

/-! ## Every effect keeps them -/

/-- Timers and closures match the pending calls. -/
structure Resourced (s : RpcChannel) : Prop where
  timed : Timed s
  hooked : Hooked s

namespace Resourced

/-- The calls that are queued have neither a timer nor a token. -/
theorem queued (h : Resourced s)
    (hsub : ∀ id bytes call, .registerAndSend id bytes call ∈ s'.functors →
      .registerAndSend id bytes call ∈ s.functors) :
    ∀ id bytes call, .registerAndSend id bytes call ∈ s'.functors →
      call.timeoutTimer = none ∧ call.cancelToken = -1 := fun id bytes call hmem =>
  ⟨h.timed.queued id bytes call (hsub id bytes call hmem),
    h.hooked.queued id bytes call (hsub id bytes call hmem)⟩

theorem of_alike (h : Resourced s) (hpending : s'.pendingCalls = s.pendingCalls)
    (hqueued : ∀ id bytes call, .registerAndSend id bytes call ∈ s'.functors →
      call.timeoutTimer = none ∧ call.cancelToken = -1)
    (hregistering : ∀ id ∈ s.keys, s'.registeringOf id = s.registeringOf id)
    (henv : s.env.Alike s'.env) (hheartbeat : s'.heartbeatTimer = s.heartbeatTimer) :
    Resourced s' where
  timed := h.timed.of_eq hpending (fun id bytes call hmem => (hqueued id bytes call hmem).1)
    hregistering henv.timers henv.nextTimer hheartbeat
  hooked := h.hooked.of_eq hpending (fun id bytes call hmem => (hqueued id bytes call hmem).2)
    hregistering henv.hooks

/-- Nothing happens to the calls. -/
theorem of_eq (h : Resourced s) (hpending : s'.pendingCalls = s.pendingCalls)
    (hfunctors : s'.functors = s.functors) (hstack : s'.stack = s.stack)
    (henv : s.env.Alike s'.env) (hheartbeat : s'.heartbeatTimer = s.heartbeatTimer) :
    Resourced s' :=
  h.of_alike hpending (h.queued (hfunctors ▸ fun _ _ _ => id))
    (fun id _ => registeringOf_congr hstack id) henv hheartbeat

/-- The stack changes, but nothing about a pending call on it. -/
theorem restack (h : Resourced s) (hregistering : ∀ r ∈ s.registering, r.1 ∉ s.keys)
    {stack : List ChannelFrame}
    (hstack : ∀ r ∈ ({ s with stack := stack } : RpcChannel).registering, r.1 ∉ s.keys) :
    Resourced { s with stack := stack } :=
  h.of_alike rfl (h.queued fun _ _ _ => id) (registeringOf_eq hregistering hstack) (.refl _) rfl

theorem push (h : Resourced s) (hregistering : ∀ r ∈ s.registering, r.1 ∉ s.keys)
    {frame : ChannelFrame} (hframe : frame.registering = none) : Resourced (s.push frame) := by
  apply h.restack hregistering
  simp [registering, hframe]

theorem dequeue (h : Resourced s) (index : Nat) :
    Resourced { s with functors := s.functors.eraseIdx index } :=
  h.of_alike rfl (h.queued fun _ _ _ hmem => (List.eraseIdx_sublist _ _).subset hmem)
    (fun id _ => registeringOf_congr rfl id) (.refl _) rfl

theorem post (h : Resourced s) {functor : ChannelFunctor} (hkey : functor.key = none) :
    Resourced { s with functors := s.functors ++ [functor] } := by
  refine h.of_alike rfl (h.queued fun id bytes call hmem => ?_)
    (fun id _ => registeringOf_congr rfl id) (.refl _) rfl
  obtain hmem | heq := List.mem_append.mp hmem
  · exact hmem
  · rw [← List.mem_singleton.mp heq] at hkey
    cases hkey

theorem env (h : Resourced s) {e : ChannelEnv} (henv : s.env.Alike e) :
    Resourced { s with env := e } :=
  h.of_eq rfl rfl rfl henv rfl

theorem notify (h : Resourced s) (hregistering : ∀ r ∈ s.registering, r.1 ∉ s.keys) (number : Nat)
    (coroutine : Bool) : Resourced (s.notifyCompletion number coroutine) := by
  have hnotified : Resourced { s with notified := number :: s.notified } :=
    h.of_eq rfl rfl rfl (.refl _) rfl
  unfold notifyCompletion
  dsimp only
  split
  · exact hnotified.post rfl
  · exact hnotified.push hregistering rfl

theorem pop (h : Resourced s) (hnested : Nested s) {frame : ChannelFrame}
    {stack : List ChannelFrame} (hstack : s.stack = frame :: stack)
    (hframe : ∀ r ∈ frame.registering, r.1 ∉ s.keys) : Resourced { s with stack := stack } := by
  refine h.restack (fun r hr => hframe r ?_) (hnested.registering_pop_notMem hstack)
  rwa [registering_cons hstack] at hr

/-- A pending call is taken out with its timer and its closure, and notified. -/
theorem take (h : Resourced s) (hnested : Nested s) {id : UInt64} {call : PendingCall}
    (hfind : s.findPending id = some call)
    (hregistering : ∀ r ∈ s.registering, r.1 = id ∧ r.2 = -1) {e : ChannelEnv}
    (htimers : e.timers = s.env.timers.filter (call.timeoutTimer ≠ some ·.1))
    (hnext : e.nextTimer = s.env.nextTimer)
    (hhooks : ∀ c, (e.controllers c).hooks = ((s.env.release call).controllers c).hooks)
    (number : Nat) (coroutine : Bool) :
    Resourced ({ s.erasePending id with env := e }.notifyCompletion number coroutine) := by
  have hother : ∀ r ∈ s.registering, r.1 ∉ (s.erasePending id).keys := by
    intro r hr hmem
    obtain ⟨rfl, -⟩ := hregistering r hr
    simp [keys, erasePending] at hmem
  apply notify _ hother
  constructor
  · exact h.timed.finish hnested.keys_nodup hfind rfl h.timed.queued
      (fun id _ => registeringOf_congr rfl id) htimers hnext rfl
  · apply h.hooked.finish hnested.keys_nodup hfind
    case hpending => rfl
    case hqueued => exact h.hooked.queued
    case hregistering => exact fun id _ => registeringOf_congr rfl id
    case hhooks => exact fun c => (hhooks c).trans (ChannelEnv.hooks_release _ _ c)
    case hown =>
      intro token htoken
      simp only [registeringOf, Option.map_eq_some_iff, Option.filter_eq_some_iff] at htoken
      obtain ⟨r, ⟨hr, -⟩, rfl⟩ := htoken
      exact (hregistering r hr).2

theorem finish (h : Resourced s) (hnested : Nested s) {id : UInt64} {call : PendingCall}
    (hfind : s.findPending id = some call)
    (hregistering : ∀ r ∈ s.registering, r.1 = id ∧ r.2 = -1) (ending : Ending) :
    Resourced (s.finish id call ending) := by
  have halike := ChannelEnv.Alike.finish (s.env.release call) call ending
  exact h.take hnested hfind hregistering (halike.timers.trans (ChannelEnv.timers_release _ _))
    (halike.nextTimer.trans (ChannelEnv.nextTimer_release _ _)) halike.hooks _ _

/-- The timer of a call has fired, and the call ends. -/
theorem timeout (h : Resourced s) (hnested : Nested s) {id : UInt64} {call : PendingCall}
    {timer : Nat} (hstack : s.stack = []) (htimer : (timer, .timeout id) ∈ s.env.timers)
    (hfind : s.findPending id = some call) (ending : Ending) :
    Resourced (({ s with env := s.env.cancelTimer (some timer) } : RpcChannel).finish id call
      ending) := by
  have halike := ChannelEnv.Alike.finish ((s.env.cancelTimer (some timer)).release call) call ending
  have hcall : call.timeoutTimer = some timer := by
    obtain ⟨p, hp, rfl, hp₂⟩ := (h.timed.timers timer id).mp htimer
    rwa [pending_unique hnested.keys_nodup (find_eq_some hfind) hp]
  refine h.take hnested hfind (by simp [registering, hstack]) ?_ ?_ ?_ call.number call.coroutine
  · rw [halike.timers, ChannelEnv.timers_release, ChannelEnv.timers_cancelTimer, hcall,
      List.filter_filter]
    simp only [Bool.and_self]
  · rw [halike.nextTimer, ChannelEnv.nextTimer_release, ChannelEnv.nextTimer_cancelTimer]
  · intro c
    rw [halike.hooks, ChannelEnv.hooks_release, ChannelEnv.hooks_release]
    rfl

/-- The state in which a call is looked up, unless its timer has fired. -/
theorem cause (h : Resourced s) (hnested : Nested s) {id : UInt64} {ending : Ending}
    (hcause : Cause a s₀ s s₁ id ending) :
    Resourced s₁ ∧ (∀ r ∈ s₁.registering, r.1 = id ∧ r.2 = -1) ∨
      ∃ timer, s.stack = [] ∧ (timer, .timeout id) ∈ s.env.timers ∧
        s₁ = { s with env := s.env.cancelTimer (some timer) } := by
  have hreplace : ∀ {frame frame' : ChannelFrame} {stack : List ChannelFrame},
      s.stack = frame :: stack → (∀ number, frame ≠ .done number) → frame.registering = none →
      frame'.registering = none → Resourced { s with stack := frame' :: stack } ∧
        ∀ r ∈ ({ s with stack := frame' :: stack } : RpcChannel).registering,
          r.1 = id ∧ r.2 = -1 := by
    intro frame frame' stack hstack hframe hnone hnone'
    refine ⟨(h.pop hnested hstack (by simp [hnone])).push ?_ hnone', ?_⟩
    · simp [hnested.registering_pop hstack hframe]
    · simp [registering, hnone']
  cases hcause with
  | frame hfirst ha hstack htype => exact .inl (hreplace hstack (by simp) rfl rfl)
  | connection hstack => exact .inl (hreplace hstack (by simp) rfl rfl)
  | startCancel hstack => exact .inl (hreplace hstack (by simp) rfl rfl)
  | closed hstack =>
    exact .inl ⟨h, by simp [registering, hstack, ChannelFrame.registering]⟩
  | timeout hstack htimer => exact .inr ⟨_, hstack, List.mem_of_find?_eq_some htimer, rfl⟩
  | functor hfunctor huser =>
    refine .inl ⟨h.dequeue _, fun r hr => ?_⟩
    have hnone : s.registering = none := registering_of_userCode huser
    rw [registering] at hnone hr
    simp [hnone] at hr
  | cancel huser =>
    refine .inl ⟨h, fun r hr => ?_⟩
    obtain huser | ⟨bytes, stack, hstack⟩ := huser
    · simp [registering_of_userCode huser] at hr
    · rw [registering_cons hstack] at hr
      cases hr
      exact ⟨rfl, rfl⟩
  | @unwritten id token bytes stack call hstack hfind hconnection =>
    have hnone := hnested.registering_pop hstack (by simp)
    refine .inl ⟨⟨h.timed.store hnested.keys_nodup hstack hfind hnone, h.hooked.store hstack hnone⟩,
      ?_⟩
    obtain ⟨e, heq, -⟩ := store_spec { s with stack := stack } id token bytes call
    rw [heq]
    intro r hr
    rw [registering] at hnone hr
    simp [hnone] at hr

theorem cancelHeartbeat (h : Resourced s) : Resourced s.cancelHeartbeat where
  timed := h.timed.cancelHeartbeat
  hooked := h.hooked.of_eq rfl h.hooked.queued (fun id _ => registeringOf_congr rfl id) fun c => by
    simp [RpcChannel.cancelHeartbeat, ChannelEnv.controllers_cancelTimer]

theorem scheduleHeartbeat (h : Resourced s) : Resourced s.scheduleHeartbeat where
  timed := h.timed.scheduleHeartbeat
  hooked := h.hooked.of_eq rfl h.hooked.queued (fun id _ => registeringOf_congr rfl id) fun c => by
    simp [RpcChannel.scheduleHeartbeat, RpcChannel.cancelHeartbeat, ChannelEnv.setTimer,
      ChannelEnv.controllers_cancelTimer]

theorem startCancel (h : Resourced s) (c : Nat) :
    Resourced (s.updateController (·.startCancel.2) c) := by
  have hhooked : Hooked (s.updateController (·.startCancel.2) c) := by
    cases hrequested : (s.env.controllers c).cancelRequested with
    | true =>
      apply h.hooked.of_eq
      · rfl
      · exact h.hooked.queued
      · exact fun id _ => registeringOf_congr rfl id
      intro c'
      simp only [RpcChannel.updateController, ChannelEnv.controllers_updateController]
      split
      · next hc =>
        cases hc
        simp [RpcController.startCancel, hrequested]
      · rfl
    | false =>
      apply h.hooked.clear
      · simp [RpcController.startCancel, hrequested]
      · simp [RpcController.startCancel, hrequested]
      · exact .inl (by simp [RpcController.startCancel, hrequested])
  refine ⟨?_, hhooked⟩
  exact h.timed.of_eq rfl h.timed.queued (fun id _ => registeringOf_congr rfl id) rfl rfl rfl

theorem reset (h : Resourced s) {c : Nat} (hunused : ∀ p ∈ s.pendingCalls, p.2.controller ≠ some c) :
    Resourced (s.updateController (·.reset) c) where
  timed := h.timed.of_eq rfl h.timed.queued (fun id _ => registeringOf_congr rfl id) rfl rfl rfl
  hooked := h.hooked.clear rfl rfl (.inr hunused)

/-- A queued call is rejected. -/
theorem reject (h : Resourced s) (huser : s.userCode = true) (index count number : Nat)
    (coroutine : Bool) {e : ChannelEnv} (henv : s.env.Alike e) :
    Resourced ({ s with
      functors := s.functors.eraseIdx index
      env := e
      overloadRejectCount := count }.notifyCompletion number coroutine) := by
  have hdequeue : Resourced { s with
      functors := s.functors.eraseIdx index, env := e, overloadRejectCount := count } :=
    (h.dequeue index).of_eq rfl rfl rfl henv rfl
  refine hdequeue.notify (fun r hr => ?_) number coroutine
  have hnone : s.registering = none := registering_of_userCode huser
  rw [registering] at hnone hr
  simp [hnone] at hr

theorem insert (h : Resourced s) (hnested : Nested s) {index : Nat} {id : UInt64}
    {bytes : List UInt8} {call : PendingCall}
    (hfunctor : s.functors[index]? = some (.registerAndSend id bytes call))
    (huser : s.userCode = true)
    (htokens : ∀ c, (({ s with functors := s.functors.eraseIdx index }.emplace id call).hook id
      bytes).env.tokens c ≤ 2 ^ 31) :
    Resourced (({ s with functors := s.functors.eraseIdx index }.emplace id call).hook id bytes) := by
  have hnone : s.registering = none := registering_of_userCode huser
  have hnew : id ∉ s.keys := (hnested.queued_notMem hfunctor).2.1
  have hdequeue := h.dequeue index
  have hmem := List.mem_of_getElem? hfunctor
  have htimer := h.timed.queued id bytes call hmem
  have htoken := h.hooked.queued id bytes call hmem
  obtain heq | ⟨c, hcoroutine, hcontroller, heq⟩ :=
    hook_emplace (s := { s with functors := s.functors.eraseIdx index }) hnew call bytes
  · rw [heq] at htokens ⊢
    constructor
    · exact hdequeue.timed.insert hnew hnone htimer rfl hdequeue.timed.queued rfl rfl rfl rfl
    · exact hdequeue.hooked.insert hnew hnone htoken rfl hdequeue.hooked.queued rfl
        (.inl ⟨rfl, rfl⟩) htokens
  · rw [heq] at htokens ⊢
    constructor
    · exact hdequeue.timed.insert hnew hnone htimer rfl hdequeue.timed.queued rfl rfl rfl rfl
    · exact hdequeue.hooked.insert hnew hnone htoken rfl hdequeue.hooked.queued rfl
        (.inr ⟨c, hcoroutine, hcontroller, rfl, rfl⟩) htokens

theorem prepare (h : Resourced s) (F : MetaFormat) (x : CallArguments) :
    Resourced { (s.prepareCall F x).2 with
      functors := s.functors ++ [(s.prepareCall F x).1] } := by
  have hqueued : ∀ id bytes call,
      .registerAndSend id bytes call ∈ s.functors ++ [(s.prepareCall F x).1] →
      call.timeoutTimer = none ∧ call.cancelToken = -1 := by
    intro id bytes call hmem
    obtain hmem | heq := List.mem_append.mp hmem
    · exact ⟨h.timed.queued id bytes call hmem, h.hooked.queued id bytes call hmem⟩
    · obtain ⟨reason, hfunctor⟩ | ⟨bytes, call, hfunctor, -, -, -, -, -, htimer, htoken, -⟩ :=
        prepareCall_functor F s x
      · rw [hfunctor] at heq
        cases List.mem_singleton.mp heq
      · rw [hfunctor] at heq
        cases List.mem_singleton.mp heq
        exact ⟨htimer, htoken⟩
  obtain ⟨n, completions, -, hstate⟩ := prepareCall_state F s x
  rw [hstate]
  exact h.of_alike rfl hqueued (fun id _ => registeringOf_congr rfl id) ⟨rfl, rfl, fun _ => rfl⟩ rfl

theorem effect (h : Resourced s) (hnested : Nested s) (hopened : Opened s)
    (hidle : s₀.stack = [] → s₀.alive = false → s₀.pendingCalls = [])
    (hreset : ∀ c, a = .resetController c → ∀ p ∈ s₀.pendingCalls, p.2.controller ≠ some c)
    (htokens : ∀ c, s'.env.tokens c ≤ 2 ^ 31) (heffect : Effect F a s₀ s s') : Resourced s' := by
  have hnone : ∀ {s : RpcChannel}, s.registering = none → ∀ r ∈ s.registering, r.1 ∉ s.keys := by
    intro s hnone
    simp [hnone]
  have hreplace : ∀ {frame frame' : ChannelFrame} {stack : List ChannelFrame},
      s.stack = frame :: stack → (∀ number, frame ≠ .done number) → frame.registering = none →
      frame'.registering = none → Resourced { s with stack := frame' :: stack } := by
    intro frame frame' stack hstack hframe hnone hnone'
    refine (h.pop hnested hstack (by simp [hnone])).push ?_ hnone'
    simp [hnested.registering_pop hstack hframe]
  cases heffect with
  | @finish s₁ id call ending hcause hfind hpending =>
    obtain ⟨hs₁, hregistering⟩ | ⟨timer, hstack, htimer, rfl⟩ := h.cause hnested hcause
    · exact hs₁.finish (hnested.cause hcause).1 hfind hregistering ending
    · exact h.timeout hnested hstack htimer hfind ending
  | @skip s₁ id ending hcause hcalls =>
    obtain ⟨hs₁, -⟩ | ⟨timer, hstack, htimer, rfl⟩ := h.cause hnested hcause
    · exact hs₁
    · -- the timer belongs to a pending call
      obtain ⟨p, hp, rfl, -⟩ := (h.timed.timers timer id).mp htimer
      obtain ⟨call, hfind⟩ := exists_findPending (List.mem_map_of_mem (f := Prod.fst) hp)
      exact absurd (hopened.pending _ (find_eq_some hfind)) (hcalls call hfind)
  | discard hstack hfind hpending =>
    exact absurd (hopened.pending _ (find_eq_some hfind)) hpending
  | prepare ha => exact h.prepare F _
  | invalid hfunctor huser =>
    exact h.reject huser _ s.overloadRejectCount _ _ (.applyFailure _ _ _ _)
  | unavailable hfunctor hstate huser =>
    exact h.reject huser _ s.overloadRejectCount _ _ ((ChannelEnv.Alike.record _ _ _).trans
      (.applyFailure _ _ _ _))
  | expired hfunctor hstate hroom hdeadline huser =>
    exact h.reject huser _ s.overloadRejectCount _ _ ((ChannelEnv.Alike.record _ _ _).trans
      (.applyFailure _ _ _ _))
  | @overloaded index id bytes call hfunctor hstate hroom huser =>
    unfold rejectOverloaded
    dsimp only
    split
    · apply push _ _ rfl
      · exact (h.dequeue index).of_eq rfl rfl rfl (.record _ _ _) rfl
      · exact hnone (registering_of_userCode huser)
    · exact h.reject huser _ (s.overloadRejectCount + 1) _ _ ((ChannelEnv.Alike.record _ _ _).trans
        (.applyFailure _ _ _ _))
  | insert hfunctor hstate hroom hdeadline huser =>
    exact h.insert hnested hfunctor huser htokens
  | store hstack hfind =>
    have hpop := hnested.registering_pop hstack (by simp)
    exact ⟨h.timed.store hnested.keys_nodup hstack hfind hpop, h.hooked.store hstack hpop⟩
  | @unregistered id token bytes stack hstack hfind =>
    apply h.pop hnested hstack
    rintro r ⟨⟩ hmem
    obtain ⟨call, hcall⟩ := exists_findPending hmem
    simp [hfind] at hcall
  | @degraded id call reason stack accepted index order hfirst ha hstack =>
    unfold RpcChannel.degraded
    apply notify
    · apply (h.pop hnested hstack (by simp [ChannelFrame.registering])).env
      cases accepted with
      | true =>
        exact .updateController _ (·.markCallState .completed) (fun _ => rfl) call.controller
      | false => exact .applyFailure _ _ _ _
    · exact hnone (hnested.registering_pop hstack (by simp))
  | dequeue hfunctor hnumber => exact h.dequeue _
  | @post functor hnumber =>
    apply h.post
    cases functor <;> first | rfl | cases hnumber
  | @returned frame stack _ _ _ hstack hfinished =>
    apply h.pop hnested hstack
    cases frame with
    | registered => cases hfinished
    | _ => simp [ChannelFrame.registering]
  | cancelIgnored hstack => exact hreplace hstack (by simp) rfl rfl
  | heartbeatFrame hstack htype =>
    exact (hreplace hstack (by simp) rfl rfl).of_eq rfl rfl rfl (.refl _) rfl
  | @endOfFrames conn error stack order hstack horder =>
    have hpop := h.pop hnested hstack (by simp [ChannelFrame.registering])
    cases error with
    | none => exact hpop.post rfl
    | some error =>
      have hstate : Resourced { s with
          stack := stack
          connectionState := .disconnected
          connectionError := octets ("RPC protocol error: " ++ error) } :=
        hpop.of_eq rfl rfl rfl (.refl _) rfl
      have hpush := hstate.push (hnone (hnested.registering_pop hstack (by simp)))
        (show ChannelFrame.disconnect.registering = none from rfl)
      exact hpush.push (hnone rfl) rfl
  | destroyed hstack hkeys =>
    exact (h.pop hnested hstack (by simp [ChannelFrame.registering])).of_eq rfl rfl rfl (.refl _) rfl
  | @timerIgnored timer kind hstack htimer hkind hfirst =>
    have hmem := List.mem_of_find?_eq_some htimer
    have hother : ∀ id, (timer, .timeout id) ∉ s.env.timers := by
      intro id hid
      obtain rfl | halive := hkind
      · cases h.timed.timer_unique hid hmem
      · subst hfirst
        obtain ⟨p, hp, -⟩ := (h.timed.timers timer id).mp hid
        simp [hidle hstack halive] at hp
    constructor
    · exact h.timed.cancelTimer (by simpa using hother) (fun _ => id)
    · exact h.hooked.of_eq rfl h.hooked.queued (fun id _ => registeringOf_congr rfl id) fun _ => rfl
  | scheduleHeartbeat => exact h.scheduleHeartbeat
  | sendHeartbeat hstate =>
    unfold sendHeartbeat
    dsimp only
    split
    · exact h
    · split <;> exact h.of_eq rfl rfl rfl ⟨rfl, rfl, fun _ => rfl⟩ rfl
  | forceClose hstack => exact h.push (hnone (registering_of_empty hstack)) rfl
  | callMethodWithoutDone ha => exact h.env (.applyFailure _ _ _ _)
  | startCancel ha huser =>
    apply push _ _ rfl
    · exact h.startCancel _
    · exact hnone (registering_of_userCode huser)
  | remoteStartCancel ha => exact (h.startCancel _).of_eq rfl rfl rfl (.refl _) rfl
  | @remoteClosure index id hid =>
    have hpost := h.post (show (ChannelFunctor.cancel id).key = none from rfl)
    cases halive : s.alive
    · simp only [Bool.false_eq_true, if_false]
      exact h.of_eq rfl rfl rfl (.refl _) rfl
    · simp only [if_true]
      exact hpost.of_eq rfl rfl rfl (.refl _) rfl
  | resetController ha hfirst =>
    subst hfirst
    exact h.reset (hreset _ ha)
  | @setTimeout c timeout ha =>
    exact h.env (.updateController _ (·.setTimeout timeout) (fun _ => rfl) (some c))
  | @setDeadline c deadline ha =>
    exact h.env (.updateController _ (·.setDeadline deadline) (fun _ => rfl) (some c))
  | @setFailed id call reason =>
    exact h.env (.updateController _ (·.setFailed reason) (fun _ => rfl) call.controller)
  | onMessage ha hstack => exact h.push (hnone (registering_of_empty hstack)) rfl
  | connectionUp ha halive =>
    apply scheduleHeartbeat
    exact h.of_eq rfl rfl rfl (.refl _) rfl
  | connectionDown ha halive horder hconnection hstate hnetwork =>
    apply push _ _ rfl
    · exact h.cancelHeartbeat.of_eq rfl rfl rfl (.refl _) rfl
    · exact hnone (registering_of_network hnetwork)
  | connectionGone => exact h.cancelHeartbeat.of_eq rfl rfl rfl (.refl _) rfl
  | destroy hstack hqueued =>
    apply push _ _ rfl
    · exact h.cancelHeartbeat.of_eq rfl rfl rfl (.refl _) rfl
    · exact hnone (registering_of_empty hstack)
  | elapse => exact h.env ⟨rfl, rfl, fun _ => rfl⟩
  | heartbeatMissed | drawRequestId | setMaxPendingCalls | setDegradeHandler | shutdown =>
    exact h.of_eq rfl rfl rfl (.refl _) rfl

end Resourced

/-! ## Tokens are handed out in order -/

theorem tokens_store (s : RpcChannel) (id : UInt64) (token : Int) (bytes : List UInt8)
    (call : PendingCall) : (s.store id token bytes call).env.tokens = s.env.tokens := by
  obtain ⟨e, heq, hhooks, -⟩ := store_spec s id token bytes call
  rw [heq]
  exact funext fun c => congrArg (·.2.2) (hhooks c)

theorem tokens_cause {id : UInt64} {ending : Ending} (hcause : Cause a s₀ s s₁ id ending) :
    s₁.env.tokens = s.env.tokens := by
  cases hcause with
  | unwritten => exact tokens_store _ _ _ _ _
  | _ => rfl

theorem tokens_le_hook (s : RpcChannel) (id : UInt64) (bytes : List UInt8) :
    s.env.tokens ≤ (s.hook id bytes).env.tokens := by
  unfold hook
  split
  · exact le_rfl
  · next c _ =>
    split
    · exact le_rfl
    · intro c'
      show (s.env.controllers c').nextCancelToken ≤ ((s.env.updateController
        (fun x => (x.registerOnCancel id).2) (some c)).controllers c').nextCancelToken
      rw [ChannelEnv.controllers_updateController]
      split
      · simp [RpcController.registerOnCancel]
      · exact le_rfl

theorem tokens_finish (s : RpcChannel) (id : UInt64) (call : PendingCall) (ending : Ending) :
    (s.finish id call ending).env.tokens = s.env.tokens := by
  rw [RpcChannel.finish, env_notifyCompletion]
  have halike := ChannelEnv.Alike.finish (s.env.release call) call ending
  exact halike.tokens_eq.trans (ChannelEnv.tokens_release _ _)

theorem tokens_le_effect (heffect : Effect F a s₀ s s') : s.env.tokens ≤ s'.env.tokens := by
  have hupdate : ∀ (f : RpcController → RpcController) (controller : Option Nat),
      (∀ x, (f x).nextCancelToken = x.nextCancelToken) →
      s.env.tokens ≤ (s.env.updateController f controller).tokens :=
    fun f controller hf => (ChannelEnv.tokens_updateController s.env f hf controller).ge
  cases heffect with
  | finish hcause => exact ((tokens_finish _ _ _ _).trans (tokens_cause hcause)).ge
  | skip hcause => exact (tokens_cause hcause).ge
  | discard => exact (ChannelEnv.tokens_release _ _).ge
  | @prepare arguments =>
    obtain ⟨n, completions, -, hstate⟩ := prepareCall_state F s arguments
    rw [hstate]
    exact le_rfl
  | invalid | unavailable | expired =>
    simp only [completeInvalid, rejectUnavailable, reject, env_notifyCompletion]
    exact (ChannelEnv.Alike.applyFailure _ _ _ _).tokens_eq.ge
  | overloaded =>
    unfold rejectOverloaded
    dsimp only
    split
    · exact le_rfl
    · rw [env_notifyCompletion]
      exact (ChannelEnv.Alike.applyFailure _ _ _ _).tokens_eq.ge
  | @insert index id bytes call =>
    refine le_trans ?_ (tokens_le_hook _ _ _)
    unfold emplace
    split <;> exact le_rfl
  | store => exact (tokens_store _ _ _ _ _).ge
  | @degraded id call reason stack accepted =>
    rw [RpcChannel.degraded, env_notifyCompletion]
    cases accepted
    · exact (ChannelEnv.Alike.applyFailure _ _ _ _).tokens_eq.ge
    · exact hupdate (·.markCallState .completed) _ fun _ => rfl
  | @endOfFrames conn error => cases error <;> exact le_rfl
  | sendHeartbeat =>
    unfold sendHeartbeat
    dsimp only
    split
    · exact le_rfl
    · split <;> exact le_rfl
  | callMethodWithoutDone => exact (ChannelEnv.Alike.applyFailure _ _ _ _).tokens_eq.ge
  | startCancel | remoteStartCancel =>
    refine hupdate (·.startCancel.2) (some _) fun x => ?_
    unfold RpcController.startCancel
    split <;> rfl
  | resetController => exact hupdate (·.reset) (some _) fun _ => rfl
  | @setTimeout c timeout => exact hupdate (·.setTimeout timeout) (some c) fun _ => rfl
  | @setDeadline c deadline => exact hupdate (·.setDeadline deadline) (some c) fun _ => rfl
  | @setFailed id call reason => exact hupdate (·.setFailed reason) _ fun _ => rfl
  | scheduleHeartbeat | connectionUp | connectionDown | connectionGone | destroy =>
    intro c
    simp [ChannelEnv.tokens, scheduleHeartbeat, cancelHeartbeat, connectionEstablished, destroy,
      push, ChannelEnv.setTimer, ChannelEnv.controllers_cancelTimer]
  | _ => exact le_rfl

/-- Neither the request ids nor the tokens have run out. -/
structure Bounded (s : RpcChannel) : Prop where
  ids : s.nextRequestId ≤ 2 ^ 64
  tokens : ∀ c, s.env.tokens c ≤ 2 ^ 31

theorem Bounded.of_effect (h : Bounded s') (heffect : Effect F a s₀ s s') : Bounded s :=
  ⟨(nextRequestId_le_effect heffect).trans h.ids,
    fun c => (tokens_le_effect heffect c).trans (h.tokens c)⟩

theorem Bounded.of_step (h : Bounded s') (hstep : s.step F a = some s') : Bounded s := by
  have htokens : s.env.tokens ≤ s'.env.tokens :=
    invariant_step (I := fun t => s.env.tokens ≤ t.env.tokens) le_rfl
      (fun hle heffect => hle.trans (tokens_le_effect heffect)) hstep
  exact ⟨(nextRequestId_le_step hstep).trans h.ids, fun c => (htokens c).trans (h.tokens c)⟩

theorem Bounded.of_run (h : Bounded s') {steps : List ChannelStep} (hrun : s.run F steps = some s') :
    Bounded s := by
  induction steps generalizing s with
  | nil =>
    obtain rfl : s = s' := Option.some.inj hrun
    exact h
  | cons a steps ih =>
    obtain ⟨s₁, hstep, hrun⟩ := Transition.run_cons_eq_some_iff.mp hrun
    exact (ih hrun).of_step hstep

/-! ## Runs -/

/-- The destructor fails the pending calls, or it has done so. -/
def Closing (s : RpcChannel) : Prop :=
  s.alive = false → .failAllPendingNow ∈ s.stack ∨ s.destroyed = true

theorem Closing.of_subset (h : Closing s) (halive : s'.alive = s.alive)
    (hstack : .failAllPendingNow ∈ s.stack → .failAllPendingNow ∈ s'.stack)
    (hdestroyed : s'.destroyed = s.destroyed) : Closing s' := by
  intro hdead
  rw [hdestroyed]
  exact (h (halive ▸ hdead)).imp_left hstack

theorem Closing.notify (h : Closing s) (number : Nat) (coroutine : Bool) :
    Closing (s.notifyCompletion number coroutine) := by
  unfold notifyCompletion
  dsimp only
  split
  · exact h.of_subset rfl id rfl
  · exact h.of_subset rfl (List.mem_cons_of_mem _) rfl

theorem Closing.store (h : Closing s) (id : UInt64) (token : Int) (bytes : List UInt8)
    (call : PendingCall) : Closing (s.store id token bytes call) := by
  obtain ⟨e, heq, -⟩ := store_spec s id token bytes call
  rw [heq]
  exact h.of_subset rfl (fun hmem => hmem) rfl

theorem Closing.effect (h : Closing s) (heffect : Effect F a s₀ s s') : Closing s' := by
  have hreplace : ∀ {frame : ChannelFrame} {stack stack' : List ChannelFrame},
      s.stack = frame :: stack → frame ≠ .failAllPendingNow → stack ⊆ stack' →
      Closing { s with stack := stack' } := by
    intro frame stack stack' hstack hframe hsub
    refine h.of_subset rfl (fun hmem => hsub ?_) rfl
    rw [hstack] at hmem
    exact (List.mem_cons.mp hmem).resolve_left hframe.symm
  have hcause : ∀ {s₁ : RpcChannel} {id : UInt64} {ending : Ending}, Cause a s₀ s s₁ id ending →
      Closing s₁ := by
    intro s₁ id ending hcause
    cases hcause with
    | frame hfirst ha hstack => exact hreplace hstack (by simp) (List.subset_cons_self _ _)
    | connection hstack => exact hreplace hstack (by simp) (List.subset_cons_self _ _)
    | startCancel hstack => exact hreplace hstack (by simp) (List.subset_cons_self _ _)
    | unwritten hstack hfind =>
      exact (hreplace hstack (by simp) (List.Subset.refl _)).store _ _ _ _
    | closed | timeout | functor | cancel => exact h.of_subset rfl (fun hmem => hmem) rfl
  have hqueue : ∀ (index count : Nat) (e : ChannelEnv), Closing { s with
      functors := s.functors.eraseIdx index, env := e, overloadRejectCount := count } :=
    fun _ _ _ => h.of_subset rfl (fun hmem => hmem) rfl
  cases heffect with
  | @finish s₁ id call ending hcause' =>
    unfold RpcChannel.finish
    apply Closing.notify
    exact (hcause hcause').of_subset rfl (fun hmem => hmem) rfl
  | skip hcause' => exact hcause hcause'
  | @prepare arguments ha =>
    obtain ⟨n, completions, -, hstate⟩ := prepareCall_state F s arguments
    rw [hstate]
    exact h.of_subset rfl (fun hmem => hmem) rfl
  | invalid => exact (hqueue _ s.overloadRejectCount _).notify _ _
  | unavailable => exact (hqueue _ s.overloadRejectCount _).notify _ _
  | expired => exact (hqueue _ s.overloadRejectCount _).notify _ _
  | overloaded =>
    unfold rejectOverloaded
    dsimp only
    split
    · exact h.of_subset rfl (List.mem_cons_of_mem _) rfl
    · exact (hqueue _ (s.overloadRejectCount + 1) _).notify _ _
  | @insert index id bytes call =>
    unfold hook emplace
    split <;> split <;> first
      | exact h.of_subset rfl (List.mem_cons_of_mem _) rfl
      | (split <;> exact h.of_subset rfl (List.mem_cons_of_mem _) rfl)
  | store hstack => exact (hreplace hstack (by simp) (List.Subset.refl _)).store _ _ _ _
  | unregistered hstack => exact hreplace hstack (by simp) (List.Subset.refl _)
  | degraded hfirst ha hstack =>
    have hpop := hreplace hstack (by simp) (List.Subset.refl _)
    unfold RpcChannel.degraded
    apply Closing.notify
    exact hpop.of_subset rfl (fun hmem => hmem) rfl
  | @returned frame stack _ _ _ hstack hfinished =>
    refine hreplace hstack ?_ (List.Subset.refl _)
    rintro rfl
    cases hfinished
  | cancelIgnored hstack => exact hreplace hstack (by simp) (List.subset_cons_self _ _)
  | heartbeatFrame hstack =>
    exact (hreplace hstack (by simp) (List.subset_cons_self _ _)).of_subset rfl (fun hmem => hmem) rfl
  | @endOfFrames conn error stack order hstack =>
    cases error with
    | none =>
      exact (hreplace hstack (by simp) (List.Subset.refl _)).of_subset rfl (fun hmem => hmem) rfl
    | some error =>
      have hpop := hreplace hstack (by simp) (List.Subset.refl _)
      exact hpop.of_subset rfl
        (fun hmem => List.mem_cons_of_mem _ (List.mem_cons_of_mem _ hmem)) rfl
  | destroyed => exact fun _ => .inr rfl
  | sendHeartbeat =>
    unfold sendHeartbeat
    dsimp only
    split
    · exact h
    · split <;> exact h.of_subset rfl (fun hmem => hmem) rfl
  | destroy => exact fun _ => .inl List.mem_cons_self
  | forceClose | onMessage | connectionDown | startCancel =>
    exact h.of_subset rfl (List.mem_cons_of_mem _) rfl
  | _ => exact h.of_subset rfl (fun hmem => hmem) rfl

/-- Behind the destructor no call is pending. -/
theorem Balanced.pending_eq_nil (h : Balanced s [] []) (hdestroyed : s.destroyed = true) :
    s.pendingCalls = [] := by
  rw [List.eq_nil_iff_forall_not_mem]
  intro p hp
  have hmem : p.2.number ∈ s.pendingNumbers := List.mem_map_of_mem (f := (·.2.number)) hp
  have hpending := List.count_pos_iff.mpr hmem
  have hcensus := h.census p.2.number
  simp only [RpcChannel.census, List.count_nil] at hcensus
  split at hcensus
  · next hlt =>
    have hnotified := List.count_pos_iff.mpr ((h.gone hdestroyed).2 _ hlt)
    omega
  · omega

/-- The step does not reset the controller of a pending call. -/
def KeepsControllers (s : RpcChannel) (a : ChannelStep) : Prop :=
  ∀ c, a = .resetController c → ∀ p ∈ s.pendingCalls, p.2.controller ≠ some c

theorem Resourced.step (hbalanced : Balanced s [] []) (hclosing : Closing s) (hnested : Nested s)
    (h : Resourced s) (hkeeps : KeepsControllers s a) (hstep : s.step F a = some s')
    (hbounded : Bounded s') : Nested s' ∧ Resourced s' := by
  have hidle : s.stack = [] → s.alive = false → s.pendingCalls = [] := by
    intro hstack hdead
    refine hbalanced.pending_eq_nil ((hclosing hdead).resolve_left ?_)
    simp [hstack]
  refine (invariant_step
    (I := fun s => Opened s ∧ (Bounded s → Nested s ∧ Resourced s))
    ⟨hbalanced.opened, fun _ => ⟨hnested, h⟩⟩ (fun {s₁ s₂} hs₁ heffect => ?_) hstep).2 hbounded
  refine ⟨hs₁.1.effect heffect, fun hbounded => ?_⟩
  obtain ⟨hnested₁, h₁⟩ := hs₁.2 (hbounded.of_effect heffect)
  exact ⟨hnested₁.effect hbounded.ids heffect,
    h₁.effect hnested₁ hs₁.1 hidle hkeeps hbounded.tokens heffect⟩

theorem resourced_start (nextRequestId : Nat) {e : ChannelEnv} (htimers : e.timers = [])
    (hcontrollers : ∀ c, (e.controllers c).cancelCallbacks = [] ∧
      0 ≤ (e.controllers c).nextCancelToken) :
    Nested (start nextRequestId e) ∧ Resourced (start nextRequestId e) := by
  refine ⟨⟨List.nodup_nil, ?_, List.IsChain.nil, ?_, ?_⟩, ⟨?_, ?_, ?_, ?_, ?_, ?_⟩,
    ⟨?_, ?_, ?_, ?_, ?_, ?_, ?_, ?_⟩⟩
  all_goals simp [start, htimers, keys, queuedKeys, hcontrollers]

theorem resourced_run {nextRequestId : Nat} {e : ChannelEnv} {steps : List ChannelStep}
    (htimers : e.timers = [])
    (hcontrollers : ∀ c, (e.controllers c).cancelCallbacks = [] ∧
      0 ≤ (e.controllers c).nextCancelToken)
    (hmeets : Transition.Meets (step F) KeepsControllers (start nextRequestId e) steps)
    (hrun : (start nextRequestId e).run F steps = some s) (hbounded : Bounded s) :
    Nested s ∧ Resourced s := by
  -- The ids and the tokens only grow, so the bounds hold at every state that the run passes.
  refine (Transition.invariant_run (C := KeepsControllers)
    (I := fun s => Bounded s → Balanced s [] [] ∧ Closing s ∧ Nested s ∧ Resourced s)
    (fun s a s' h hkeeps hstep hbounded => ?_) (fun _ => ?_) hmeets hrun hbounded).2.2
  · obtain ⟨hbalanced, hclosing, hnested, h⟩ := h (hbounded.of_step hstep)
    exact ⟨hbalanced.step hstep hbounded.ids,
      invariant_step hclosing (fun h heffect => h.effect heffect) hstep,
      h.step hbalanced hclosing hnested hkeeps hstep hbounded⟩
  · exact ⟨balanced_start nextRequestId e, fun hdead => by simp [start] at hdead,
      resourced_start nextRequestId htimers hcontrollers⟩

/-- Along every run in which no controller is reset while its call is pending, the request ids do not
wrap and no controller runs out of tokens, and outside of `RegisterAndSend` itself: the timeout timers
are in bijection with the pending calls that have a deadline, by their request ids, and each of these
calls knows its timer; a cancel closure in a controller is that of a pending callback call, under the
token of the call; a pending call whose closure is not held any more has had it taken by `StartCancel`;
and nothing is left of calls that are not pending. -/
theorem resources_match (F : MetaFormat) (nextRequestId : Nat) (e : ChannelEnv)
    (steps : List ChannelStep) (s : RpcChannel) (htimers : e.timers = [])
    (hcontrollers : ∀ c, (e.controllers c).cancelCallbacks = [] ∧
      0 ≤ (e.controllers c).nextCancelToken)
    (hmeets : Transition.Meets (step F) KeepsControllers (start nextRequestId e) steps)
    (hrun : (start nextRequestId e).run F steps = some s) (hwrap : s.nextRequestId ≤ 2 ^ 64)
    (htokens : ∀ c, (s.env.controllers c).nextCancelToken ≤ 2 ^ 31)
    (hregistering : s.registering = none) :
    ((s.env.timers.map (·.1)).Nodup ∧
      Set.BijOn Prod.snd {x : Nat × UInt64 | (x.1, .timeout x.2) ∈ s.env.timers}
        {id | ∃ call, (id, call) ∈ s.pendingCalls ∧ call.deadline.isSome} ∧
      ∀ p ∈ s.pendingCalls, ∀ t,
        p.2.timeoutTimer = some t ↔ (t, .timeout p.1) ∈ s.env.timers) ∧
    ((∀ c, ∀ x ∈ (s.env.controllers c).cancelCallbacks, ∃ call, (x.2, call) ∈ s.pendingCalls ∧
        call.coroutine = false ∧ call.controller = some c ∧ call.cancelToken = x.1) ∧
      ∀ p ∈ s.pendingCalls, 0 ≤ p.2.cancelToken → ∃ c, p.2.controller = some c ∧
        ((p.2.cancelToken, p.1) ∈ (s.env.controllers c).cancelCallbacks ∨
          (s.env.controllers c).cancelRequested = true)) ∧
    ∀ id ∉ s.keys, (∀ t, (t, .timeout id) ∉ s.env.timers) ∧
      ∀ c token, (token, id) ∉ (s.env.controllers c).cancelCallbacks := by
  obtain ⟨hnested, htimed, hhooked⟩ := resourced_run htimers hcontrollers hmeets hrun
    ⟨hwrap, htokens⟩
  have hnone : ∀ id, s.registeringOf id = none := fun id =>
    registeringOf_eq_none (by simp [hregistering])
  have htoken : ∀ p, s.token p = p.2.cancelToken := fun p => by simp [token, hnone]
  have hown : ∀ p ∈ s.pendingCalls, ∀ t,
      p.2.timeoutTimer = some t ↔ (t, .timeout p.1) ∈ s.env.timers := by
    intro p hp t
    rw [htimed.timers t p.1]
    refine ⟨fun htimer => ⟨p, hp, rfl, htimer⟩, ?_⟩
    rintro ⟨q, hq, hq₁, htimer⟩
    rwa [← List.inj_on_of_nodup_map hnested.keys_nodup hq hp hq₁]
  have hdeadline : ∀ p ∈ s.pendingCalls, (p.2.timeoutTimer.isSome ↔ p.2.deadline.isSome) := by
    intro p hp
    simpa [hnone] using htimed.deadlines p hp
  refine ⟨⟨htimed.nodup, ⟨?_, ?_, ?_⟩, hown⟩, ⟨?_, ?_⟩, fun id hid => ⟨?_, ?_⟩⟩
  · rintro ⟨t, id⟩ hmem
    obtain ⟨p, hp, rfl, htimer⟩ := (htimed.timers t id).mp hmem
    exact ⟨p.2, hp, (hdeadline p hp).mp (by simp [htimer])⟩
  · rintro ⟨t, id⟩ hmem ⟨t', id'⟩ hmem' rfl
    obtain ⟨p, hp, rfl, htimer⟩ := (htimed.timers t id).mp hmem
    have htimer' := (hown p hp t').mpr hmem'
    rw [htimer] at htimer'
    rw [Option.some.inj htimer']
  · rintro id ⟨call, hmem, hsome⟩
    obtain ⟨t, htimer⟩ := Option.isSome_iff_exists.mp ((hdeadline _ hmem).mpr hsome)
    exact ⟨(t, id), (hown _ hmem t).mp htimer, rfl⟩
  · intro c x hx
    obtain ⟨p, hp, hp₁, hcoroutine, hcontroller, hp₂⟩ := hhooked.closures c x hx
    exact ⟨p.2, hp₁ ▸ hp, hcoroutine, hcontroller, (htoken p).symm.trans hp₂⟩
  · intro p hp hnonneg
    rw [← htoken p] at hnonneg ⊢
    exact (hhooked.held p hp hnonneg).2
  · intro t hmem
    obtain ⟨p, hp, rfl, -⟩ := (htimed.timers t id).mp hmem
    exact hid (List.mem_map_of_mem hp)
  · intro c token hmem
    obtain ⟨p, hp, rfl, -⟩ := hhooked.closures c _ hmem
    exact hid (List.mem_map_of_mem hp)

/-- A call with a timeout of one second and the controller `0`. -/
def timedCall : List ChannelStep :=
  [.setTimeout 0 1000, .beginCall { emptyCall with controller := some 0 } 0, .resume false 0 []]

theorem resources_match_pending :
    ∃ s, (start 1 {}).run wireFormat (.connectionUp 0 :: timedCall) = some s ∧
      s.env.timers = [(0, .heartbeat), (1, .timeout 1)] ∧
      Set.BijOn Prod.snd {x : Nat × UInt64 | (x.1, .timeout x.2) ∈ s.env.timers}
        {id | ∃ call, (id, call) ∈ s.pendingCalls ∧ call.deadline.isSome} := by
  refine ⟨_, rfl, rfl, ?_⟩
  refine (resources_match wireFormat 1 {} (.connectionUp 0 :: timedCall) _ rfl
    (fun _ => ⟨rfl, Int.le_refl _⟩) ?_ rfl (by decide) ?_ rfl).1.2.1
  · apply Transition.meets_of_forall_mem
    rintro s a ha c rfl
    simp [timedCall] at ha
  · rintro (- | c)
    · decide
    · exact (by decide : (0 : Int) ≤ 2 ^ 31)

theorem run_drawRequestId (F : MetaFormat) (s : RpcChannel) (n : Nat) :
    s.run F (List.replicate n .drawRequestId) =
      some { s with nextRequestId := s.nextRequestId + n } := by
  induction n generalizing s with
  | zero => rfl
  | succ n ih =>
    rw [List.replicate_succ]
    refine Transition.run_cons_eq_some_iff.mpr ⟨_, rfl, (ih _).trans ?_⟩
    simp [Nat.add_assoc, Nat.add_comm 1 n]

/-- The first call is pending, with its timer. -/
def timedPending : RpcChannel :=
  ((start 1 {}).run wireFormat (.connectionUp 0 :: timedCall)).getD {}

/-- A call that is given the id of the first one leaves it with two timers. -/
theorem run_timedCall_again {n : Nat} (hn : UInt64.ofNat n = 1) :
    ∃ s, ({ timedPending with nextRequestId := n } : RpcChannel).run wireFormat timedCall = some s ∧
      s.registering = none ∧ s.keys = [1] ∧
      s.env.timers = [(0, .heartbeat), (1, .timeout 1), (2, .timeout 1)] := by
  simp only [run, timedCall, Transition.run, step, prepareCall, emptyCall, hn, Option.bind_some,
    updateController]
  exact ⟨_, rfl, rfl, rfl, rfl⟩

/-- Other channels draw request ids while the first call is pending. -/
def wrappingCalls (n : Nat) : List ChannelStep :=
  (.connectionUp 0 :: timedCall) ++ List.replicate n .drawRequestId ++ timedCall

theorem run_wrappingCalls {n : Nat} (hn : UInt64.ofNat (2 + n) = 1) :
    ∃ s, (start 1 {}).run wireFormat (wrappingCalls n) = some s ∧ s.registering = none ∧
      s.keys = [1] ∧ s.env.timers = [(0, .heartbeat), (1, .timeout 1), (2, .timeout 1)] := by
  have hfirst : (start 1 {}).run wireFormat (.connectionUp 0 :: timedCall) = some timedPending := rfl
  have hnext : timedPending.nextRequestId = 2 := rfl
  have hdraw := run_drawRequestId wireFormat timedPending n
  obtain ⟨s, hrun, hs⟩ :=
    run_timedCall_again (n := timedPending.nextRequestId + n) (by rw [hnext]; exact hn)
  refine ⟨s, ?_, hs⟩
  unfold run at hfirst hdraw hrun ⊢
  rw [wrappingCalls, Transition.run_append, Transition.run_append, hfirst, Option.bind_some, hdraw,
    Option.bind_some, hrun]

theorem meets_wrappingCalls (n : Nat) :
    Transition.Meets (step wireFormat) KeepsControllers (start 1 {}) (wrappingCalls n) := by
  apply Transition.meets_of_forall_mem
  rintro s a ha c rfl
  simp [wrappingCalls, timedCall] at ha

/-- The request ids come around, and the second call gets the id of the first one. -/
theorem wrapped_id_leaks_timer :
    ∃ s, (start 1 {}).run wireFormat (wrappingCalls (2 ^ 64 - 1)) = some s ∧
      Transition.Meets (step wireFormat) KeepsControllers (start 1 {}) (wrappingCalls (2 ^ 64 - 1)) ∧
      s.registering = none ∧
      ¬Set.BijOn Prod.snd {x : Nat × UInt64 | (x.1, .timeout x.2) ∈ s.env.timers}
        {id | ∃ call, (id, call) ∈ s.pendingCalls ∧ call.deadline.isSome} := by
  have hn : UInt64.ofNat (2 + (2 ^ 64 - 1)) = 1 := by decide
  obtain ⟨s, hrun, hregistering, -, htimers⟩ := run_wrappingCalls hn
  refine ⟨s, hrun, meets_wrappingCalls _, hregistering, fun hbij => ?_⟩
  have hsame : ((1, 1) : Nat × UInt64) = (2, 1) :=
    hbij.injOn (by simp [htimers]) (by simp [htimers]) rfl
  simp at hsame

end RpcChannel

end NebulaRpc.Rpc
