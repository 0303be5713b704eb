import NebulaRpc.Rpc.Connectivity
import NebulaRpc.Rpc.Resources
import NebulaRpc.Rpc.RoundTrip

/-!
# Calls whose frame has not been written

A call is queued for its registration, or waits in the degrade handler or in `RegisterAndSend`, until
its frame is written. Apart from the effects that bring a call from one of these places to the next,
an effect only drops calls; `Flow` says so, and `Passage` lists the exceptions.
-/

namespace NebulaRpc.Rpc

/-! ## Fresh timers and tokens -/

/-- The tokens of a controller are smaller than the next one, until they overflow. -/
structure RpcController.Fresh (c : RpcController) : Prop where
  nonneg : 0 ≤ c.nextCancelToken
  tokens : c.nextCancelToken ≤ 2 ^ 31 → ∀ x ∈ c.cancelCallbacks, x.1 < c.nextCancelToken

namespace RpcController.Fresh

variable {c c' : RpcController}

theorem of_hooks (h : c.Fresh) (hhooks : c'.hooks = c.hooks) : c'.Fresh := by
  obtain ⟨hcallbacks, -, hnext⟩ := RpcChannel.Hooked.hooks_eq hhooks
  refine ⟨hnext ▸ h.nonneg, ?_⟩
  rw [hnext, hcallbacks]
  exact h.tokens

theorem reset (h : c.Fresh) : c.reset.Fresh := ⟨h.nonneg, by simp [RpcController.reset]⟩

theorem registerOnCancel (h : c.Fresh) (id : UInt64) : (c.registerOnCancel id).2.Fresh := by
  refine ⟨Int.le_trans h.nonneg (Int.le_add_one (Int.le_refl _)), fun hle x hx => ?_⟩
  have hlt : c.nextCancelToken < 2 ^ 31 := Int.lt_of_add_one_le hle
  obtain hx | rfl := by simpa [RpcController.registerOnCancel] using hx
  · exact Int.lt_trans (h.tokens hlt.le x hx) (Int.lt_succ _)
  · simp only [RpcController.registerOnCancel, wrap32_of_lt h.nonneg hlt]
    exact Int.lt_succ _

theorem removeOnCancel (h : c.Fresh) (token : Int) : (c.removeOnCancel token).Fresh :=
  ⟨h.nonneg, fun hle x hx => h.tokens hle x (List.mem_of_mem_eraseP hx)⟩

theorem startCancel (h : c.Fresh) : c.startCancel.2.Fresh := by
  unfold RpcController.startCancel
  split
  · exact h
  · exact ⟨h.nonneg, by simp⟩

end RpcController.Fresh

/-- The timers and the tokens are smaller than the next ones. -/
structure ChannelEnv.Fresh (e : ChannelEnv) : Prop where
  timers : ∀ x ∈ e.timers, x.1 < e.nextTimer
  controllers : ∀ c, (e.controllers c).Fresh

namespace ChannelEnv.Fresh

variable {e e' : ChannelEnv}

theorem of_alike (h : e.Fresh) (halike : Alike e e') : e'.Fresh := by
  refine ⟨fun x hx => ?_, fun c => (h.controllers c).of_hooks (halike.hooks c)⟩
  rw [halike.nextTimer]
  exact h.timers x (halike.timers ▸ hx)

theorem updateController (h : e.Fresh) {f : RpcController → RpcController}
    (hf : ∀ c, c.Fresh → (f c).Fresh) (controller : Option Nat) :
    (e.updateController f controller).Fresh := by
  refine ⟨by simpa using h.timers, fun c => ?_⟩
  rw [controllers_updateController]
  split
  · exact hf _ (h.controllers c)
  · exact h.controllers c

theorem cancelTimer (h : e.Fresh) (timer : Option Nat) : (e.cancelTimer timer).Fresh := by
  refine ⟨fun x hx => ?_, fun c => ?_⟩
  · rw [timers_cancelTimer] at hx
    rw [nextTimer_cancelTimer]
    exact h.timers x (List.mem_of_mem_filter hx)
  · rw [controllers_cancelTimer]
    exact h.controllers c

theorem setTimer (h : e.Fresh) (timer : ChannelTimer) : (e.setTimer timer).2.Fresh := by
  refine ⟨fun x hx => ?_, h.controllers⟩
  obtain hx | rfl := by simpa [ChannelEnv.setTimer] using hx
  · exact Nat.lt_succ_of_lt (h.timers x hx)
  · exact Nat.lt_succ_self _

theorem release (h : e.Fresh) (call : PendingCall) : (e.release call).Fresh := by
  unfold ChannelEnv.release
  dsimp only
  split
  · exact (h.cancelTimer _).updateController (fun _ hc => hc.removeOnCancel _) _
  · exact h.cancelTimer _

end ChannelEnv.Fresh

/-! ## Unsent calls -/

/-- The call whose frame is not written as long as the handler waits. -/
def ChannelFrame.unsentKey : ChannelFrame → Option UInt64
  | .degrade id .. | .registered id .. => some id
  | _ => none

namespace RpcChannel

/-- The calls that are queued or waiting in a handler before their frame is written. -/
def unsentKeys (s : RpcChannel) : List UInt64 :=
  s.queuedKeys ++ s.stack.filterMap ChannelFrame.unsentKey

variable {F : MetaFormat} {a : ChannelStep} {s s₀ s₁ s₂ s' : RpcChannel} {id : UInt64}

/-- The texts that `connection_error_` can hold. -/
def ConnectionText (text : List UInt8) : Prop :=
  text = [] ∨ text = octets "RPC connection closed" ∨ ProtocolError text

/-- An effect that only drops calls and does not write. -/
structure Flow (s s' : RpcChannel) : Prop where
  begun : s'.begun = s.begun
  next : s.nextRequestId ≤ s'.nextRequestId
  functors : ∀ f ∈ s'.functors, f ∈ s.functors ∨ f.number = none
  stack : ∀ f ∈ s'.stack, f ∈ s.stack ∨ f.unsentKey = none
  keys : s'.unsentKeys.Subperm s.unsentKeys
  pending : ∀ p ∈ s'.pendingCalls, ∃ q ∈ s.pendingCalls, q.1 = p.1 ∧ q.2.number = p.2.number ∧
    q.2.controller = p.2.controller
  written : s'.env.written = s.env.written
  fresh : s.env.Fresh → s'.env.Fresh
  text : ConnectionText s.connectionError → ConnectionText s'.connectionError

namespace Flow

theorem of_eq (hbegun : s'.begun = s.begun) (hnext : s.nextRequestId ≤ s'.nextRequestId)
    (hfunctors : s'.functors = s.functors) (hstack : s'.stack = s.stack)
    (hpending : s'.pendingCalls = s.pendingCalls) (hwritten : s'.env.written = s.env.written)
    (hfresh : s.env.Fresh → s'.env.Fresh)
    (htext : ConnectionText s.connectionError → ConnectionText s'.connectionError) :
    Flow s s' where
  begun := hbegun
  next := hnext
  functors f hf := .inl (hfunctors ▸ hf)
  stack f hf := .inl (hstack ▸ hf)
  keys := by
    rw [unsentKeys, unsentKeys, queuedKeys, queuedKeys, hfunctors, hstack]
  pending p hp := ⟨p, hpending ▸ hp, rfl, rfl, rfl⟩
  written := hwritten
  fresh := hfresh
  text := htext

theorem refl (s : RpcChannel) : Flow s s := of_eq rfl (Nat.le_refl _) rfl rfl rfl rfl id id

theorem trans (h : Flow s s₁) (h' : Flow s₁ s₂) : Flow s s₂ where
  begun := h'.begun.trans h.begun
  next := h.next.trans h'.next
  functors f hf := by
    obtain hf | hf := h'.functors f hf
    · exact h.functors f hf
    · exact .inr hf
  stack f hf := by
    obtain hf | hf := h'.stack f hf
    · exact h.stack f hf
    · exact .inr hf
  keys := h'.keys.trans h.keys
  pending p hp := by
    obtain ⟨q, hq, hid, hnumber, hcontroller⟩ := h'.pending p hp
    obtain ⟨r, hr, hid', hnumber', hcontroller'⟩ := h.pending q hq
    exact ⟨r, hr, hid'.trans hid, hnumber'.trans hnumber, hcontroller'.trans hcontroller⟩
  written := h'.written.trans h.written
  fresh hs := h'.fresh (h.fresh hs)
  text hs := h'.text (h.text hs)

theorem env (s : RpcChannel) {e : ChannelEnv} (hwritten : e.written = s.env.written)
    (hfresh : s.env.Fresh → e.Fresh) : Flow s { s with env := e } :=
  of_eq rfl (Nat.le_refl _) rfl rfl rfl hwritten hfresh id

theorem push (s : RpcChannel) {frame : ChannelFrame} (hplain : frame.unsentKey = none) :
    Flow s (s.push frame) where
  begun := rfl
  next := Nat.le_refl _
  functors f hf := .inl hf
  stack f hf := by
    obtain rfl | hf := List.mem_cons.mp hf
    · exact .inr hplain
    · exact .inl hf
  keys := by
    rw [unsentKeys, RpcChannel.push, List.filterMap_cons_none hplain]
    exact List.Subperm.refl _
  pending p hp := ⟨p, hp, rfl, rfl, rfl⟩
  written := rfl
  fresh := id
  text := id

theorem pop {frame : ChannelFrame} {stack : List ChannelFrame} (hstack : s.stack = frame :: stack) :
    Flow s { s with stack := stack } where
  begun := rfl
  next := Nat.le_refl _
  functors f hf := .inl hf
  stack f hf := .inl (hstack ▸ List.mem_cons_of_mem _ hf)
  keys := by
    rw [unsentKeys, unsentKeys, hstack]
    apply List.Sublist.subperm
    exact List.Sublist.append_left ((List.sublist_cons_self _ _).filterMap _) _
  pending p hp := ⟨p, hp, rfl, rfl, rfl⟩
  written := rfl
  fresh := id
  text := id

theorem dequeue (s : RpcChannel) (index : Nat) :
    Flow s { s with functors := s.functors.eraseIdx index } where
  begun := rfl
  next := Nat.le_refl _
  functors f hf := .inl (List.mem_of_mem_eraseIdx hf)
  stack f hf := .inl hf
  keys := by
    apply List.Sublist.subperm
    exact List.Sublist.append_right ((List.eraseIdx_sublist _ _).filterMap _) _
  pending p hp := ⟨p, hp, rfl, rfl, rfl⟩
  written := rfl
  fresh := id
  text := id

theorem post (s : RpcChannel) {functor : ChannelFunctor} (hnumber : functor.number = none) :
    Flow s { s with functors := s.functors ++ [functor] } where
  begun := rfl
  next := Nat.le_refl _
  functors f hf := by
    obtain hf | rfl := by simpa using hf
    · exact .inl hf
    · exact .inr hnumber
  stack f hf := .inl hf
  keys := by
    have hkey : functor.key = none := by cases functor <;> first | rfl | cases hnumber
    rw [unsentKeys, queuedKeys, List.filterMap_append, List.filterMap_cons_none hkey,
      List.filterMap_nil, List.append_nil]
    exact List.Subperm.refl _
  pending p hp := ⟨p, hp, rfl, rfl, rfl⟩
  written := rfl
  fresh := id
  text := id

theorem notify (s : RpcChannel) (number : Nat) (coroutine : Bool) :
    Flow s (s.notifyCompletion number coroutine) := by
  have hnotified : Flow s { s with notified := number :: s.notified } :=
    of_eq rfl (Nat.le_refl _) rfl rfl rfl rfl id id
  unfold notifyCompletion
  dsimp only
  split
  · exact hnotified.trans (post _ rfl)
  · exact hnotified.trans (push _ rfl)

theorem erase (s : RpcChannel) (id : UInt64) : Flow s (s.erasePending id) where
  begun := rfl
  next := Nat.le_refl _
  functors _ hf := .inl hf
  stack _ hf := .inl hf
  keys := List.Subperm.refl _
  pending p hp := ⟨p, List.mem_of_mem_filter hp, rfl, rfl, rfl⟩
  written := rfl
  fresh h := h
  text h := h

/-- A functor is taken out, and the call that it has registered or refused is notified. -/
theorem complete (s : RpcChannel) (index count number : Nat) (coroutine : Bool) {e : ChannelEnv}
    (hwritten : e.written = s.env.written) (hfresh : s.env.Fresh → e.Fresh) :
    Flow s ({ s with
      functors := s.functors.eraseIdx index
      env := e
      overloadRejectCount := count }.notifyCompletion number coroutine) := by
  have hcount : Flow { s with functors := s.functors.eraseIdx index }
      { s with functors := s.functors.eraseIdx index, env := e, overloadRejectCount := count } :=
    of_eq rfl (Nat.le_refl _) rfl rfl rfl hwritten hfresh id
  exact ((dequeue s index).trans hcount).trans (notify _ number coroutine)

theorem replace {frame frame' : ChannelFrame} {stack : List ChannelFrame}
    (hstack : s.stack = frame :: stack) (hplain : frame'.unsentKey = none) :
    Flow s { s with stack := frame' :: stack } :=
  (pop hstack).trans (push { s with stack := stack } hplain)

end Flow

/-! ## Frames are written by one effect -/

theorem written_store (s : RpcChannel) (id : UInt64) (token : Int) (bytes : List UInt8)
    (call : PendingCall) : (s.store id token bytes call).env.written = s.env.written ++
      match s.connection, s.connectionUp with
      | some conn, true => [(conn, bytes)]
      | _, _ => [] := by
  have hassign : (s.assign id token call).env.written = s.env.written := by
    unfold assign registerTimeoutTimer
    split <;> rfl
  obtain ⟨hconnection, hup⟩ := connection_assign s id token call
  unfold store
  dsimp only
  rw [hconnection, hup]
  cases s.connection with
  | none => simpa using hassign
  | some conn =>
    cases s.connectionUp with
    | false => simpa using hassign
    | true => simp [hassign]

/-- The call is stored with its token and its timer, and its frame is written or not. -/
theorem Flow.store (s : RpcChannel) (id : UInt64) (token : Int) (bytes : List UInt8)
    (call : PendingCall) : ∃ e : ChannelEnv,
      s.store id token bytes call = { s with
        pendingCalls := s.pendingCalls.map (s.stored id token call), env := e } ∧
      (s.env.Fresh → e.Fresh) ∧
      ∀ {e' : ChannelEnv}, e'.written = s.env.written → (s.env.Fresh → e'.Fresh) →
        Flow s { s with pendingCalls := s.pendingCalls.map (s.stored id token call), env := e' } := by
  obtain ⟨e, heq, hhooks, htimers⟩ := store_spec s id token bytes call
  refine ⟨e, heq, fun hfresh => ⟨?_, fun c => (hfresh.controllers c).of_hooks (hhooks c)⟩,
    fun hwritten hfresh' => ?_⟩
  · split at htimers
    · obtain ⟨htimers, hnext⟩ := htimers
      intro x hx
      rw [htimers, List.mem_append, List.mem_singleton] at hx
      rw [hnext]
      obtain hx | rfl := hx
      · exact Nat.lt_succ_of_lt (hfresh.timers x hx)
      · exact Nat.lt_succ_self _
    · obtain ⟨htimers, hnext⟩ := htimers
      rw [htimers, hnext]
      exact hfresh.timers
  · refine ⟨rfl, Nat.le_refl _, fun _ => .inl, fun _ => .inl, List.Subperm.refl _, fun p hp => ?_,
      hwritten, hfresh', fun h => h⟩
    obtain ⟨q, hq, rfl⟩ := List.mem_map.mp hp
    refine ⟨q, hq, fst_stored.symm, ?_⟩
    unfold stored
    split <;> exact ⟨rfl, rfl⟩

/-- What an effect does to unsent calls. -/
inductive Passage (F : MetaFormat) (s : RpcChannel) : RpcChannel → Prop
  | flow {s' : RpcChannel} (h : Flow s s') : Passage F s s'
  | prepare (arguments : CallArguments) :
      Passage F s { (s.prepareCall F arguments).2 with
        functors := s.functors ++ [(s.prepareCall F arguments).1] }
  | register {index : Nat} {id : UInt64} {bytes : List UInt8} {call : PendingCall} {token : Int}
      {e : ChannelEnv} (hfunctor : s.functors[index]? = some (.registerAndSend id bytes call))
      (hwritten : e.written = s.env.written) (hfresh : s.env.Fresh → e.Fresh) :
      Passage F s { s with
        functors := s.functors.eraseIdx index
        pendingCalls := s.pendingCalls ++ [(id, call)]
        env := e
        stack := .registered id token bytes :: s.stack }
  | degrade {index : Nat} {id : UInt64} {bytes : List UInt8} {call : PendingCall}
      {reason : List UInt8} {e : ChannelEnv} {count : Nat}
      (hfunctor : s.functors[index]? = some (.registerAndSend id bytes call))
      (hwritten : e.written = s.env.written) (hfresh : s.env.Fresh → e.Fresh) :
      Passage F s { s with
        functors := s.functors.eraseIdx index
        env := e
        overloadRejectCount := count
        stack := .degrade id call reason :: s.stack }
  | write {id : UInt64} {token : Int} {bytes : List UInt8} {stack : List ChannelFrame}
      {call : PendingCall} {conn : Nat} {e : ChannelEnv}
      (hstack : s.stack = .registered id token bytes :: stack)
      (hwritten : e.written = s.env.written ++ [(conn, bytes)]) (hfresh : s.env.Fresh → e.Fresh) :
      Passage F s { s with
        stack := stack, pendingCalls := s.pendingCalls.map (s.stored id token call), env := e }
  | heartbeat {conn : Nat} {requestId traceId : UInt64} :
      Passage F s { s with
        nextRequestId := s.nextRequestId + 1
        env := { s.env with written := s.env.written ++
          [(conn, encode F { type := .heartbeat, requestId := requestId, traceId := traceId } [])] } }

section Effect

open ChannelEnv (Alike)

/-- A call whose connection takes no writes is stored, and nothing is written. -/
theorem Flow.store_of_unwritable (id : UInt64) (token : Int) (bytes : List UInt8) (call : PendingCall)
    (hconnection : s.connection = none ∨ s.connectionUp = false) :
    Flow s (s.store id token bytes call) := by
  have hwritten := written_store s id token bytes call
  obtain ⟨e, heq, hfresh, hflow⟩ := Flow.store s id token bytes call
  rw [heq] at hwritten ⊢
  refine hflow ?_ hfresh
  obtain hnone | hdown := hconnection
  · simpa [hnone] using hwritten
  · rw [hwritten]
    cases s.connection <;> simp [hdown]

/-- The end of a call, once its entry is found. -/
theorem Flow.finish (s : RpcChannel) (id : UInt64) (call : PendingCall) (ending : Ending) :
    Flow s (s.finish id call ending) := by
  refine ((Flow.erase s id).trans (Flow.env _ ?_ fun hfresh => ?_)).trans (Flow.notify _ _ _)
  · rw [written_finish, written_release]
    rfl
  · exact (hfresh.release call).of_alike (.finish _ call ending)

theorem Flow.cause {ending : Ending} (hcause : Cause a s₀ s s₁ id ending) : Flow s s₁ := by
  cases hcause with
  | frame hfirst ha hstack htype => exact .replace hstack rfl
  | connection hstack => exact .replace hstack rfl
  | startCancel hstack => exact .replace hstack rfl
  | closed | cancel => exact .refl _
  | timeout hstack htimer => exact .env _ (written_cancelTimer _ _) fun h => h.cancelTimer _
  | functor hfunctor huser => exact .dequeue _ _
  | unwritten hstack hfind hconnection =>
    exact (Flow.pop hstack).trans (.store_of_unwritable _ _ _ _ hconnection)

theorem Flow.degraded (s : RpcChannel) (call : PendingCall) (reason : List UInt8) (accepted : Bool) :
    Flow s (s.degraded call reason accepted) := by
  unfold RpcChannel.degraded
  refine (Flow.env s ?_ fun hfresh => ?_).trans (Flow.notify _ _ _)
  · split
    · exact written_updateController _ _ _
    · exact written_applyFailure _ _ _ _
  · split
    · exact hfresh.of_alike (.updateController _ (·.markCallState .completed) (fun _ => rfl) _)
    · exact hfresh.of_alike (.applyFailure _ _ _ _)

theorem effect_passage (h : Nested s) (heffect : Effect F a s₀ s s') : Passage F s s' := by
  have hfailure : ∀ (e : ChannelEnv) call reason state, e.Fresh →
      ((e.record call state).applyFailure call.controller reason state).Fresh :=
    fun e call reason state hfresh =>
      hfresh.of_alike ((Alike.record e call state).trans (.applyFailure _ _ _ _))
  cases heffect with
  | finish hcause hfind hpending => exact .flow ((Flow.cause hcause).trans (.finish _ _ _ _))
  | skip hcause hnone => exact .flow (.cause hcause)
  | discard hstack hfind hpending =>
    exact .flow ((Flow.erase s _).trans (.env _ (written_release _ _) fun h => h.release _))
  | prepare ha => exact .prepare _
  | invalid hfunctor huser =>
    exact .flow (.complete s _ s.overloadRejectCount _ _ (written_applyFailure _ _ _ _)
      fun h => h.of_alike (.applyFailure _ _ _ _))
  | unavailable hfunctor hstate huser =>
    exact .flow (.complete s _ s.overloadRejectCount _ _ (written_applyFailure _ _ _ _)
      (hfailure _ _ _ _))
  | overloaded hfunctor hstate hroom huser =>
    unfold rejectOverloaded
    dsimp only
    split
    · exact .degrade hfunctor rfl fun h => h.of_alike (.record _ _ _)
    · exact .flow (.complete s _ (s.overloadRejectCount + 1) _ _ (written_applyFailure _ _ _ _)
        (hfailure _ _ _ _))
  | expired hfunctor hstate hroom hdeadline huser =>
    exact .flow (.complete s _ s.overloadRejectCount _ _ (written_applyFailure _ _ _ _)
      (hfailure _ _ _ _))
  | @insert index id bytes call hfunctor hstate hroom hdeadline huser =>
    have hnew : id ∉ ({ s with functors := s.functors.eraseIdx index } : RpcChannel).keys :=
      (h.queued_notMem hfunctor).2.1
    obtain heq | ⟨c, -, -, heq⟩ := hook_emplace hnew call bytes
    · rw [heq]
      exact .register hfunctor rfl fun h => h
    · rw [heq]
      exact .register hfunctor (written_updateController _ _ _)
        fun h => h.updateController (fun _ hc => hc.registerOnCancel _) _
  | @store id token bytes stack call hstack hfind =>
    have hwritten := written_store { s with stack := stack } id token bytes call
    obtain ⟨e, heq, hfresh, hflow⟩ := Flow.store { s with stack := stack } id token bytes call
    rw [heq] at hwritten ⊢
    dsimp only at hwritten
    split at hwritten
    · exact .write hstack hwritten hfresh
    · rw [List.append_nil] at hwritten
      exact .flow ((Flow.pop hstack).trans (hflow hwritten hfresh))
  | unregistered hstack hfind => exact .flow (.pop hstack)
  | degraded hfirst ha hstack => exact .flow ((Flow.pop hstack).trans (.degraded _ _ _ _))
  | dequeue => exact .flow (.dequeue s _)
  | post hnumber => exact .flow (.post s hnumber)
  | returned hstack => exact .flow (.pop hstack)
  | cancelIgnored hstack => exact .flow (.replace hstack rfl)
  | heartbeatFrame hstack htype =>
    exact .flow ((Flow.replace hstack rfl).trans
      (.of_eq rfl (Nat.le_refl _) rfl rfl rfl rfl (fun h => h) fun h => h))
  | @endOfFrames conn error stack order hstack horder =>
    cases error with
    | none => exact .flow ((Flow.pop hstack).trans (.post _ rfl))
    | some error =>
      have hstate : Flow { s with stack := stack } { s with
          stack := stack
          connectionState := .disconnected
          connectionError := octets ("RPC protocol error: " ++ error) } :=
        .of_eq rfl (Nat.le_refl _) rfl rfl rfl rfl (fun h => h) fun _ => .inr (.inr ⟨error, rfl⟩)
      exact .flow ((((Flow.pop hstack).trans hstate).trans (.push _ rfl)).trans (.push _ rfl))
  | destroyed hstack hkeys =>
    exact .flow ((Flow.pop hstack).trans
      (.of_eq rfl (Nat.le_refl _) rfl rfl rfl rfl (fun h => h) fun h => h))
  | timerIgnored => exact .flow (.env s (written_cancelTimer _ _) fun h => h.cancelTimer _)
  | scheduleHeartbeat =>
    exact .flow (.of_eq rfl (Nat.le_refl _) rfl rfl rfl (written_cancelTimer _ _)
      (fun h => (h.cancelTimer _).setTimer _) fun h => h)
  | sendHeartbeat hstate =>
    unfold sendHeartbeat
    dsimp only
    split
    · exact .flow (.refl s)
    · split
      · exact .heartbeat
      · exact .flow (.of_eq rfl (Nat.le_succ _) rfl rfl rfl rfl (fun h => h) fun h => h)
  | forceClose hstack => exact .flow (.push s rfl)
  | drawRequestId =>
    exact .flow (.of_eq rfl (Nat.le_succ _) rfl rfl rfl rfl (fun h => h) fun h => h)
  | callMethodWithoutDone =>
    exact .flow (.env s (written_applyFailure _ _ _ _) fun h => h.of_alike (.applyFailure _ _ _ _))
  | startCancel ha huser =>
    exact .flow ((Flow.env s (written_updateController _ _ _)
      fun h => h.updateController (fun _ hc => hc.startCancel) _).trans (.push _ rfl))
  | @remoteStartCancel c ha =>
    exact .flow (.of_eq rfl (Nat.le_refl _) rfl rfl rfl (written_updateController _ _ _)
      (fun h => h.updateController (f := (·.startCancel.2)) (fun _ hc => hc.startCancel) (some c))
      fun h => h)
  | @remoteClosure index id hid =>
    have hcancelling : ∀ functors : List ChannelFunctor, Flow { s with functors := functors } { s with
        functors := functors, cancelling := s.cancelling.eraseIdx index } :=
      fun _ => .of_eq rfl (Nat.le_refl _) rfl rfl rfl rfl (fun h => h) fun h => h
    split
    · exact .flow ((Flow.post s rfl).trans (hcancelling _))
    · exact .flow (hcancelling _)
  | resetController =>
    exact .flow (.env s (written_updateController _ _ _)
      fun h => h.updateController (fun _ hc => hc.reset) _)
  | @setFailed id call reason =>
    exact .flow (.env s (written_updateController _ _ _)
      fun h => h.of_alike (.updateController _ (·.setFailed reason) (fun _ => rfl) _))
  | @setTimeout c timeout =>
    exact .flow (.env s (written_updateController _ _ _)
      fun h => h.of_alike (.updateController _ (·.setTimeout timeout) (fun _ => rfl) _))
  | @setDeadline c deadline =>
    exact .flow (.env s (written_updateController _ _ _)
      fun h => h.of_alike (.updateController _ (·.setDeadline deadline) (fun _ => rfl) _))
  | onMessage ha hstack => exact .flow (.push s rfl)
  | connectionUp ha halive =>
    exact .flow (.of_eq rfl (Nat.le_refl _) rfl rfl rfl (written_cancelTimer _ _)
      (fun h => (h.cancelTimer _).setTimer _) fun _ => .inl rfl)
  | connectionDown ha halive horder hconnection hstate hnetwork =>
    apply Passage.flow
    apply Flow.trans _ (.push _ rfl)
    exact .of_eq rfl (Nat.le_refl _) rfl rfl rfl (written_cancelTimer _ _)
      (fun h => h.cancelTimer _) fun _ => .inr (.inl rfl)
  | connectionGone =>
    exact .flow (.of_eq rfl (Nat.le_refl _) rfl rfl rfl (written_cancelTimer _ _)
      (fun h => h.cancelTimer _) fun h => h)
  | destroy hstack hqueued =>
    apply Passage.flow
    apply Flow.trans _ (.push _ rfl)
    exact .of_eq rfl (Nat.le_refl _) rfl rfl rfl (written_cancelTimer _ _)
      (fun h => h.cancelTimer _) fun h => h
  | heartbeatMissed | elapse | setMaxPendingCalls | setDegradeHandler | shutdown =>
    exact .flow (.of_eq rfl (Nat.le_refl _) rfl rfl rfl rfl
      (fun h => ⟨h.timers, h.controllers⟩) fun h => h)

end Effect

/-! ## Frames by their id -/

/-- The octets are the frame of a request with this id. -/
def Carries (F : MetaFormat) (id : UInt64) (bytes : List UInt8) : Prop :=
  ∃ frame size, parseFrame F bytes = .ok frame size ∧ frame.rpcMeta.type = .request ∧
    frame.rpcMeta.requestId = id

theorem Carries.unique {id' : UInt64} {bytes : List UInt8} (h : Carries F id bytes)
    (h' : Carries F id' bytes) : id = id' := by
  obtain ⟨frame, size, hparse, -, rfl⟩ := h
  obtain ⟨frame', size', hparse', -, rfl⟩ := h'
  rw [hparse] at hparse'
  cases hparse'
  rfl

theorem validUtf8_nil : ValidUtf8 [] := ⟨[], rfl⟩

theorem carries_prepareCall {wire : RpcMeta → List UInt8} (hF : F.Lawful wire) {x : CallArguments}
    {bytes : List UInt8} {call : PendingCall}
    (h : (s.prepareCall F x).1 = .registerAndSend id bytes call) : Carries F id bytes := by
  obtain ⟨method, controller, request, response, coroutine, traceId⟩ := x
  cases method with
  | none => cases h
  | some method =>
    cases request with
    | none => cases h
    | some request =>
      cases response with
      | none => cases h
      | some parses =>
        simp only [prepareCall] at h
        split at h
        · cases h
        · next hne =>
          cases h
          obtain ⟨heq, hsize⟩ := encodeMessage_eq hF hne
          have hparse := parseFrame_frameBytes hF validUtf8_nil hsize []
          rw [List.append_nil, ← heq] at hparse
          exact ⟨_, _, hparse, rfl, rfl⟩

/-- A heartbeat is not a request. -/
theorem not_carries_heartbeat {wire : RpcMeta → List UInt8} (hF : F.Lawful wire)
    (requestId traceId : UInt64) : ¬Carries F id
      (encode F { type := .heartbeat, requestId := requestId, traceId := traceId } []) := by
  rintro ⟨frame, size, hparse, htype, -⟩
  rw [encode_eq hF.serializes] at hparse
  split at hparse
  · cases hparse
  · next hsize =>
    have hframe := parseFrame_frameBytes hF
      (m := { type := .heartbeat, requestId := requestId, traceId := traceId }) validUtf8_nil hsize []
    rw [List.append_nil, hparse] at hframe
    cases hframe
    cases htype

/-! ## No frame of an unsent call has been written -/

/-- Frames carry their ids, and no frame of an unsent call has been written; neither has one of the
calls that are spent. -/
structure Unsent (F : MetaFormat) (spent : List UInt64) (s : RpcChannel) : Prop where
  nodup : (spent ++ s.unsentKeys).Nodup
  lt : ∀ id ∈ spent ++ s.unsentKeys, id.toNat < s.nextRequestId
  queued : ∀ id bytes call, .registerAndSend id bytes call ∈ s.functors → Carries F id bytes
  waiting : ∀ id token bytes, .registered id token bytes ∈ s.stack → Carries F id bytes
  written : ∀ w ∈ s.env.written, ∀ id, Carries F id w.2 →
    id.toNat < s.nextRequestId ∧ id ∉ spent ++ s.unsentKeys
  fresh : s.env.Fresh
  text : ConnectionText s.connectionError

namespace Unsent

variable {spent spent' : List UInt64} {wire : RpcMeta → List UInt8}

theorem flow (h : Unsent F spent s) (hflow : Flow s s')
    (hkeys : (spent' ++ s'.unsentKeys).Subperm (spent ++ s.unsentKeys)) : Unsent F spent' s' where
  nodup := by
    obtain ⟨keys, hperm, hsublist⟩ := hkeys
    exact hperm.nodup_iff.mp (hsublist.nodup h.nodup)
  lt id hid := (h.lt id (hkeys.subset hid)).trans_le hflow.next
  queued id bytes call hmem := by
    obtain hold | hnone := hflow.functors _ hmem
    · exact h.queued id bytes call hold
    · cases hnone
  waiting id token bytes hmem := by
    obtain hold | hnone := hflow.stack _ hmem
    · exact h.waiting id token bytes hold
    · cases hnone
  written w hw id hid := by
    obtain ⟨hlt, hnot⟩ := h.written w (hflow.written ▸ hw) id hid
    exact ⟨hlt.trans_le hflow.next, fun hmem => hnot (hkeys.subset hmem)⟩
  fresh := hflow.fresh h.fresh
  text := hflow.text h.text

theorem keys_register {index : Nat} {bytes : List UInt8} {call : PendingCall}
    (hfunctor : s.functors[index]? = some (.registerAndSend id bytes call)) :
    (id :: ((s.functors.eraseIdx index).filterMap ChannelFunctor.key ++
      s.stack.filterMap ChannelFrame.unsentKey)).Perm s.unsentKeys :=
  (filterMap_eraseIdx_perm ChannelFunctor.key hfunctor).append_right _

theorem keys_pop {frame : ChannelFrame} {stack : List ChannelFrame}
    (hstack : s.stack = frame :: stack) (hkey : frame.unsentKey = some id) :
    (id :: ({ s with stack := stack } : RpcChannel).unsentKeys).Perm s.unsentKeys := by
  rw [unsentKeys, unsentKeys, hstack, List.filterMap_cons_some hkey]
  exact List.perm_middle.symm

/-- A call goes from the queue to the stack. -/
theorem move (h : Unsent F spent s) {index : Nat} {bytes : List UInt8} {call : PendingCall}
    {frame : ChannelFrame} (hfunctor : s.functors[index]? = some (.registerAndSend id bytes call))
    (hkey : frame.unsentKey = some id)
    (hframe : ∀ id' token bytes', frame = .registered id' token bytes' → Carries F id' bytes')
    (hfunctors : s'.functors = s.functors.eraseIdx index) (hstack : s'.stack = frame :: s.stack)
    (hnext : s'.nextRequestId = s.nextRequestId) (hwritten : s'.env.written = s.env.written)
    (hfresh : s'.env.Fresh) (htext : s'.connectionError = s.connectionError) :
    Unsent F spent s' := by
  have hkeys : (spent ++ s'.unsentKeys).Perm (spent ++ s.unsentKeys) := by
    apply List.Perm.append_left
    apply List.Perm.trans _ (keys_register hfunctor)
    rw [unsentKeys, queuedKeys, hfunctors, hstack, List.filterMap_cons_some hkey]
    exact List.perm_middle
  refine ⟨hkeys.nodup_iff.mpr h.nodup, fun id hid => ?_, fun id bytes call hmem => ?_,
    fun id token bytes hmem => ?_, fun w hw id hid => ?_, hfresh, htext ▸ h.text⟩
  · rw [hnext]
    exact h.lt id (hkeys.subset hid)
  · rw [hfunctors] at hmem
    exact h.queued id bytes call (List.mem_of_mem_eraseIdx hmem)
  · rw [hstack, List.mem_cons] at hmem
    obtain heq | hmem := hmem
    · exact hframe id token bytes heq.symm
    · exact h.waiting id token bytes hmem
  · rw [hnext]
    obtain ⟨hlt, hnot⟩ := h.written w (hwritten ▸ hw) id hid
    exact ⟨hlt, fun hmem => hnot (hkeys.subset hmem)⟩

/-- A call is begun, with an id that is new. -/
theorem prepare (hF : F.Lawful wire) (h : Unsent F spent s) (x : CallArguments)
    (hwrap : (s.prepareCall F x).2.nextRequestId ≤ 2 ^ 64) : Unsent F spent
      { (s.prepareCall F x).2 with functors := s.functors ++ [(s.prepareCall F x).1] } := by
  obtain ⟨n, completions, hn, hstate⟩ := prepareCall_state F s x
  have hle : s.nextRequestId ≤ (s.prepareCall F x).2.nextRequestId :=
    nextRequestId_le_prepareCall F s x
  have hwritten : (s.prepareCall F x).2.env.written = s.env.written := by rw [hstate]
  have hstack : (s.prepareCall F x).2.stack = s.stack := by rw [hstate]
  have htext : (s.prepareCall F x).2.connectionError = s.connectionError := by rw [hstate]
  have hfresh : (s.prepareCall F x).2.env.Fresh := by
    rw [hstate]
    exact ⟨h.fresh.timers, h.fresh.controllers⟩
  -- The id of the new call, if it has one.
  have hkey : ∀ id, (s.prepareCall F x).1.key = some id →
      id.toNat = s.nextRequestId ∧ s.nextRequestId < (s.prepareCall F x).2.nextRequestId := by
    intro id hid
    obtain ⟨reason, heq⟩ | ⟨bytes, call, heq, hnext, -⟩ := prepareCall_functor F s x
    · rw [heq] at hid
      cases hid
    · rw [heq] at hid
      cases hid
      rw [hnext] at hwrap ⊢
      exact ⟨Nat.mod_eq_of_lt hwrap, Nat.lt_succ_self _⟩
  have hkeys : (spent ++ ({ (s.prepareCall F x).2 with
        functors := s.functors ++ [(s.prepareCall F x).1] } : RpcChannel).unsentKeys).Perm
      ((s.prepareCall F x).1.key.toList ++ (spent ++ s.unsentKeys)) := by
    have hsingle : [(s.prepareCall F x).1].filterMap ChannelFunctor.key =
        (s.prepareCall F x).1.key.toList := by
      cases hkey : (s.prepareCall F x).1.key <;> simp [hkey]
    simp only [unsentKeys, queuedKeys, hstack, List.filterMap_append, hsingle, List.append_assoc]
    refine List.Perm.trans ?_ (List.perm_append_comm_assoc _ _ _)
    apply List.Perm.append_left
    exact List.perm_append_comm_assoc _ _ _
  refine ⟨hkeys.nodup_iff.mpr (List.nodup_append'.mpr ⟨?_, h.nodup, ?_⟩), fun id hid => ?_,
    fun id bytes call hmem => ?_, fun id token bytes hmem => ?_, fun w hw id hid => ?_, hfresh,
    htext ▸ h.text⟩
  · cases (s.prepareCall F x).1.key <;> simp
  · intro id hnew hold
    have := (hkey id (by simpa using hnew)).1
    have := h.lt id hold
    omega
  · obtain hnew | hold := List.mem_append.mp (hkeys.subset hid)
    · obtain ⟨heq, hlt⟩ := hkey id (by simpa using hnew)
      exact heq ▸ hlt
    · exact (h.lt id hold).trans_le hle
  · obtain hold | hnew := List.mem_append.mp hmem
    · exact h.queued id bytes call hold
    · exact carries_prepareCall hF (List.mem_singleton.mp hnew).symm
  · exact h.waiting id token bytes (hstack ▸ hmem)
  · obtain ⟨hlt, hnot⟩ := h.written w (hwritten ▸ hw) id hid
    refine ⟨hlt.trans_le hle, fun hmem => ?_⟩
    obtain hnew | hold := List.mem_append.mp (hkeys.subset hmem)
    · have := (hkey id (by simpa using hnew)).1
      omega
    · exact hnot hold

theorem passage (hF : F.Lawful wire) (h : Unsent F spent s) (hwrap : s'.nextRequestId ≤ 2 ^ 64)
    (hpassage : Passage F s s') : Unsent F spent s' := by
  cases hpassage with
  | flow hflow => exact h.flow hflow ((List.subperm_append_left spent).mpr hflow.keys)
  | prepare x => exact h.prepare hF x hwrap
  | @register index id bytes call token e hfunctor hwritten hfresh =>
    refine h.move hfunctor rfl ?_ rfl rfl rfl hwritten (hfresh h.fresh) rfl
    rintro id' token' bytes' heq
    cases heq
    exact h.queued _ _ _ (List.mem_of_getElem? hfunctor)
  | degrade hfunctor hwritten hfresh =>
    refine h.move hfunctor rfl ?_ rfl rfl rfl hwritten (hfresh h.fresh) rfl
    rintro _ _ _ heq
    cases heq
  | @write id token bytes stack call conn e hstack hwritten hfresh =>
    have hpop : Flow s { s with stack := stack } := .pop hstack
    have h' : Unsent F spent { s with stack := stack } :=
      h.flow hpop ((List.subperm_append_left spent).mpr hpop.keys)
    have hcarries := h.waiting id token bytes (hstack ▸ List.mem_cons_self)
    have hmem : id ∈ spent ++ s.unsentKeys := by
      simp [unsentKeys, hstack, ChannelFrame.unsentKey]
    refine ⟨h'.nodup, h'.lt, h'.queued, h'.waiting, fun w hw id' hid' => ?_,
      hfresh h.fresh, h.text⟩
    rw [hwritten, List.mem_append, List.mem_singleton] at hw
    obtain hw | rfl := hw
    · exact h'.written w hw id' hid'
    · obtain rfl := hid'.unique hcarries
      refine ⟨h.lt _ hmem, fun hagain => ?_⟩
      have hnodup := ((keys_pop hstack rfl).append_left spent).nodup_iff.mpr h.nodup
      exact (List.nodup_cons.mp (List.perm_middle.nodup_iff.mp hnodup)).1 hagain
  | heartbeat =>
    refine ⟨h.nodup, fun id hid => Nat.lt_succ_of_lt (h.lt id hid), h.queued, h.waiting,
      fun w hw id hid => ?_, ⟨h.fresh.timers, h.fresh.controllers⟩, h.text⟩
    obtain hw | rfl := by simpa using hw
    · obtain ⟨hlt, hnot⟩ := h.written w hw id hid
      exact ⟨Nat.lt_succ_of_lt hlt, hnot⟩
    · exact absurd hid (not_carries_heartbeat hF _ _)

end Unsent

/-! ## One call -/

/-- The call is queued as it was prepared, and wherever it is, it has its id and its controller. -/
structure Linked (id : UInt64) (bytes : List UInt8) (call : PendingCall) (s : RpcChannel) :
    Prop where
  begun : call.number < s.begun
  queued : ∀ id' bytes' call', .registerAndSend id' bytes' call' ∈ s.functors →
    call'.number = call.number → id' = id ∧ bytes' = bytes ∧ call' = call
  valid : ∀ n c coroutine reason, .completeInvalid n c coroutine reason ∈ s.functors →
    n ≠ call.number
  waiting : ∀ id' call' reason, .degrade id' call' reason ∈ s.stack →
    call'.number = call.number → id' = id ∧ call'.controller = call.controller
  pending : ∀ p ∈ s.pendingCalls, p.2.number = call.number →
    p.1 = id ∧ p.2.controller = call.controller

namespace Linked

variable {bytes : List UInt8} {call : PendingCall}

theorem flow (h : Linked id bytes call s) (hflow : Flow s s') : Linked id bytes call s' where
  begun := hflow.begun ▸ h.begun
  queued id' bytes' call' hmem hnumber := by
    obtain hold | hnone := hflow.functors _ hmem
    · exact h.queued id' bytes' call' hold hnumber
    · cases hnone
  valid n c coroutine reason hmem := by
    obtain hold | hnone := hflow.functors _ hmem
    · exact h.valid n c coroutine reason hold
    · cases hnone
  waiting id' call' reason hmem hnumber := by
    obtain hold | hnone := hflow.stack _ hmem
    · exact h.waiting id' call' reason hold hnumber
    · cases hnone
  pending p hp hnumber := by
    obtain ⟨q, hq, hid, hsame, hcontroller⟩ := hflow.pending p hp
    rw [← hid, ← hcontroller]
    exact h.pending q hq (hsame.trans hnumber)

theorem dequeue (h : Linked id bytes call s) (index : Nat) :
    Linked id bytes call { s with functors := s.functors.eraseIdx index } :=
  h.flow (.dequeue s index)

/-- Another call is begun. -/
theorem prepare (h : Linked id bytes call s) (F : MetaFormat) (x : CallArguments) :
    Linked id bytes call
      { (s.prepareCall F x).2 with functors := s.functors ++ [(s.prepareCall F x).1] } := by
  obtain ⟨n, completions, -, hstate⟩ := prepareCall_state F s x
  have hbegun : (s.prepareCall F x).2.begun = s.begun + 1 := by rw [hstate]
  have hpending : (s.prepareCall F x).2.pendingCalls = s.pendingCalls := by rw [hstate]
  have hstack : (s.prepareCall F x).2.stack = s.stack := by rw [hstate]
  -- The call that the step begins has the number `s.begun`.
  have hnumber : ∀ n ∈ (s.prepareCall F x).1.number, n ≠ call.number := by
    have hne : s.begun ≠ call.number := Nat.ne_of_gt h.begun
    obtain ⟨reason, heq⟩ | ⟨bytes', call', heq, -, hcall, -⟩ := prepareCall_functor F s x
    · rw [heq]
      rintro _ ⟨⟩
      exact hne
    · rw [heq]
      rintro _ ⟨⟩
      exact hcall ▸ hne
  refine ⟨by rw [hbegun]; exact Nat.lt_succ_of_lt h.begun, fun id' bytes' call' hmem hcall => ?_,
    fun n c coroutine reason hmem => ?_, fun id' call' reason hmem => ?_, fun p hp => ?_⟩
  · obtain hold | hnew := List.mem_append.mp hmem
    · exact h.queued id' bytes' call' hold hcall
    · rw [List.mem_singleton] at hnew
      exact absurd hcall (hnumber _ (hnew ▸ rfl))
  · obtain hold | hnew := List.mem_append.mp hmem
    · exact h.valid n c coroutine reason hold
    · rw [List.mem_singleton] at hnew
      exact hnumber _ (hnew ▸ rfl)
  · exact h.waiting id' call' reason (hstack ▸ hmem)
  · exact h.pending p (hpending ▸ hp)

/-- This call is begun. -/
theorem begin {R : RpcFrame → Prop} (hknown : Known R s) {x : CallArguments}
    (heq : (s.prepareCall F x).1 = .registerAndSend id bytes call) : Linked id bytes call
      { (s.prepareCall F x).2 with functors := s.functors ++ [(s.prepareCall F x).1] } := by
  obtain ⟨n, completions, -, hstate⟩ := prepareCall_state F s x
  have hbegun : (s.prepareCall F x).2.begun = s.begun + 1 := by rw [hstate]
  have hpending : (s.prepareCall F x).2.pendingCalls = s.pendingCalls := by rw [hstate]
  have hstack : (s.prepareCall F x).2.stack = s.stack := by rw [hstate]
  have hnumber : call.number = s.begun := by
    obtain ⟨reason, hinvalid⟩ | ⟨bytes', call', hvalid, -, hcall, -⟩ := prepareCall_functor F s x
    · cases heq.symm.trans hinvalid
    · cases heq.symm.trans hvalid
      exact hcall
  refine ⟨by rw [hbegun, hnumber]; exact Nat.lt_succ_self _, fun id' bytes' call' hmem hcall => ?_,
    fun n c coroutine reason hmem => ?_, fun id' call' reason hmem hcall => ?_, fun p hp hcall => ?_⟩
  all_goals rw [hnumber] at *
  · obtain hold | hnew := List.mem_append.mp hmem
    · exact absurd hcall (Nat.ne_of_lt (hknown.queued _ hold _ rfl))
    · rw [List.mem_singleton, heq] at hnew
      cases hnew
      exact ⟨rfl, rfl, rfl⟩
  · obtain hold | hnew := List.mem_append.mp hmem
    · exact Nat.ne_of_lt (hknown.queued _ hold _ rfl)
    · rw [List.mem_singleton, heq] at hnew
      cases hnew
  · exact absurd hcall (Nat.ne_of_lt (hknown.held _ (hstack ▸ hmem) _ rfl))
  · exact absurd hcall (Nat.ne_of_lt (hknown.pending p (hpending ▸ hp)))

theorem passage (h : Linked id bytes call s) (hpassage : Passage F s s') :
    Linked id bytes call s' := by
  cases hpassage with
  | flow hflow => exact h.flow hflow
  | prepare x => exact h.prepare F x
  | @register index id' bytes' call' token e hfunctor =>
    have h' := h.dequeue index
    refine ⟨h'.begun, h'.queued, h'.valid, fun id'' call'' reason hmem => ?_, fun p hp hnumber => ?_⟩
    · exact h.waiting id'' call'' reason (List.mem_of_ne_of_mem (by simp) hmem)
    · obtain hp | rfl := by simpa using hp
      · exact h.pending p hp hnumber
      · obtain ⟨hid, -, rfl⟩ := h.queued _ _ _ (List.mem_of_getElem? hfunctor) hnumber
        exact ⟨hid, rfl⟩
  | @degrade index id' bytes' call' reason e count hfunctor =>
    have h' := h.dequeue index
    refine ⟨h'.begun, h'.queued, h'.valid, fun id'' call'' reason' hmem hnumber => ?_, h.pending⟩
    obtain heq | hmem := List.mem_cons.mp hmem
    · cases heq
      obtain ⟨hid, -, rfl⟩ := h.queued _ _ _ (List.mem_of_getElem? hfunctor) hnumber
      exact ⟨hid, rfl⟩
    · exact h.waiting id'' call'' reason' hmem hnumber
  | @write id' token bytes' stack call' conn e hstack =>
    have h' : Linked id bytes call { s with stack := stack } := h.flow (.pop hstack)
    refine ⟨h'.begun, h'.queued, h'.valid, h'.waiting, fun p hp hnumber => ?_⟩
    obtain ⟨q, hq, rfl⟩ := List.mem_map.mp hp
    rw [fst_stored]
    unfold stored at hnumber ⊢
    split at hnumber
    · next heq => simpa [heq] using h.pending q hq hnumber
    · next hne => simpa [hne] using h.pending q hq hnumber
  | heartbeat => exact ⟨h.begun, h.queued, h.valid, h.waiting, h.pending⟩

end Linked

end RpcChannel

end NebulaRpc.Rpc
