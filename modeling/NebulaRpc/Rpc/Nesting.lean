import NebulaRpc.Rpc.Completion
import NebulaRpc.Rpc.Effects

/-!
# Calls that are being registered

`RegisterAndSend` puts a call into the map, registers its cancel closure and only then stores the
token and sets the timer. No user code runs in between, unless the closure runs at once, and then the
call is not pending any more. So a call that waits for its token and its timer is the one that the
handler on top of the stack registers.
-/

namespace NebulaRpc.Rpc

/-- The request id and the token of the call that the handler registers. -/
def ChannelFrame.registering : ChannelFrame → Option (UInt64 × Int)
  | .registered id token _ => some (id, token)
  | _ => none

namespace RpcChannel

/-- What the handler on top of the stack registers. -/
def registering (s : RpcChannel) : Option (UInt64 × Int) :=
  s.stack.head?.bind ChannelFrame.registering

/-- The ids that are queued for their registration. -/
def queuedKeys (s : RpcChannel) : List UInt64 := s.functors.filterMap ChannelFunctor.key

/-- Request ids are used once, and below the top of the stack no pending call is registered. -/
structure Nested (s : RpcChannel) : Prop where
  nodup : (s.keys ++ s.queuedKeys).Nodup
  lt : ∀ id ∈ s.keys ++ s.queuedKeys, id.toNat < s.nextRequestId
  chain : s.stack.IsChain fun f g => g.registering.isSome → ∃ number, f = .done number
  fresh : ∀ f ∈ s.stack, ∀ r ∈ f.registering, r.1 ∉ s.queuedKeys ∧ r.1.toNat < s.nextRequestId
  tail : ∀ f ∈ s.stack.tail, ∀ r ∈ f.registering, r.1 ∉ s.keys

variable {s s₀ s₁ s' : RpcChannel} {F : MetaFormat} {a : ChannelStep}

namespace Opened

/-- Calls leave their places. -/
theorem of_subset (h : Opened s) (hpending : s'.pendingCalls ⊆ s.pendingCalls)
    (hfunctors : ∀ functor ∈ s'.functors, functor.key.isSome → functor ∈ s.functors) :
    Opened s' where
  pending p hp := h.pending p (hpending hp)
  queued id bytes call hmem := h.queued id bytes call (hfunctors _ hmem rfl)

theorem of_eq (h : Opened s) (hpending : s'.pendingCalls = s.pendingCalls)
    (hfunctors : s'.functors = s.functors) : Opened s' :=
  h.of_subset (hpending ▸ List.Subset.refl _) fun _ hmem _ => hfunctors ▸ hmem

theorem post (h : Opened s) {functor : ChannelFunctor} (hkey : functor.key = none) :
    Opened { s with functors := s.functors ++ [functor] } := by
  refine h.of_subset (List.Subset.refl _) fun functor' hmem hsome => ?_
  obtain hmem | heq := List.mem_append.mp hmem
  · exact hmem
  · rw [List.mem_singleton.mp heq, hkey] at hsome
    cases hsome

theorem dequeue (h : Opened s) (index : Nat) :
    Opened { s with functors := s.functors.eraseIdx index } :=
  h.of_subset (List.Subset.refl _) fun _ hmem _ => List.mem_of_mem_eraseIdx hmem

theorem notify (h : Opened s) (number : Nat) (coroutine : Bool) :
    Opened (s.notifyCompletion number coroutine) := by
  have hnotified : Opened { s with notified := number :: s.notified } := h.of_eq rfl rfl
  unfold notifyCompletion
  dsimp only
  split
  · exact hnotified.post rfl
  · exact h.of_eq rfl rfl

theorem modify (h : Opened s) (id : UInt64) {f : PendingCall → PendingCall}
    (hf : ∀ x, (f x).call = x.call) : Opened (s.modifyPending id f) := by
  refine ⟨fun p hp => ?_, h.queued⟩
  obtain ⟨q, hq, rfl⟩ := List.mem_map.mp hp
  have hcall := h.pending q hq
  split
  · exact (hf q.2).trans hcall
  · exact hcall

theorem store (h : Opened s) (id : UInt64) (token : Int) (bytes : List UInt8) (call : PendingCall) :
    Opened (s.store id token bytes call) := by
  have hassign : Opened (s.assign id token call) := by
    have htoken : Opened (s.modifyPending id ({ · with cancelToken := token })) :=
      h.modify id fun _ => rfl
    unfold assign registerTimeoutTimer
    split
    · apply Opened.modify
      · exact htoken.of_eq rfl rfl
      · exact fun _ => rfl
    · exact htoken
  unfold RpcChannel.store
  dsimp only
  split
  · exact hassign.of_eq rfl rfl
  · exact hassign

theorem cause {id : UInt64} {ending : Ending} (h : Opened s) (hcause : Cause a s₀ s s₁ id ending) :
    Opened s₁ := by
  cases hcause with
  | functor => exact h.dequeue _
  | unwritten =>
    apply Opened.store
    exact h.of_eq rfl rfl
  | _ => exact h.of_eq rfl rfl

theorem prepare (h : Opened s) (F : MetaFormat) (x : CallArguments) :
    Opened { (s.prepareCall F x).2 with functors := s.functors ++ [(s.prepareCall F x).1] } := by
  obtain ⟨n, completions, -, hstate⟩ := prepareCall_state F s x
  obtain ⟨reason, hfunctor⟩ | ⟨bytes, call, hfunctor, -, -, -, -, -, -, -, hcall⟩ :=
    prepareCall_functor F s x
  · rw [hfunctor, hstate]
    exact (h.post (show (ChannelFunctor.completeInvalid s.begun x.controller x.coroutine
      reason).key = none from rfl)).of_eq rfl rfl
  · rw [hfunctor, hstate]
    refine ⟨h.pending, fun id' bytes' call' hmem => ?_⟩
    obtain hmem | heq := List.mem_append.mp hmem
    · exact h.queued id' bytes' call' hmem
    · cases List.mem_singleton.mp heq
      exact hcall

/-- A queued call goes into the map, unless its id is there already. -/
theorem insert (h : Opened s) {index : Nat} {id : UInt64} {bytes : List UInt8} {call : PendingCall}
    (hfunctor : s.functors[index]? = some (.registerAndSend id bytes call)) :
    Opened (({ s with functors := s.functors.eraseIdx index }.emplace id call).hook id bytes) := by
  have hemplace : Opened ({ s with functors := s.functors.eraseIdx index }.emplace id call) := by
    unfold emplace
    split
    · exact h.dequeue index
    · refine ⟨fun p hp => ?_, (h.dequeue index).queued⟩
      obtain hp | heq := List.mem_append.mp hp
      · exact h.pending p hp
      · rw [List.mem_singleton.mp heq]
        exact h.queued _ _ _ (List.mem_of_getElem? hfunctor)
  unfold hook
  split
  · exact hemplace.of_eq rfl rfl
  · split <;> exact hemplace.of_eq rfl rfl

theorem effect (h : Opened s) (heffect : Effect F a s₀ s s') : Opened s' := by
  have herase : ∀ {s : RpcChannel}, Opened s → ∀ (id : UInt64) (e : ChannelEnv),
      Opened { s.erasePending id with env := e } := fun h id e =>
    h.of_subset List.filter_sublist.subset fun _ hmem _ => hmem
  cases heffect with
  | finish hcause hfind hpending => exact (herase (h.cause hcause) _ _).notify _ _
  | skip hcause hnone => exact h.cause hcause
  | discard hstack hfind hpending => exact herase h _ _
  | prepare ha => exact h.prepare F _
  | invalid | unavailable | expired =>
    apply Opened.notify
    exact (h.dequeue _).of_eq rfl rfl
  | overloaded =>
    unfold rejectOverloaded
    dsimp only
    split
    · exact (h.dequeue _).of_eq rfl rfl
    · apply Opened.notify
      exact (h.dequeue _).of_eq rfl rfl
  | insert hfunctor => exact h.insert hfunctor
  | store =>
    apply Opened.store
    exact h.of_eq rfl rfl
  | degraded =>
    apply Opened.notify
    exact h.of_eq rfl rfl
  | dequeue => exact h.dequeue _
  | @post functor hnumber =>
    apply h.post
    cases functor <;> first | rfl | cases hnumber
  | @endOfFrames conn error stack order hstack horder =>
    cases error with
    | none => exact (h.post rfl).of_eq rfl rfl
    | some error => exact h.of_eq rfl rfl
  | sendHeartbeat =>
    unfold sendHeartbeat
    dsimp only
    split
    · exact h
    · split <;> exact h.of_eq rfl rfl
  | @remoteClosure index id hid =>
    have hpost := h.post (show (ChannelFunctor.cancel id).key = none from rfl)
    cases halive : s.alive
    · exact h.of_eq rfl rfl
    · exact hpost.of_eq rfl rfl
  | _ => exact h.of_eq rfl rfl

end Opened

theorem registering_of_userCode (h : s.userCode = true) : s.registering = none := by
  unfold userCode at h
  unfold registering
  cases hstack : s.stack with
  | nil => rfl
  | cons frame stack =>
    rw [hstack] at h
    cases frame with
    | registered => cases h
    | _ => rfl

theorem registering_of_network (h : s.network = true) : s.registering = none := by
  unfold network at h
  unfold registering
  cases hstack : s.stack with
  | nil => rfl
  | cons frame stack =>
    rw [hstack] at h
    cases frame with
    | registered => cases h
    | _ => rfl

theorem registering_of_empty (h : s.stack = []) : s.registering = none := by
  simp [registering, h]

theorem registering_cons {frame : ChannelFrame} {stack : List ChannelFrame}
    (h : s.stack = frame :: stack) : s.registering = frame.registering := by
  simp [registering, h]

namespace Nested

theorem keys_nodup (h : Nested s) : s.keys.Nodup := (List.nodup_append'.mp h.nodup).1

/-- When no handler on top registers a call, nobody on the stack registers a pending one. -/
theorem notMem_keys (h : Nested s) (hregistering : ∀ r ∈ s.registering, r.1 ∉ s.keys)
    {f : ChannelFrame} (hf : f ∈ s.stack) {r : UInt64 × Int} (hr : r ∈ f.registering) :
    r.1 ∉ s.keys := by
  cases hstack : s.stack with
  | nil => simp [hstack] at hf
  | cons frame stack =>
    rw [hstack] at hf
    obtain rfl | hf := List.mem_cons.mp hf
    · exact hregistering r (registering_cons hstack ▸ hr)
    · exact h.tail f (by simpa [hstack] using hf) r hr

/-- Calls leave their places. -/
theorem of_sublist (h : Nested s) (hkeys : s'.keys.Sublist s.keys)
    (hqueued : s'.queuedKeys.Sublist s.queuedKeys) (hnext : s.nextRequestId ≤ s'.nextRequestId)
    (hstack : s'.stack = s.stack) : Nested s' where
  nodup := h.nodup.sublist (hkeys.append hqueued)
  lt id hid := (h.lt id ((hkeys.append hqueued).subset hid)).trans_le hnext
  chain := hstack ▸ h.chain
  fresh f hf r hr := by
    obtain ⟨hnot, hlt⟩ := h.fresh f (hstack ▸ hf) r hr
    exact ⟨fun hmem => hnot (hqueued.subset hmem), hlt.trans_le hnext⟩
  tail f hf r hr hmem := h.tail f (hstack ▸ hf) r hr (hkeys.subset hmem)

theorem of_eq (h : Nested s) (hpending : s'.pendingCalls = s.pendingCalls)
    (hfunctors : s'.functors = s.functors) (hstack : s'.stack = s.stack)
    (hnext : s.nextRequestId ≤ s'.nextRequestId) : Nested s' := by
  refine h.of_sublist ?_ ?_ hnext hstack
  · rw [keys, keys, hpending]
  · rw [queuedKeys, queuedKeys, hfunctors]

theorem pop (h : Nested s) {frame : ChannelFrame} {stack : List ChannelFrame}
    (hstack : s.stack = frame :: stack) : Nested { s with stack := stack } := by
  obtain ⟨hnodup, hlt, hchain, hfresh, htail⟩ := h
  rw [hstack] at hchain hfresh htail
  refine ⟨hnodup, hlt, hchain.tail, fun f hf => hfresh f (List.mem_cons_of_mem _ hf),
    fun f hf => ?_⟩
  exact htail f (List.mem_of_mem_tail hf)

/-- Only callbacks run on top of a registration. -/
theorem registering_pop (h : Nested s) {frame : ChannelFrame} {stack : List ChannelFrame}
    (hstack : s.stack = frame :: stack) (hframe : ∀ number, frame ≠ .done number) :
    ({ s with stack := stack } : RpcChannel).registering = none := by
  have hchain := h.chain
  rw [hstack] at hchain
  cases stack with
  | nil => rfl
  | cons f stack =>
    have hnone : f.registering = none := by
      by_contra hne
      obtain ⟨number, hdone⟩ := (List.isChain_cons_cons.mp hchain).1 (Option.isSome_iff_ne_none.mpr hne)
      exact hframe number hdone
    exact (registering_cons rfl).trans hnone

/-- Behind a callback, the registration below it has lost its call. -/
theorem registering_pop_notMem (h : Nested s) {frame : ChannelFrame} {stack : List ChannelFrame}
    (hstack : s.stack = frame :: stack) :
    ∀ r ∈ ({ s with stack := stack } : RpcChannel).registering, r.1 ∉ s.keys := by
  intro r hr
  cases stack with
  | nil => cases hr
  | cons f stack => exact h.tail f (by simp [hstack]) r hr

theorem push (h : Nested s) (hregistering : s.registering = none) {frame : ChannelFrame}
    (hframe : frame.registering = none) : Nested (s.push frame) := by
  refine ⟨h.nodup, h.lt, ?_, ?_, ?_⟩
  · refine List.isChain_cons.mpr ⟨fun g hg hsome => ?_, h.chain⟩
    rw [registering, Option.mem_def.mp hg, Option.bind_some] at hregistering
    simp [hregistering] at hsome
  · intro f hf r hr
    obtain rfl | hf := List.mem_cons.mp hf
    · simp [hframe] at hr
    · exact h.fresh f hf r hr
  · intro f hf r hr
    exact h.notMem_keys (by simp [hregistering]) hf hr

theorem post (h : Nested s) {functor : ChannelFunctor} (hkey : functor.key = none) :
    Nested { s with functors := s.functors ++ [functor] } := by
  refine h.of_sublist (List.Sublist.refl _) ?_ (Nat.le_refl _) rfl
  simp [queuedKeys, hkey]

theorem dequeue (h : Nested s) (index : Nat) :
    Nested { s with functors := s.functors.eraseIdx index } :=
  h.of_sublist (List.Sublist.refl _) ((List.eraseIdx_sublist s.functors index).filterMap _)
    (Nat.le_refl _) rfl

theorem erase (h : Nested s) (id : UInt64) (e : ChannelEnv) :
    Nested { s.erasePending id with env := e } := by
  have hsub : (s.pendingCalls.filter (·.1 ≠ id)).Sublist s.pendingCalls := List.filter_sublist
  exact h.of_sublist (hsub.map _) (List.Sublist.refl _) (Nat.le_refl _) rfl

/-- A call is notified; if a handler on top of the stack registers a call, it is not pending. -/
theorem notify (h : Nested s) (hregistering : ∀ r ∈ s.registering, r.1 ∉ s.keys) (number : Nat)
    (coroutine : Bool) : Nested (s.notifyCompletion number coroutine) := by
  have hnotified : Nested { s with notified := number :: s.notified } :=
    h.of_eq rfl rfl rfl (Nat.le_refl _)
  unfold notifyCompletion
  dsimp only
  split
  · exact hnotified.post rfl
  · refine ⟨h.nodup, h.lt, ?_, ?_, ?_⟩
    · exact List.isChain_cons.mpr ⟨fun g _ _ => ⟨number, rfl⟩, h.chain⟩
    · intro f hf r hr
      obtain rfl | hf := List.mem_cons.mp hf
      · cases hr
      · exact h.fresh f hf r hr
    · exact fun f hf r hr => h.notMem_keys hregistering hf hr

theorem store (h : Nested s) (id : UInt64) (token : Int) (bytes : List UInt8) (call : PendingCall) :
    Nested (s.store id token bytes call) := by
  have hmodify : ∀ {s : RpcChannel} (f : PendingCall → PendingCall), Nested s →
      Nested (s.modifyPending id f) := by
    intro s f h
    refine h.of_sublist ?_ (List.Sublist.refl _) (Nat.le_refl _) rfl
    rw [keys_modifyPending]
  have hassign : Nested (s.assign id token call) := by
    have htoken := hmodify ({ · with cancelToken := token }) h
    unfold assign registerTimeoutTimer
    split
    · exact hmodify _ (htoken.of_eq rfl rfl rfl (Nat.le_refl _))
    · exact htoken
  unfold RpcChannel.store
  dsimp only
  split
  · exact hassign.of_eq rfl rfl rfl (Nat.le_refl _)
  · exact hassign

/-- The call that a cause looks up is the only one that a handler on top may register. -/
theorem cause {id : UInt64} {ending : Ending} (h : Nested s) (hcause : Cause a s₀ s s₁ id ending) :
    Nested s₁ ∧ ∀ r ∈ s₁.registering, r.1 = id := by
  have hreplace : ∀ {frame frame' : ChannelFrame} {stack : List ChannelFrame},
      s.stack = frame :: stack → (∀ number, frame ≠ .done number) → frame'.registering = none →
      Nested { s with stack := frame' :: stack } ∧
        ∀ r ∈ ({ s with stack := frame' :: stack } : RpcChannel).registering, r.1 = id := by
    intro frame frame' stack hstack hframe hnone
    refine ⟨(h.pop hstack).push (h.registering_pop hstack hframe) hnone, ?_⟩
    simp [registering, hnone]
  cases hcause with
  | frame hfirst ha hstack htype => exact hreplace hstack (by simp) rfl
  | connection hstack => exact hreplace hstack (by simp) rfl
  | startCancel hstack => exact hreplace hstack (by simp) rfl
  | closed hstack => exact ⟨h, by simp [registering, hstack, ChannelFrame.registering]⟩
  | timeout hstack htimer =>
    exact ⟨h.of_eq rfl rfl rfl (Nat.le_refl _), by simp [registering, hstack]⟩
  | functor hfunctor huser =>
    have hnone : s.registering = none := registering_of_userCode huser
    exact ⟨h.dequeue _, fun r hr => by rw [registering] at hnone hr; simp [hnone] at hr⟩
  | cancel huser =>
    refine ⟨h, fun r hr => ?_⟩
    obtain huser | ⟨bytes, stack, hstack⟩ := huser
    · simp [registering_of_userCode huser] at hr
    · rw [registering_cons hstack] at hr
      cases hr
      rfl
  | @unwritten id token bytes stack call hstack hfind hconnection =>
    refine ⟨(h.pop hstack).store _ _ _ _, ?_⟩
    have hnone := h.registering_pop hstack (by simp)
    have hstore : (({ s with stack := stack } : RpcChannel).store id token bytes call).registering =
        ({ s with stack := stack } : RpcChannel).registering := by
      unfold registering RpcChannel.store assign registerTimeoutTimer
      dsimp only
      split <;> split <;> rfl
    rw [hstore, hnone]
    simp

/-- A call is queued with an id that is new. -/
theorem enqueue (h : Nested s) {id : UInt64} {bytes : List UInt8} {call : PendingCall}
    (hnew : s.nextRequestId ≤ id.toNat) (hlt : id.toNat < s'.nextRequestId)
    (hpending : s'.pendingCalls = s.pendingCalls)
    (hfunctors : s'.functors = s.functors ++ [.registerAndSend id bytes call])
    (hstack : s'.stack = s.stack) : Nested s' := by
  have hkeys : s'.keys = s.keys := by rw [keys, keys, hpending]
  have hqueued : s'.queuedKeys = s.queuedKeys ++ [id] := by
    simp [queuedKeys, hfunctors, ChannelFunctor.key]
  have hnext : s.nextRequestId ≤ s'.nextRequestId := hnew.trans hlt.le
  refine ⟨?_, ?_, hstack ▸ h.chain, ?_, hstack ▸ hkeys ▸ h.tail⟩
  · rw [hkeys, hqueued, ← List.append_assoc]
    refine List.nodup_append'.mpr ⟨h.nodup, List.nodup_singleton _, ?_⟩
    exact List.disjoint_singleton.mpr fun hmem => absurd (h.lt id hmem) (by omega)
  · intro id' hid'
    rw [hkeys, hqueued, ← List.append_assoc] at hid'
    obtain hid' | hid' := List.mem_append.mp hid'
    · exact (h.lt id' hid').trans_le hnext
    · obtain rfl := List.mem_singleton.mp hid'
      exact hlt
  · intro f hf r hr
    obtain ⟨hnot, hlt'⟩ := h.fresh f (hstack ▸ hf) r hr
    refine ⟨?_, hlt'.trans_le hnext⟩
    rw [hqueued, List.mem_append, List.mem_singleton, not_or]
    refine ⟨hnot, ?_⟩
    rintro rfl
    omega

theorem prepare (h : Nested s) (F : MetaFormat) (x : CallArguments)
    (hwrap : (s.prepareCall F x).2.nextRequestId ≤ 2 ^ 64) :
    Nested { (s.prepareCall F x).2 with
      functors := s.functors ++ [(s.prepareCall F x).1] } := by
  obtain ⟨n, completions, hn, hstate⟩ := prepareCall_state F s x
  obtain ⟨reason, hfunctor⟩ | ⟨bytes, call, hfunctor, hnext, -⟩ :=
    prepareCall_functor F s x
  · rw [hfunctor, hstate]
    have hpost := h.post (show (ChannelFunctor.completeInvalid s.begun x.controller x.coroutine
      reason).key = none from rfl)
    refine hpost.of_eq rfl rfl rfl ?_
    obtain rfl | rfl := by simpa using hn
    · exact Nat.le_refl _
    · exact Nat.le_succ _
  · rw [hstate] at hnext hwrap
    obtain rfl : n = s.nextRequestId + 1 := hnext
    have hnumber : (UInt64.ofNat s.nextRequestId).toNat = s.nextRequestId :=
      Nat.mod_eq_of_lt (Nat.lt_of_succ_le hwrap)
    rw [hfunctor, hstate]
    exact h.enqueue hnumber.ge (hnumber.trans_lt (Nat.lt_succ_self _)) rfl rfl rfl

/-- A queued id is new to the map, and its functor is the only one. -/
theorem queued_notMem (h : Nested s) {index : Nat} {id : UInt64} {bytes : List UInt8}
    {call : PendingCall} (hfunctor : s.functors[index]? = some (.registerAndSend id bytes call)) :
    id ∈ s.queuedKeys ∧ id ∉ s.keys ∧
      id ∉ (s.functors.eraseIdx index).filterMap ChannelFunctor.key := by
  have hperm := filterMap_eraseIdx_perm ChannelFunctor.key hfunctor
  have hmem : id ∈ s.queuedKeys := hperm.subset List.mem_cons_self
  obtain ⟨-, hqueued, hdisjoint⟩ := List.nodup_append'.mp h.nodup
  exact ⟨hmem, fun hkey => hdisjoint hkey hmem, (List.nodup_cons.mp (hperm.nodup_iff.mpr hqueued)).1⟩

/-- A queued call goes into the map. -/
theorem insert (h : Nested s) {index : Nat} {id : UInt64} {bytes : List UInt8} {call : PendingCall}
    (hfunctor : s.functors[index]? = some (.registerAndSend id bytes call))
    (hregistering : s.registering = none) {token : Int}
    (hpending : s'.pendingCalls = s.pendingCalls ++ [(id, call)])
    (hfunctors : s'.functors = s.functors.eraseIdx index)
    (hstack : s'.stack = .registered id token bytes :: s.stack)
    (hnext : s'.nextRequestId = s.nextRequestId) : Nested s' := by
  obtain ⟨hmem, hnot, hother⟩ := h.queued_notMem hfunctor
  have hdequeue := h.dequeue index
  have hkeys : s'.keys = s.keys ++ [id] := by rw [keys, hpending, List.map_append]; rfl
  have hqueued : s'.queuedKeys = (s.functors.eraseIdx index).filterMap ChannelFunctor.key := by
    rw [queuedKeys, hfunctors]
  have hperm : (s'.keys ++ s'.queuedKeys).Perm (s.keys ++ s.queuedKeys) := by
    rw [hkeys, hqueued, List.append_assoc]
    exact (filterMap_eraseIdx_perm ChannelFunctor.key hfunctor).append_left _
  refine ⟨hperm.nodup_iff.mpr h.nodup, ?_, ?_, ?_, ?_⟩
  · intro id' hid'
    rw [hnext]
    exact h.lt id' (hperm.subset hid')
  · rw [hstack]
    refine List.isChain_cons.mpr ⟨fun g hg hsome => ?_, h.chain⟩
    rw [registering, Option.mem_def.mp hg, Option.bind_some] at hregistering
    simp [hregistering] at hsome
  · intro f hf r hr
    rw [hstack] at hf
    rw [hqueued, hnext]
    obtain rfl | hf := List.mem_cons.mp hf
    · cases hr
      exact ⟨hother, h.lt _ (List.mem_append_right _ hmem)⟩
    · exact hdequeue.fresh f hf r hr
  · intro f hf r hr
    rw [hstack] at hf
    rw [hkeys, List.mem_append, List.mem_singleton, not_or]
    refine ⟨h.notMem_keys (by simp [hregistering]) hf hr, ?_⟩
    rintro rfl
    exact (h.fresh f hf r hr).1 hmem

end Nested

/-- What becomes of a call that goes into the map: it has no closure, or a new one in its
controller. -/
theorem hook_emplace {id : UInt64} (hnew : id ∉ s.keys) (call : PendingCall) (bytes : List UInt8) :
    (s.emplace id call).hook id bytes = { s with
        pendingCalls := s.pendingCalls ++ [(id, call)]
        stack := .registered id (-1) bytes :: s.stack } ∨
      ∃ c, call.coroutine = false ∧ call.controller = some c ∧
        (s.emplace id call).hook id bytes = { s with
          pendingCalls := s.pendingCalls ++ [(id, call)]
          env := s.env.updateController (fun x => (x.registerOnCancel id).2) (some c)
          stack := .registered id (wrap32 (s.env.controllers c).nextCancelToken) bytes :: s.stack } := by
  have hnone := findPending_eq_none hnew
  have hemplace : s.emplace id call =
      { s with pendingCalls := s.pendingCalls ++ [(id, call)] } := by
    simp [emplace, hnone]
  have hfind : ({ s with pendingCalls := s.pendingCalls ++ [(id, call)] } : RpcChannel).findPending
      id = some call := by
    have hnone' : s.pendingCalls.find? (·.1 = id) = none := by simpa [findPending] using hnone
    simp [findPending, List.find?_append, hnone']
  rw [hemplace]
  unfold hook
  rw [hfind, Option.bind_some]
  cases hcoroutine : call.coroutine with
  | true => exact .inl rfl
  | false =>
    cases hcontroller : call.controller with
    | none => exact .inl rfl
    | some c =>
      simp only [Bool.false_eq_true, if_false]
      split
      · exact .inl rfl
      · exact .inr ⟨c, trivial, rfl, rfl⟩

theorem nextRequestId_le_effect (h : Effect F a s₀ s s') : s.nextRequestId ≤ s'.nextRequestId := by
  have hstore : ∀ (s : RpcChannel) (id : UInt64) token bytes call,
      (s.store id token bytes call).nextRequestId = s.nextRequestId := by
    intro s id token bytes call
    unfold RpcChannel.store assign registerTimeoutTimer
    dsimp only
    split <;> split <;> rfl
  have hcause : ∀ {s₁ : RpcChannel} {id : UInt64} {ending : Ending}, Cause a s₀ s s₁ id ending →
      s₁.nextRequestId = s.nextRequestId := by
    rintro s₁ id ending (_ | _ | _ | _ | _ | _ | _ | _)
    case unwritten => exact hstore _ _ _ _ _
    all_goals rfl
  cases h with
  | finish hcause' =>
    rw [RpcChannel.finish, nextRequestId_notifyCompletion]
    exact (hcause hcause').ge
  | skip hcause' => exact (hcause hcause').ge
  | @prepare arguments ha => exact nextRequestId_le_prepareCall F s arguments
  | invalid | unavailable | expired | degraded =>
    simp only [completeInvalid, rejectUnavailable, reject, RpcChannel.degraded,
      nextRequestId_notifyCompletion, Nat.le_refl]
  | overloaded =>
    unfold rejectOverloaded
    dsimp only
    split
    · exact Nat.le_refl _
    · rw [nextRequestId_notifyCompletion]
  | insert =>
    unfold hook emplace
    split <;> split <;> first | exact Nat.le_refl _ | (split <;> exact Nat.le_refl _)
  | store => rw [hstore]
  | @endOfFrames _ error =>
    cases error with
    | none => exact Nat.le_refl _
    | some => exact Nat.le_refl _
  | sendHeartbeat =>
    unfold sendHeartbeat
    dsimp only
    split
    · exact Nat.le_refl _
    · split <;> exact Nat.le_succ _
  | drawRequestId => exact Nat.le_succ _
  | _ => exact Nat.le_refl _

theorem Nested.effect (h : Nested s) (hwrap : s'.nextRequestId ≤ 2 ^ 64)
    (heffect : Effect F a s₀ s s') : Nested s' := by
  have hnotify : ∀ {index : Nat} (e : ChannelEnv) (count number : Nat) (coroutine : Bool),
      s.userCode = true → Nested ({ s with
        functors := s.functors.eraseIdx index
        env := e
        overloadRejectCount := count }.notifyCompletion number coroutine) := by
    intro index e count number coroutine huser
    have hdequeue : Nested { s with
        functors := s.functors.eraseIdx index, env := e, overloadRejectCount := count } :=
      (h.dequeue index).of_eq rfl rfl rfl (Nat.le_refl _)
    have hnone : s.registering = none := registering_of_userCode huser
    refine hdequeue.notify (fun r hr => ?_) number coroutine
    rw [registering] at hnone hr
    simp [hnone] at hr
  have hreplace : ∀ {frame frame' : ChannelFrame} {stack : List ChannelFrame},
      s.stack = frame :: stack → (∀ number, frame ≠ .done number) → frame'.registering = none →
      Nested { s with stack := frame' :: stack } := by
    intro frame frame' stack hstack hframe hnone
    exact (h.pop hstack).push (h.registering_pop hstack hframe) hnone
  cases heffect with
  | @finish s₁ id call ending hcause hfind hpending =>
    obtain ⟨hcaused, hregistering⟩ := h.cause hcause
    unfold RpcChannel.finish
    apply Nested.notify (hcaused.erase id _)
    intro r hr hmem
    obtain rfl := hregistering r hr
    simp [keys, erasePending] at hmem
  | skip hcause hnone => exact (h.cause hcause).1
  | discard hstack hfind hpending => exact h.erase _ _
  | prepare ha => exact h.prepare F _ hwrap
  | invalid hfunctor huser => exact hnotify _ s.overloadRejectCount _ _ huser
  | unavailable hfunctor hstate huser => exact hnotify _ s.overloadRejectCount _ _ huser
  | @overloaded index id bytes call hfunctor hstate hroom huser =>
    unfold rejectOverloaded
    dsimp only
    split
    · apply Nested.push _ _ rfl
      · exact (h.dequeue index).of_eq rfl rfl rfl (Nat.le_refl _)
      · exact registering_of_userCode huser
    · exact hnotify _ (s.overloadRejectCount + 1) _ _ huser
  | expired hfunctor hstate hroom hdeadline huser =>
    exact hnotify _ s.overloadRejectCount _ _ huser
  | @insert index id bytes call hfunctor hstate hroom hdeadline huser =>
    have hnone := registering_of_userCode huser
    have hnew : id ∉ ({ s with functors := s.functors.eraseIdx index } : RpcChannel).keys :=
      (h.queued_notMem hfunctor).2.1
    obtain heq | ⟨c, -, -, heq⟩ := hook_emplace hnew call bytes
    · rw [heq]
      exact h.insert hfunctor hnone rfl rfl rfl rfl
    · rw [heq]
      exact h.insert hfunctor hnone rfl rfl rfl rfl
  | store hstack hfind => exact (h.pop hstack).store _ _ _ _
  | unregistered hstack hfind => exact h.pop hstack
  | @degraded id call reason stack accepted index order hfirst ha hstack =>
    have hpop : Nested { s with stack := stack } := h.pop hstack
    have hnone := h.registering_pop hstack (by simp)
    unfold RpcChannel.degraded
    apply Nested.notify
    · exact hpop.of_eq rfl rfl rfl (Nat.le_refl _)
    · intro r hr
      rw [registering] at hnone hr
      simp [hnone] at hr
  | dequeue hfunctor hnumber => exact h.dequeue _
  | @post functor hnumber =>
    apply h.post
    cases functor <;> first | rfl | cases hnumber
  | returned hstack hfinished => exact h.pop hstack
  | cancelIgnored hstack => exact hreplace hstack (by simp) rfl
  | heartbeatFrame hstack htype =>
    exact (hreplace hstack (by simp) rfl).of_eq rfl rfl rfl (Nat.le_refl _)
  | @endOfFrames conn error stack order hstack horder =>
    cases error with
    | none => exact (h.pop hstack).post rfl
    | some error =>
      have hpop : Nested { s with
          stack := stack
          connectionState := .disconnected
          connectionError := octets ("RPC protocol error: " ++ error) } :=
        (h.pop hstack).of_eq rfl rfl rfl (Nat.le_refl _)
      exact (hpop.push (h.registering_pop hstack (by simp)) rfl).push rfl rfl
  | destroyed hstack hkeys => exact (h.pop hstack).of_eq rfl rfl rfl (Nat.le_refl _)
  | sendHeartbeat hstate =>
    unfold sendHeartbeat
    dsimp only
    split
    · exact h
    · split <;> exact h.of_eq rfl rfl rfl (Nat.le_succ _)
  | forceClose hstack => exact h.push (registering_of_empty hstack) rfl
  | startCancel ha huser =>
    apply Nested.push _ _ rfl
    · exact h.of_eq rfl rfl rfl (Nat.le_refl _)
    · exact registering_of_userCode huser
  | @remoteClosure index id hid =>
    have hpost := h.post (show (ChannelFunctor.cancel id).key = none from rfl)
    cases halive : s.alive
    · simp only [Bool.false_eq_true, if_false]
      exact h.of_eq rfl rfl rfl (Nat.le_refl _)
    · simp only [if_true]
      exact hpost.of_eq rfl rfl rfl (Nat.le_refl _)
  | onMessage ha hstack => exact h.push (registering_of_empty hstack) rfl
  | connectionDown ha halive horder hconnection hstate hnetwork =>
    apply Nested.push _ _ rfl
    · exact h.of_eq rfl rfl rfl (Nat.le_refl _)
    · exact registering_of_network hnetwork
  | destroy hstack hqueued =>
    apply Nested.push _ _ rfl
    · exact h.of_eq rfl rfl rfl (Nat.le_refl _)
    · exact registering_of_empty hstack
  | drawRequestId => exact h.of_eq rfl rfl rfl (Nat.le_succ _)
  | timerIgnored | scheduleHeartbeat | heartbeatMissed | elapse | callMethodWithoutDone
  | remoteStartCancel | resetController | setTimeout | setDeadline | setFailed | setMaxPendingCalls
  | setDegradeHandler | connectionUp | connectionGone | shutdown =>
    exact h.of_eq rfl rfl rfl (Nat.le_refl _)

end RpcChannel

end NebulaRpc.Rpc
