import NebulaRpc.Rpc.Nesting

/-!
# The state of the connection and the pending calls

While the channel is not connected, each call in the map is one that a running `FailAllPending` has
still to come to. A protocol error is found with nothing else on the stack, so no call is half
registered when the channel goes offline, and from then on nothing is written.
-/

namespace NebulaRpc.Rpc

/-- The handler is `OnMessage`. -/
def ChannelFrame.message : ChannelFrame → Bool
  | .onMessage .. => true
  | _ => false

/-- The texts of protocol errors. -/
def ProtocolError (text : List UInt8) : Prop :=
  ∃ error : String, text = octets ("RPC protocol error: " ++ error)

namespace RpcChannel

/-- A running `FailAllPending` has still to come to the id. -/
def Doomed (s : RpcChannel) (id : UInt64) : Prop := ∃ ids, .failEach ids ∈ s.stack ∧ id ∈ ids

/-- What the state of the connection says about the calls. -/
structure Governed (s : RpcChannel) : Prop where
  covered : s.alive = true → s.connectionState ≠ .connected → ∀ id ∈ s.keys, s.Doomed id
  attached : s.alive = true → s.connectionState = .connected → s.connection ≠ none
  bottom : s.stack.IsChain fun f _ => f.message = false
  offline : s.connectionState = .disconnected →
    ProtocolError s.connectionError ∧ ∀ f ∈ s.stack, f.registering = none

variable {s s₀ s₁ s' : RpcChannel} {F : MetaFormat} {a : ChannelStep}

namespace Governed

/-- Calls leave the map, and the connection and the stack stay. -/
theorem of_subset (h : Governed s) (hkeys : s'.keys ⊆ s.keys) (hstack : s'.stack = s.stack)
    (hconnection : s'.connection = s.connection) (hstate : s'.connectionState = s.connectionState)
    (herror : s'.connectionError = s.connectionError) (halive : s'.alive = s.alive) :
    Governed s' where
  covered ha hs id hid := by
    obtain ⟨ids, hmem, hid⟩ := h.covered (halive ▸ ha) (hstate ▸ hs) id (hkeys hid)
    exact ⟨ids, hstack ▸ hmem, hid⟩
  attached ha hs := hconnection ▸ h.attached (halive ▸ ha) (hstate ▸ hs)
  bottom := hstack ▸ h.bottom
  offline hs := hstack ▸ herror ▸ h.offline (hstate ▸ hs)

theorem of_eq (h : Governed s) (hpending : s'.pendingCalls = s.pendingCalls)
    (hstack : s'.stack = s.stack) (hconnection : s'.connection = s.connection)
    (hstate : s'.connectionState = s.connectionState)
    (herror : s'.connectionError = s.connectionError) (halive : s'.alive = s.alive) :
    Governed s' := by
  refine h.of_subset ?_ hstack hconnection hstate herror halive
  rw [keys, keys, hpending]
  exact List.Subset.refl _

theorem erase (h : Governed s) (id : UInt64) : Governed (s.erasePending id) := by
  have hsub : (s.pendingCalls.filter (·.1 ≠ id)).Sublist s.pendingCalls := List.filter_sublist
  exact h.of_subset (hsub.map _).subset rfl rfl rfl rfl rfl

/-- A handler that has no calls left to fail returns. -/
theorem pop (h : Governed s) {frame : ChannelFrame} {stack : List ChannelFrame}
    (hstack : s.stack = frame :: stack)
    (hframe : ∀ ids, frame = .failEach ids → ∀ id ∈ ids, id ∉ s.keys) :
    Governed { s with stack := stack } := by
  obtain ⟨hcovered, hattached, hbottom, hoffline⟩ := h
  simp only [Doomed, hstack] at hcovered hbottom hoffline
  refine ⟨fun ha hs id hid => ?_, hattached, hbottom.tail, fun hs => ?_⟩
  · obtain ⟨ids, hmem, hids⟩ := hcovered ha hs id hid
    obtain heq | hmem := List.mem_cons.mp hmem
    · exact absurd hid (hframe ids heq.symm id hids)
    · exact ⟨ids, hmem, hids⟩
  · obtain ⟨herror, hnone⟩ := hoffline hs
    exact ⟨herror, fun f hf => hnone f (List.mem_cons_of_mem _ hf)⟩

/-- The handler on top of the stack goes on. -/
theorem replace (h : Governed s) {frame frame' : ChannelFrame} {stack : List ChannelFrame}
    (hstack : s.stack = frame :: stack)
    (hframe : ∀ ids, frame = .failEach ids →
      ∃ ids', frame' = .failEach ids' ∧ ∀ id ∈ ids, id ∈ s.keys → id ∈ ids')
    (hmessage : frame'.message = true → frame.message = true)
    (hregistering : frame'.registering = none) :
    Governed { s with stack := frame' :: stack } := by
  obtain ⟨hcovered, hattached, hbottom, hoffline⟩ := h
  simp only [Doomed, hstack] at hcovered hbottom hoffline
  obtain ⟨hhead, htail⟩ := List.isChain_cons.mp hbottom
  refine ⟨fun ha hs id hid => ?_, hattached, ?_, fun hs => ?_⟩
  · obtain ⟨ids, hmem, hids⟩ := hcovered ha hs id hid
    obtain heq | hmem := List.mem_cons.mp hmem
    · obtain ⟨ids', rfl, hids'⟩ := hframe ids heq.symm
      exact ⟨ids', List.mem_cons_self, hids' id hids hid⟩
    · exact ⟨ids, List.mem_cons_of_mem _ hmem, hids⟩
  · refine List.isChain_cons.mpr ⟨fun g hg => ?_, htail⟩
    have hnot := hhead g hg
    grind
  · obtain ⟨herror, hnone⟩ := hoffline hs
    refine ⟨herror, fun f hf => ?_⟩
    obtain rfl | hf := List.mem_cons.mp hf
    · exact hregistering
    · exact hnone f (List.mem_cons_of_mem _ hf)

/-- `OnMessage` is pushed on the empty stack only, and calls are registered while connected. -/
theorem push (h : Governed s) {frame : ChannelFrame}
    (hmessage : frame.message = true → s.stack = [])
    (hregistering : frame.registering = none ∨ s.connectionState ≠ .disconnected) :
    Governed (s.push frame) := by
  refine ⟨fun ha hs id hid => ?_, h.attached, ?_, fun hs => ?_⟩
  · obtain ⟨ids, hmem, hids⟩ := h.covered ha hs id hid
    exact ⟨ids, List.mem_cons_of_mem _ hmem, hids⟩
  · refine List.isChain_cons.mpr ⟨fun g hg => ?_, h.bottom⟩
    by_contra hne
    simp [hmessage (by simpa using hne)] at hg
  · obtain ⟨herror, hnone⟩ := h.offline hs
    refine ⟨herror, fun f hf => ?_⟩
    obtain rfl | hf := List.mem_cons.mp hf
    · exact hregistering.resolve_right (not_not.mpr hs)
    · exact hnone f hf

theorem notify (h : Governed s) (number : Nat) (coroutine : Bool) :
    Governed (s.notifyCompletion number coroutine) := by
  have hnotified : Governed { s with notified := number :: s.notified } :=
    h.of_eq rfl rfl rfl rfl rfl rfl
  unfold notifyCompletion
  dsimp only
  split
  · exact hnotified.of_eq rfl rfl rfl rfl rfl rfl
  · exact hnotified.push (by simp [ChannelFrame.message]) (.inl rfl)

theorem store (h : Governed s) (id : UInt64) (token : Int) (bytes : List UInt8)
    (call : PendingCall) : Governed (s.store id token bytes call) := by
  have hmodify : ∀ {s : RpcChannel} (f : PendingCall → PendingCall), Governed s →
      Governed (s.modifyPending id f) := by
    intro s f h
    refine h.of_subset ?_ rfl rfl rfl rfl rfl
    rw [keys_modifyPending]
    exact List.Subset.refl _
  have hassign : Governed (s.assign id token call) := by
    have htoken := hmodify ({ · with cancelToken := token }) h
    unfold assign registerTimeoutTimer
    split
    · exact hmodify _ (htoken.of_eq rfl rfl rfl rfl rfl rfl)
    · exact htoken
  unfold RpcChannel.store
  dsimp only
  split
  · exact hassign.of_eq rfl rfl rfl rfl rfl rfl
  · exact hassign

/-- A call that ends leaves the map together with its place in `FailAllPending`. -/
theorem cause {id : UInt64} {ending : Ending} (h : Governed s) (hcause : Cause a s₀ s s₁ id ending) :
    Governed (s₁.erasePending id) := by
  cases hcause with
  | frame hfirst ha hstack htype =>
    apply (h.erase _).replace hstack
    · simp
    · exact fun _ => rfl
    · rfl
  | @connection id ids stack hstack =>
    apply (h.erase id).replace hstack
    · rintro _ ⟨⟩
      refine ⟨ids, rfl, fun id' hid' hmem => ?_⟩
      obtain rfl | hid' := List.mem_cons.mp hid'
      · simp [keys, erasePending] at hmem
      · exact hid'
    · simp [ChannelFrame.message]
    · rfl
  | startCancel hstack =>
    apply (h.erase id).replace hstack
    · simp
    · simp [ChannelFrame.message]
    · rfl
  | closed | cancel => exact h.erase id
  | timeout | functor => exact (h.erase id).of_eq rfl rfl rfl rfl rfl rfl
  | unwritten hstack hfind hconnection =>
    apply Governed.erase
    apply Governed.store
    exact h.pop hstack (by simp)

/-- A queued call goes into the map. -/
theorem insert (h : Governed s) (hstate : s.connectionState = .connected) (id : UInt64)
    (call : PendingCall) (bytes : List UInt8) (functors : List ChannelFunctor) :
    Governed (({ s with functors := functors }.emplace id call).hook id bytes) := by
  have hemplace : Governed ({ s with functors := functors }.emplace id call) ∧
      ({ s with functors := functors }.emplace id call).connectionState = .connected := by
    unfold emplace
    split
    · exact ⟨h.of_eq rfl rfl rfl rfl rfl rfl, hstate⟩
    · exact ⟨⟨fun _ hnot => absurd hstate hnot, h.attached, h.bottom, h.offline⟩, hstate⟩
  obtain ⟨hemplace, hconnected⟩ := hemplace
  have hpush : ∀ (e : ChannelEnv) (token : Int), Governed ({
      { s with functors := functors }.emplace id call with env := e }.push
        (.registered id token bytes)) := by
    intro e token
    apply Governed.push
    · exact hemplace.of_eq rfl rfl rfl rfl rfl rfl
    · simp [ChannelFrame.message]
    · right
      simp [hconnected]
  unfold hook
  split
  · exact hpush _ _
  · split
    · exact hpush _ _
    · exact hpush _ _

/-- The channel goes offline, and all calls in the map are about to fail. -/
theorem endOfFrames (h : Governed s) {conn : Nat} {error : Option String}
    {stack : List ChannelFrame} {order : List UInt64}
    (hstack : s.stack = .onMessage conn [] error :: stack)
    (horder : error.isNone || order.isPerm s.keys) :
    Governed ({ s with stack := stack }.endOfFrames conn order error) := by
  cases error with
  | none => exact (h.pop hstack (by simp)).of_eq rfl rfl rfl rfl rfl rfl
  | some error =>
    obtain rfl : stack = [] := by
      have hbottom := h.bottom
      rw [hstack] at hbottom
      cases stack with
      | nil => rfl
      | cons f stack => cases (List.isChain_cons_cons.mp hbottom).1
    have hperm : order.Perm s.keys := by simpa [List.isPerm_iff] using horder
    refine ⟨fun _ _ id hid => ?_, ?_, ?_, fun _ => ⟨⟨error, rfl⟩, ?_⟩⟩
    · exact ⟨order, List.mem_cons_self, hperm.mem_iff.mpr hid⟩
    · simp [RpcChannel.endOfFrames, RpcChannel.push]
    · simp [RpcChannel.endOfFrames, RpcChannel.push, ChannelFrame.message]
    · simp [RpcChannel.endOfFrames, RpcChannel.push, ChannelFrame.registering]

theorem effect (h : Governed s) (hopened : Opened s) (heffect : Effect F a s₀ s s') :
    Governed s' := by
  cases heffect with
  | @finish s₁ id call ending hcause hfind hpending =>
    unfold RpcChannel.finish
    apply Governed.notify
    exact (h.cause hcause).of_eq rfl rfl rfl rfl rfl rfl
  | @skip _ id ending hcause hnone =>
    have hopened' := hopened.cause hcause
    have herase : s'.pendingCalls = (s'.erasePending id).pendingCalls := by
      refine (List.filter_eq_self.mpr fun p hp => ?_).symm
      by_contra hid
      obtain ⟨call, hfind⟩ := exists_findPending (s := s') (List.mem_map_of_mem (f := Prod.fst) hp)
      obtain rfl : p.1 = id := by simpa using hid
      exact hnone call hfind (hopened'.pending _ (find_eq_some hfind))
    exact (h.cause hcause).of_eq herase rfl rfl rfl rfl rfl
  | discard hstack hfind hpending => exact (h.erase _).of_eq rfl rfl rfl rfl rfl rfl
  | @prepare arguments ha =>
    obtain ⟨n, completions, -, hstate⟩ := prepareCall_state F s arguments
    rw [hstate]
    exact h.of_eq rfl rfl rfl rfl rfl rfl
  | invalid | unavailable | expired =>
    apply Governed.notify
    exact h.of_eq rfl rfl rfl rfl rfl rfl
  | overloaded =>
    unfold rejectOverloaded
    dsimp only
    split
    · apply Governed.push
      · exact h.of_eq rfl rfl rfl rfl rfl rfl
      · simp [ChannelFrame.message]
      · exact .inl rfl
    · apply Governed.notify
      exact h.of_eq rfl rfl rfl rfl rfl rfl
  | insert hfunctor hstate => exact h.insert hstate _ _ _ _
  | store hstack hfind =>
    apply Governed.store
    exact h.pop hstack (by simp)
  | unregistered hstack => exact h.pop hstack (by simp)
  | degraded hfirst ha hstack =>
    apply Governed.notify
    exact (h.pop hstack (by simp)).of_eq rfl rfl rfl rfl rfl rfl
  | @returned frame stack _ _ _ hstack hfinished =>
    apply h.pop hstack
    rintro (_ | ⟨id, ids⟩) rfl
    · simp
    · cases hfinished
  | cancelIgnored hstack =>
    apply h.replace hstack
    · simp
    · simp [ChannelFrame.message]
    · rfl
  | @heartbeatFrame conn frame frames error stack hstack htype =>
    have hreplace : Governed { s with stack := .onMessage conn frames error :: stack } :=
      h.replace hstack (by simp) (fun _ => rfl) rfl
    exact hreplace.of_eq rfl rfl rfl rfl rfl rfl
  | endOfFrames hstack horder => exact h.endOfFrames hstack horder
  | destroyed hstack => exact (h.pop hstack (by simp)).of_eq rfl rfl rfl rfl rfl rfl
  | sendHeartbeat =>
    unfold sendHeartbeat
    dsimp only
    split
    · exact h
    · split <;> exact h.of_eq rfl rfl rfl rfl rfl rfl
  | forceClose hstack => exact h.push (by simp [ChannelFrame.message]) (.inl rfl)
  | startCancel =>
    apply Governed.push
    · exact h.of_eq rfl rfl rfl rfl rfl rfl
    · simp [ChannelFrame.message]
    · exact .inl rfl
  | onMessage ha hstack => exact h.push (fun _ => hstack) (.inl rfl)
  | connectionUp =>
    refine ⟨fun _ hnot => ?_, fun _ _ => ?_, h.bottom, fun hs => ?_⟩
    · exact absurd rfl hnot
    · simp [connectionEstablished, scheduleHeartbeat, cancelHeartbeat]
    · cases hs
  | @connectionDown conn order connection up ha halive horder =>
    have hperm : order.Perm s.keys := List.isPerm_iff.mp horder
    refine ⟨fun _ _ id hid => ?_, ?_, ?_, ?_⟩
    · exact ⟨order, List.mem_cons_self, hperm.mem_iff.mpr hid⟩
    · simp [RpcChannel.push]
    · exact List.isChain_cons.mpr ⟨fun _ _ => rfl, h.bottom⟩
    · simp [RpcChannel.push]
  | connectionGone ha halive hconnection hstate =>
    refine ⟨h.covered, fun _ hs => ?_, h.bottom, h.offline⟩
    rw [show s.connectionState = .connected from hs] at hstate
    cases hstate
  | destroy hstack =>
    refine ⟨?_, ?_, ?_, fun hs => ⟨(h.offline hs).1, ?_⟩⟩
    · simp [RpcChannel.destroy, RpcChannel.push]
    · simp [RpcChannel.destroy, RpcChannel.push]
    · simp [RpcChannel.destroy, RpcChannel.push, cancelHeartbeat, hstack]
    · simp [RpcChannel.destroy, RpcChannel.push, cancelHeartbeat, hstack, ChannelFrame.registering]
  | dequeue | post | timerIgnored | scheduleHeartbeat | heartbeatMissed | elapse | drawRequestId
  | callMethodWithoutDone | remoteStartCancel | remoteClosure | resetController | setTimeout | setFailed
  | setDeadline | setMaxPendingCalls | setDegradeHandler | shutdown =>
    exact h.of_eq rfl rfl rfl rfl rfl rfl

end Governed

theorem governed_step (h : Governed s ∧ Opened s) (hstep : s.step F a = some s') :
    Governed s' ∧ Opened s' :=
  invariant_step (I := fun s => Governed s ∧ Opened s) h
    (fun h heffect => ⟨h.1.effect h.2 heffect, h.2.effect heffect⟩) hstep

/-! ## A channel that is offline -/

@[simp]
theorem written_updateController (e : ChannelEnv) (f : RpcController → RpcController)
    (controller : Option Nat) : (e.updateController f controller).written = e.written := by
  cases controller <;> rfl

@[simp]
theorem written_applyFailure (e : ChannelEnv) (controller : Option Nat) (reason : List UInt8)
    (state : RpcCallState) : (e.applyFailure controller reason state).written = e.written := by
  simp [ChannelEnv.applyFailure]

@[simp]
theorem written_record (e : ChannelEnv) (call : PendingCall) (state : RpcCallState) :
    (e.record call state).written = e.written := rfl

theorem written_cancelTimer (e : ChannelEnv) (timer : Option Nat) :
    (e.cancelTimer timer).written = e.written := by
  cases timer <;> rfl

theorem written_release (e : ChannelEnv) (call : PendingCall) :
    (e.release call).written = e.written := by
  unfold ChannelEnv.release
  dsimp only
  split
  · rw [written_updateController, written_cancelTimer]
  · exact written_cancelTimer _ _

theorem written_finish (e : ChannelEnv) (call : PendingCall) (ending : Ending) :
    (e.finish call ending).written = e.written := by
  cases ending with
  | failure | cancel => simp [ChannelEnv.finish]
  | frame frame =>
    have hcode : ∀ (e : ChannelEnv) code, (e.setRemoteErrorCode call code).written = e.written := by
      intro e code
      unfold ChannelEnv.setRemoteErrorCode
      split <;> rfl
    have hframe : ∀ e : ChannelEnv, (e.applyFrame call frame).written = e.written := by
      intro e
      unfold ChannelEnv.applyFrame
      split
      · simp
      · split
        · simp
        · split
          · rfl
          · simp
    simp [ChannelEnv.finish, hframe, hcode]

/-- The channel is offline, has written no more than this, and the calls from this number on are
queued or have been notified. -/
structure Offline (written : List (Nat × List UInt8)) (first : Nat) (s : RpcChannel) : Prop where
  state : s.connectionState = .disconnected
  written : s.env.written = written
  later : ∀ k, first ≤ k → k < s.begun → k ∈ s.queuedNumbers ∨ k ∈ s.notified

namespace Offline

variable {w : List (Nat × List UInt8)} {n : Nat}

theorem of_subset (h : Offline w n s) (hstate : s'.connectionState = s.connectionState)
    (hwritten : s'.env.written = s.env.written) (hbegun : s'.begun = s.begun)
    (hnotified : s.notified ⊆ s'.notified)
    (hqueued : ∀ k ∈ s.queuedNumbers, k ∈ s'.queuedNumbers ∨ k ∈ s'.notified) : Offline w n s' where
  state := hstate.trans h.state
  written := hwritten.trans h.written
  later k hk hlt := by
    obtain hqueue | hnotify := h.later k hk (hbegun ▸ hlt)
    · exact hqueued k hqueue
    · exact .inr (hnotified hnotify)

theorem of_eq (h : Offline w n s) (hstate : s'.connectionState = s.connectionState)
    (hwritten : s'.env.written = s.env.written) (hbegun : s'.begun = s.begun)
    (hnotified : s'.notified = s.notified) (hfunctors : s'.functors = s.functors) :
    Offline w n s' := by
  refine h.of_subset hstate hwritten hbegun (hnotified ▸ List.Subset.refl _) fun k hk => .inl ?_
  rw [queuedNumbers, hfunctors]
  exact hk

theorem post (h : Offline w n s) (functor : ChannelFunctor) :
    Offline w n { s with functors := s.functors ++ [functor] } := by
  refine h.of_subset rfl rfl rfl (List.Subset.refl _) fun k hk => .inl ?_
  rw [queuedNumbers, List.filterMap_append]
  exact List.mem_append_left _ hk

theorem notify (h : Offline w n s) (number : Nat) (coroutine : Bool) :
    Offline w n (s.notifyCompletion number coroutine) := by
  have hnotified : Offline w n { s with notified := number :: s.notified } :=
    h.of_subset rfl rfl rfl (List.subset_cons_self _ _) fun _ => .inl
  unfold notifyCompletion
  dsimp only
  split
  · exact hnotified.post _
  · exact hnotified.of_eq rfl rfl rfl rfl rfl

theorem dequeue (h : Offline w n s) {index : Nat} {functor : ChannelFunctor}
    (hfunctor : s.functors[index]? = some functor) (hnumber : functor.number = none) :
    Offline w n { s with functors := s.functors.eraseIdx index } := by
  refine h.of_subset rfl rfl rfl (List.Subset.refl _) fun k hk => .inl ?_
  have hperm := filterMap_eraseIdx_perm ChannelFunctor.number hfunctor
  rw [hnumber] at hperm
  exact hperm.mem_iff.mpr hk

/-- A functor is taken out, and the call that it carries is notified. -/
theorem complete (h : Offline w n s) {index number : Nat} {functor : ChannelFunctor}
    (hfunctor : s.functors[index]? = some functor) (hnumber : functor.number = some number)
    {e : ChannelEnv} (hwritten : e.written = s.env.written) (coroutine : Bool) :
    Offline w n ({ s with functors := s.functors.eraseIdx index, env := e }.notifyCompletion number
      coroutine) := by
  have hqueued : ∀ k ∈ s.queuedNumbers,
      k ∈ (s.functors.eraseIdx index).filterMap ChannelFunctor.number ∨ k = number := by
    intro k hk
    have hperm := filterMap_eraseIdx_perm ChannelFunctor.number hfunctor
    rw [hnumber] at hperm
    simpa [or_comm] using hperm.mem_iff.mpr hk
  have hcompleted : Offline w n { s with
      functors := s.functors.eraseIdx index, env := e, notified := number :: s.notified } := by
    refine h.of_subset rfl hwritten rfl (List.subset_cons_self _ _) fun k hk => ?_
    obtain hk | rfl := hqueued k hk
    · exact .inl hk
    · exact .inr List.mem_cons_self
  unfold notifyCompletion
  dsimp only
  split
  · exact hcompleted.post _
  · exact hcompleted.of_eq rfl rfl rfl rfl rfl

theorem prepare (h : Offline w n s) (F : MetaFormat) (x : CallArguments) :
    Offline w n { (s.prepareCall F x).2 with
      functors := s.functors ++ [(s.prepareCall F x).1] } := by
  have hnumber : (s.prepareCall F x).1.number = some s.begun := by
    obtain ⟨reason, hfunctor⟩ | ⟨bytes, call, hfunctor, -, hcall, -⟩ := prepareCall_functor F s x
    · rw [hfunctor]
      rfl
    · rw [hfunctor]
      exact congrArg some hcall
  obtain ⟨_, completions, -, hstate⟩ := prepareCall_state F s x
  rw [hstate]
  refine ⟨h.state, h.written, fun k hk hlt => ?_⟩
  rw [queuedNumbers, List.filterMap_append, List.mem_append]
  obtain hlt | rfl := Nat.lt_succ_iff_lt_or_eq.mp hlt
  · obtain hqueue | hnotify := h.later k hk hlt
    · exact .inl (.inl hqueue)
    · exact .inr hnotify
  · exact .inl (.inr (by simp [hnumber]))

theorem cause (h : Offline w n s) (hgoverned : Governed s) {id : UInt64} {ending : Ending}
    (hcause : Cause a s₀ s s₁ id ending) : Offline w n s₁ := by
  cases hcause with
  | unwritten hstack hfind hconnection =>
    have hnone := (hgoverned.offline h.state).2 _ (hstack ▸ List.mem_cons_self)
    cases hnone
  | functor hfunctor huser => exact h.dequeue hfunctor rfl
  | _ => exact h.of_eq rfl rfl rfl rfl rfl

theorem effect (h : Offline w n s) (hgoverned : Governed s) (hup : ∀ conn, a ≠ .connectionUp conn)
    (heffect : Effect F a s₀ s s') : Offline w n s' := by
  have hnot : s.connectionState ≠ .connected := by simp [h.state]
  cases heffect with
  | finish hcause hfind hpending =>
    unfold RpcChannel.finish
    apply Offline.notify
    refine (h.cause hgoverned hcause).of_eq rfl ?_ rfl rfl rfl
    rw [written_finish, written_release]
  | skip hcause hnone => exact h.cause hgoverned hcause
  | discard hstack hfind hpending => exact h.of_eq rfl (written_release _ _) rfl rfl rfl
  | prepare ha => exact h.prepare F _
  | invalid hfunctor huser => exact h.complete hfunctor rfl (written_applyFailure _ _ _ _) _
  | unavailable hfunctor hstate huser =>
    apply h.complete hfunctor rfl
    exact written_applyFailure _ _ _ _
  | overloaded hfunctor hstate | expired hfunctor hstate | insert hfunctor hstate
  | sendHeartbeat hstate => exact absurd hstate hnot
  | store hstack hfind =>
    have hnone := (hgoverned.offline h.state).2 _ (hstack ▸ List.mem_cons_self)
    cases hnone
  | @degraded id call reason stack accepted index order hfirst ha hstack =>
    unfold RpcChannel.degraded
    apply Offline.notify
    refine h.of_eq rfl ?_ rfl rfl rfl
    cases accepted <;> simp
  | dequeue hfunctor hnumber => exact h.dequeue hfunctor hnumber
  | post hnumber => exact h.post _
  | @endOfFrames conn error stack order hstack horder =>
    cases error with
    | none => exact (h.post (.flush conn)).of_eq rfl rfl rfl rfl rfl
    | some error => exact ⟨rfl, h.written, h.later⟩
  | @remoteClosure index id hid =>
    cases halive : s.alive
    · exact h.of_eq rfl rfl rfl rfl rfl
    · exact (h.post (.cancel id)).of_eq rfl rfl rfl rfl rfl
  | connectionUp ha => exact absurd ha (hup _)
  | connectionDown ha halive horder hconnection hstate => exact absurd h.state hstate
  | connectionGone | scheduleHeartbeat | destroy =>
    exact h.of_eq rfl (written_cancelTimer _ _) rfl rfl rfl
  | timerIgnored => exact h.of_eq rfl (written_cancelTimer _ _) rfl rfl rfl
  | callMethodWithoutDone => exact h.of_eq rfl (written_applyFailure _ _ _ _) rfl rfl rfl
  | setFailed => exact h.of_eq rfl (written_updateController _ _ _) rfl rfl rfl
  | _ => exact h.of_eq rfl rfl rfl rfl rfl

theorem step (h : (Governed s ∧ Opened s) ∧ Offline w n s) (hup : ∀ conn, a ≠ .connectionUp conn)
    (hstep : s.step F a = some s') : (Governed s' ∧ Opened s') ∧ Offline w n s' :=
  invariant_step (I := fun s => (Governed s ∧ Opened s) ∧ Offline w n s) h
    (fun h heffect => ⟨⟨h.1.1.effect h.1.2 heffect, h.1.2.effect heffect⟩,
      h.2.effect h.1.1 hup heffect⟩) hstep

end Offline

/-! ## On the way to `Disconnect` -/

/-- `FailAllPending` runs for a protocol error, and `Disconnect` is still to come. -/
def Disconnecting (s : RpcChannel) : Prop :=
  ∃ ids below, .failEach ids :: .disconnect :: below <:+ s.stack

theorem stack_notifyCompletion {stack : List ChannelFrame} (hstack : s.stack = stack) (number : Nat)
    (coroutine : Bool) : stack <:+ (s.notifyCompletion number coroutine).stack := by
  subst hstack
  unfold notifyCompletion
  dsimp only
  split
  · exact List.suffix_refl _
  · exact List.suffix_cons _ _

theorem stack_store (s : RpcChannel) (id : UInt64) (token : Int) (bytes : List UInt8)
    (call : PendingCall) : (s.store id token bytes call).stack = s.stack := by
  unfold RpcChannel.store assign registerTimeoutTimer
  dsimp only
  split <;> split <;> rfl

theorem stack_hook (s : RpcChannel) (id : UInt64) (bytes : List UInt8) :
    s.stack <:+ (s.hook id bytes).stack := by
  unfold hook
  split
  · exact List.suffix_cons _ _
  · split <;> exact List.suffix_cons _ _

theorem stack_emplace (s : RpcChannel) (id : UInt64) (call : PendingCall) :
    (s.emplace id call).stack = s.stack := by
  unfold emplace
  split <;> rfl

/-- Handlers below the one on top stay, and `FailAllPending` returns when it has come to all calls;
it does so in a step of its own. -/
def Unwinds (a : ChannelStep) (s₀ s s' : RpcChannel) : Prop :=
  s.stack <:+ s'.stack ∨ ∃ frame stack, s.stack = frame :: stack ∧ stack <:+ s'.stack ∧
    ∀ ids, frame = .failEach ids → (∃ ids', .failEach ids' :: stack <:+ s'.stack) ∨
      ids = [] ∧ s = s₀ ∧ ∃ accepted index order, a = .resume accepted index order

theorem unwinds_cause {id : UInt64} {ending : Ending} (hcause : Cause a s₀ s s₁ id ending) :
    Unwinds a s₀ s s₁ := by
  cases hcause with
  | frame hfirst ha hstack | startCancel hstack =>
    exact .inr ⟨_, _, hstack, List.suffix_cons _ _, by simp⟩
  | connection hstack =>
    exact .inr ⟨_, _, hstack, List.suffix_cons _ _, fun _ _ => .inl ⟨_, List.suffix_refl _⟩⟩
  | unwritten hstack =>
    refine .inr ⟨_, _, hstack, ?_, by simp⟩
    rw [stack_store]
  | _ => exact .inl (List.suffix_refl _)

theorem Unwinds.trans (h : Unwinds a s₀ s s₁) (hstack : s₁.stack <:+ s'.stack) :
    Unwinds a s₀ s s' := by
  obtain hs | ⟨frame, stack, hframe, hs, hfail⟩ := h
  · exact .inl (hs.trans hstack)
  · refine .inr ⟨frame, stack, hframe, hs.trans hstack, fun ids heq => ?_⟩
    obtain ⟨ids', hids'⟩ | hreturned := hfail ids heq
    · exact .inl ⟨ids', hids'.trans hstack⟩
    · exact .inr hreturned

theorem unwinds_effect (heffect : Effect F a s₀ s s') : Unwinds a s₀ s s' := by
  have hpop : ∀ {frame : ChannelFrame} {stack : List ChannelFrame}, s.stack = frame :: stack →
      (∀ ids, frame ≠ .failEach ids) → stack <:+ s'.stack → Unwinds a s₀ s s' :=
    fun hstack hframe hs => .inr ⟨_, _, hstack, hs, fun ids heq => absurd heq (hframe ids)⟩
  cases heffect with
  | finish hcause =>
    apply (unwinds_cause hcause).trans
    apply stack_notifyCompletion
    rfl
  | skip hcause => exact unwinds_cause hcause
  | @prepare arguments ha =>
    obtain ⟨n, completions, -, hstate⟩ := prepareCall_state F s arguments
    rw [hstate]
    exact .inl (List.suffix_refl _)
  | invalid | unavailable | expired =>
    left
    apply stack_notifyCompletion
    rfl
  | overloaded =>
    unfold rejectOverloaded
    dsimp only
    split
    · exact .inl (List.suffix_cons _ _)
    · left
      apply stack_notifyCompletion
      rfl
  | @insert index id bytes call =>
    have hhook := stack_hook ({ s with functors := s.functors.eraseIdx index }.emplace id call) id bytes
    rw [stack_emplace] at hhook
    exact .inl hhook
  | store hstack =>
    apply hpop hstack (by simp)
    rw [stack_store]
  | degraded hfirst ha hstack =>
    apply hpop hstack (by simp)
    apply stack_notifyCompletion
    rfl
  | unregistered hstack | destroyed hstack => exact hpop hstack (by simp) (List.suffix_refl _)
  | cancelIgnored hstack | heartbeatFrame hstack =>
    exact hpop hstack (by simp) (List.suffix_cons _ _)
  | @returned frame stack accepted index order hstack hfinished hfirst ha =>
    refine .inr ⟨_, _, hstack, List.suffix_refl _, ?_⟩
    rintro (_ | ⟨id, ids⟩) rfl
    · exact .inr ⟨rfl, hfirst, accepted, index, order, ha⟩
    · cases hfinished
  | @endOfFrames conn error stack order hstack horder =>
    cases error with
    | none => exact hpop hstack (by simp) (List.suffix_refl _)
    | some error => exact hpop hstack (by simp) ⟨[.failEach order, .disconnect], rfl⟩
  | sendHeartbeat => rw [Unwinds, stack_sendHeartbeat]; exact .inl (List.suffix_refl _)
  | forceClose | startCancel | onMessage | connectionDown | destroy =>
    exact .inl (List.suffix_cons _ _)
  | _ => exact .inl (List.suffix_refl _)

/-- `FailAllPending` of a protocol error goes on, or it has returned. -/
theorem Disconnecting.unwinds (h : Disconnecting s) (hs : Unwinds a s₀ s s') :
    Disconnecting s' ∨ (∃ accepted index order, a = .resume accepted index order) ∧
      ∃ below, s₀.stack = .failEach [] :: .disconnect :: below := by
  obtain ⟨ids, below, hsuffix⟩ := h
  obtain hs | ⟨frame, stack, hstack, hs, hfail⟩ := hs
  · exact .inl ⟨ids, below, hsuffix.trans hs⟩
  · rw [hstack] at hsuffix
    obtain heq | hsuffix := List.suffix_cons_iff.mp hsuffix
    · cases heq
      obtain ⟨ids', hids'⟩ | ⟨rfl, rfl, ha⟩ := hfail ids rfl
      · exact .inl ⟨ids', below, hids'⟩
      · exact .inr ⟨ha, below, hstack⟩
    · exact .inl ⟨ids, below, hsuffix.trans hs⟩

/-- The channel goes offline only with `Disconnect` to come. -/
theorem disconnecting_of_effect (heffect : Effect F a s₀ s s')
    (hstate : s'.connectionState = .disconnected) :
    s.connectionState = .disconnected ∨ Disconnecting s' := by
  have hnotify : ∀ (s : RpcChannel) number coroutine,
      (s.notifyCompletion number coroutine).connectionState = s.connectionState := by
    intro s number coroutine
    unfold notifyCompletion
    dsimp only
    split <;> rfl
  have hstore : ∀ (s : RpcChannel) id token bytes call,
      (s.store id token bytes call).connectionState = s.connectionState := by
    intro s id token bytes call
    unfold RpcChannel.store assign registerTimeoutTimer
    dsimp only
    split <;> split <;> rfl
  have hcause : ∀ {s₁ : RpcChannel} {id : UInt64} {ending : Ending}, Cause a s₀ s s₁ id ending →
      s₁.connectionState = s.connectionState := by
    rintro s₁ id ending (_ | _ | _ | _ | _ | _ | _ | _)
    case unwritten => exact hstore _ _ _ _ _
    all_goals rfl
  cases heffect with
  | finish hcause' =>
    rw [RpcChannel.finish, hnotify] at hstate
    exact .inl ((hcause hcause').symm.trans hstate)
  | skip hcause' => exact .inl ((hcause hcause').symm.trans hstate)
  | @prepare arguments ha =>
    obtain ⟨n, completions, -, heq⟩ := prepareCall_state F s arguments
    rw [heq] at hstate
    exact .inl hstate
  | invalid | unavailable | expired | degraded =>
    simp only [completeInvalid, rejectUnavailable, reject, RpcChannel.degraded, hnotify] at hstate
    exact .inl hstate
  | overloaded =>
    unfold rejectOverloaded at hstate
    dsimp only at hstate
    split at hstate
    · exact .inl hstate
    · rw [hnotify] at hstate
      exact .inl hstate
  | insert =>
    left
    unfold hook emplace at hstate
    split at hstate <;> split at hstate <;> first | exact hstate | (split at hstate <;> exact hstate)
  | store =>
    rw [hstore] at hstate
    exact .inl hstate
  | @endOfFrames conn error stack order hstack horder =>
    cases error with
    | none => exact .inl hstate
    | some error => exact .inr ⟨order, stack, List.suffix_refl _⟩
  | sendHeartbeat =>
    left
    unfold sendHeartbeat at hstate
    dsimp only at hstate
    split at hstate
    · exact hstate
    · split at hstate <;> exact hstate
  | connectionUp | connectionDown => cases hstate
  | _ => exact .inl hstate

/-- The step is the return of `FailAllPending` for a protocol error, behind which `Disconnect` is
called. -/
def disconnects (s : RpcChannel) : ChannelStep → Bool
  | .resume .. =>
    match s.stack with
    | .failEach [] :: .disconnect :: _ => true
    | _ => false
  | _ => false

/-- An offline channel is on the way to `Disconnect`, unless it has called it. -/
theorem disconnecting_step {P : Prop}
    (h : s.connectionState = .disconnected → Disconnecting s ∨ P) (hP : s.disconnects a = true → P)
    (hstep : s.step F a = some s') (hstate : s'.connectionState = .disconnected) :
    Disconnecting s' ∨ P := by
  refine invariant_step (I := fun s => s.connectionState = .disconnected → Disconnecting s ∨ P) h
    (fun {s₁ s₂} h₁ heffect hs₂ => ?_) hstep hstate
  obtain hs₁ | hs₂ := disconnecting_of_effect heffect hs₂
  · obtain hdisconnecting | hp := h₁ hs₁
    · obtain hs₂ | ⟨⟨accepted, index, order, rfl⟩, below, hstack⟩ :=
        hdisconnecting.unwinds (unwinds_effect heffect)
      · exact .inl hs₂
      · exact .inr (hP (by simp [disconnects, hstack]))
    · exact .inr hp
  · exact .inl hs₂

/-! ## Calls of an offline channel -/

/-- The call is notified, and has failed with this text. -/
structure Refused (s s' : RpcChannel) (call : PendingCall) (text : List UInt8) : Prop where
  notified : s'.notified = call.number :: s.notified
  recorded : ∃ latency, s'.env.metrics = s.env.metrics ++ [⟨call.method, .failed, latency⟩]
  controller : ∀ c ∈ call.controller, (s'.env.controllers c).failed = true ∧
    (s'.env.controllers c).errorText = text ∧ (s'.env.controllers c).callState = .failed

theorem refused_registerAndSend (hstate : s.connectionState = .disconnected) (id : UInt64)
    (bytes : List UInt8) (call : PendingCall) :
    Refused s (s.registerAndSend id bytes call) call s.connectionError := by
  have hrefuse : s.registerAndSend id bytes call = s.reject call s.connectionError .failed := by
    simp [registerAndSend, rejectUnavailable, hstate]
  have hnotify : ∀ (s : RpcChannel) number coroutine,
      (s.notifyCompletion number coroutine).env = s.env ∧
        (s.notifyCompletion number coroutine).notified = number :: s.notified := by
    intro s number coroutine
    unfold notifyCompletion
    dsimp only
    split <;> exact ⟨rfl, rfl⟩
  rw [hrefuse, reject]
  refine ⟨(hnotify _ _ _).2, ⟨(s.env.clock - call.sentAt).tdiv 1000, ?_⟩, fun c hc => ?_⟩
  · rw [(hnotify _ _ _).1]
    cases call.controller <;> rfl
  · rw [(hnotify _ _ _).1, Option.mem_def.mp hc]
    simp [ChannelEnv.applyFailure, ChannelEnv.updateController, RpcController.setFailed,
      RpcController.markCallState]

/-- A call that is begun on the loop thread. -/
theorem refused_beginCall (hstate : s.connectionState = .disconnected) {x : CallArguments}
    {later : Int} {id : UInt64} {bytes : List UInt8} {call : PendingCall}
    (hvalid : (s.prepareCall F x).1 = .registerAndSend id bytes call)
    (hstep : s.step F (.beginCall x later) = some s') : Refused s s' call s.connectionError := by
  simp only [step, Option.ite_none_right_eq_some, Option.some.injEq, hvalid] at hstep
  obtain ⟨-, rfl⟩ := hstep
  obtain ⟨n, completions, -, heq⟩ := prepareCall_state F s x
  rw [heq]
  obtain ⟨hnotified, hrecorded, hcontroller⟩ := refused_registerAndSend
    (s := { s with
      begun := s.begun + 1
      nextRequestId := n
      env := { s.env with completions := completions, clock := later } }) hstate id bytes call
  exact ⟨hnotified, hrecorded, hcontroller⟩

/-- A call of another thread, when the loop comes to it. -/
theorem refused_runFunctor (hstate : s.connectionState = .disconnected) {index : Nat} {id : UInt64}
    {bytes : List UInt8} {call : PendingCall}
    (hfunctor : s.functors[index]? = some (.registerAndSend id bytes call))
    (hstep : s.step F (.runFunctor index) = some s') : Refused s s' call s.connectionError := by
  simp only [step, Option.ite_none_right_eq_some, hfunctor, Option.map_some,
    Option.some.injEq] at hstep
  obtain ⟨-, rfl⟩ := hstep
  obtain ⟨hnotified, hrecorded, hcontroller⟩ := refused_registerAndSend
    (s := { s with functors := s.functors.eraseIdx index }) hstate id bytes call
  exact ⟨hnotified, hrecorded, hcontroller⟩

end RpcChannel

end NebulaRpc.Rpc
