import NebulaRpc.Rpc.Channel

/-!
# Where a call is

A call that has been begun is in exactly one place: queued on the loop, in `pending_calls_`, held by
a handler that asks the degrade handler about it, or notified. Every operation of the channel moves
calls between these places and none is lost or doubled, as long as no two calls have the same
request id.
-/

namespace NebulaRpc.Rpc

/-- The request id that a functor is to register. -/
def ChannelFunctor.key : ChannelFunctor → Option UInt64
  | .registerAndSend requestId .. => some requestId
  | _ => none

/-- The call that a handler holds. -/
def ChannelFrame.number : ChannelFrame → Option Nat
  | .degrade _ call _ => some call.number
  | _ => none

namespace RpcChannel

variable {s s' s'' : RpcChannel} {numbers numbers' : List Nat} {ids ids' : List UInt64}

/-- The calls that are queued on the loop, for registration or for their notification. -/
def queuedNumbers (s : RpcChannel) : List Nat := s.functors.filterMap ChannelFunctor.number

def pendingNumbers (s : RpcChannel) : List Nat := s.pendingCalls.map (·.2.number)

def heldNumbers (s : RpcChannel) : List Nat := s.stack.filterMap ChannelFrame.number

/-- In how many places the call is. -/
def census (s : RpcChannel) (k : Nat) : Nat :=
  s.queuedNumbers.count k + s.pendingNumbers.count k + s.heldNumbers.count k + s.notified.count k

/-- The request ids in use. -/
def allKeys (s : RpcChannel) : List UInt64 := s.keys ++ s.functors.filterMap ChannelFunctor.key

/-- No call has been completed before it is taken out of the map. -/
structure Opened (s : RpcChannel) : Prop where
  pending : ∀ p ∈ s.pendingCalls, p.2.call = .pending
  queued : ∀ requestId bytes call, .registerAndSend requestId bytes call ∈ s.functors →
    call.call = .pending

/-- The destructor is never on top of another handler. -/
def Bottom : List ChannelFrame → Prop
  | [] => True
  | .failAllPendingNow :: stack => stack = []
  | _ :: stack => Bottom stack

/-- Every call is in its place, except for the calls `numbers` and the request ids `ids`, which are
in hand. -/
structure Balanced (s : RpcChannel) (numbers : List Nat) (ids : List UInt64) : Prop where
  census : ∀ k, s.census k + numbers.count k = if k < s.begun then 1 else 0
  nodup : (ids ++ s.allKeys).Nodup
  lt : ∀ id ∈ ids ++ s.allKeys, id.toNat < s.nextRequestId
  opened : Opened s
  bottom : Bottom s.stack
  closing : .failAllPendingNow ∈ s.stack → s.alive = false
  dead : s.alive = false → s.queuedNumbers = []
  gone : s.destroyed = true → s.alive = false ∧ ∀ k < s.begun, k ∈ s.notified

/-- The operation put the calls `numbers` and the request ids `ids`, which were in hand, to their
places, and moved the other calls only between places. -/
structure Kept (s s' : RpcChannel) (numbers : List Nat) (ids : List UInt64) : Prop where
  census : ∀ k, s'.census k = s.census k + numbers.count k
  keys : s'.allKeys.Subperm (ids ++ s.allKeys)
  opened : Opened s → Opened s'
  begun : s'.begun = s.begun
  next : s.nextRequestId ≤ s'.nextRequestId
  alive : s'.alive = s.alive
  destroyed : s'.destroyed = s.destroyed
  queued : s'.queuedNumbers = s.queuedNumbers
  notified : s.notified ⊆ s'.notified
  stack : ∃ frames, s'.stack = frames ++ s.stack ∧ .failAllPendingNow ∉ frames

theorem Kept.refl (s : RpcChannel) : Kept s s [] [] :=
  ⟨fun _ => by simp, List.Subperm.refl _, id, rfl, le_rfl, rfl, rfl, rfl, fun _ => id,
    [], rfl, by simp⟩

theorem Kept.trans (h : Kept s s' numbers ids) (h' : Kept s' s'' [] []) :
    Kept s s'' numbers ids := by
  obtain ⟨frames, hframes, hnot⟩ := h.stack
  obtain ⟨frames', hframes', hnot'⟩ := h'.stack
  refine ⟨fun k => ?_, ?_, h'.opened ∘ h.opened, h'.begun.trans h.begun, h.next.trans h'.next,
    h'.alive.trans h.alive, h'.destroyed.trans h.destroyed, h'.queued.trans h.queued,
    List.Subset.trans h.notified h'.notified, frames' ++ frames, ?_, ?_⟩
  · rw [h'.census, h.census]
    simp
  · exact (by simpa using h'.keys : s''.allKeys.Subperm s'.allKeys).trans h.keys
  · rw [hframes', hframes, List.append_assoc]
  · simp [hnot, hnot']

/-- Operations that move nothing may come first. -/
theorem Kept.then (h : Kept s s' [] []) (h' : Kept s' s'' numbers ids) :
    Kept s s'' numbers ids := by
  obtain ⟨frames, hframes, hnot⟩ := h.stack
  obtain ⟨frames', hframes', hnot'⟩ := h'.stack
  refine ⟨fun k => ?_, ?_, h'.opened ∘ h.opened, h'.begun.trans h.begun, h.next.trans h'.next,
    h'.alive.trans h.alive, h'.destroyed.trans h.destroyed, h'.queued.trans h.queued,
    List.Subset.trans h.notified h'.notified, frames' ++ frames, ?_, ?_⟩
  · rw [h'.census, h.census]
    simp
  · exact h'.keys.trans ((List.subperm_append_left _).mpr (by simpa using h.keys))
  · rw [hframes', hframes, List.append_assoc]
  · simp [hnot, hnot']

/-- A request id in hand may be dropped. -/
theorem Kept.widen (h : Kept s s' numbers []) : Kept s s' numbers ids :=
  have hkeys : s'.allKeys.Subperm s.allKeys := by simpa using h.keys
  { h with keys := hkeys.trans (List.sublist_append_right _ _).subperm }

/-- The calls in hand have been put to their places. -/
theorem Balanced.of_kept (h : Balanced s numbers ids) (hk : Kept s s' numbers ids) :
    Balanced s' [] [] := by
  obtain ⟨frames, hframes, hnot⟩ := hk.stack
  refine ⟨fun k => ?_, ?_, ?_, hk.opened h.opened, ?_, ?_, ?_, ?_⟩
  · rw [hk.census, hk.begun]
    simpa using h.census k
  · obtain ⟨l, hperm, hsub⟩ := hk.keys
    exact hperm.nodup_iff.mp (h.nodup.sublist hsub)
  · intro id hid
    exact (h.lt id (hk.keys.subset (by simpa using hid))).trans_le hk.next
  · rw [hframes]
    clear hframes hk
    induction frames with
    | nil => exact h.bottom
    | cons frame frames ih =>
      simp only [List.mem_cons, not_or] at hnot
      cases frame <;> first | exact ih hnot.2 | exact absurd rfl hnot.1
  · intro hmem
    rw [hframes] at hmem
    rw [hk.alive]
    exact h.closing ((List.mem_append.mp hmem).resolve_left hnot)
  · intro halive
    rw [hk.queued]
    exact h.dead (hk.alive ▸ halive)
  · intro hdestroyed
    obtain ⟨halive, hall⟩ := h.gone (hk.destroyed ▸ hdestroyed)
    rw [hk.alive, hk.begun]
    exact ⟨halive, fun k hlt => hk.notified (hall k hlt)⟩

/-! ## Completion -/

/-- Operations that touch neither calls nor handlers. -/
theorem Kept.of_eq (hpending : s'.pendingCalls = s.pendingCalls)
    (hfunctors : s'.functors = s.functors) (hstack : s'.stack = s.stack)
    (hbegun : s'.begun = s.begun) (hnotified : s'.notified = s.notified)
    (hnext : s.nextRequestId ≤ s'.nextRequestId) (halive : s'.alive = s.alive)
    (hdestroyed : s'.destroyed = s.destroyed) : Kept s s' [] [] := by
  refine ⟨fun k => ?_, ?_, fun h => ?_, hbegun, hnext, halive, hdestroyed, ?_, ?_, [], ?_, by simp⟩
  · simp [RpcChannel.census, queuedNumbers, pendingNumbers, heldNumbers, hpending, hfunctors, hstack,
      hnotified]
  · simp [allKeys, RpcChannel.keys, hpending, hfunctors, List.Subperm.refl]
  · exact ⟨hpending ▸ h.pending, hfunctors ▸ h.queued⟩
  · rw [queuedNumbers, queuedNumbers, hfunctors]
  · rw [hnotified]
    exact fun _ => id
  · exact hstack

theorem Kept.env (s : RpcChannel) (e : ChannelEnv) : Kept s { s with env := e } [] [] :=
  .of_eq rfl rfl rfl rfl rfl le_rfl rfl rfl

theorem Kept.push (s : RpcChannel) {frame : ChannelFrame} (hnumber : frame.number = none)
    (hnot : frame ≠ .failAllPendingNow) : Kept s (s.push frame) [] [] := by
  refine ⟨fun k => ?_, List.Subperm.refl _, fun h => ⟨h.pending, h.queued⟩, rfl, le_rfl, rfl, rfl, rfl,
    fun _ => id, [frame], rfl, by simpa using hnot.symm⟩
  simp [RpcChannel.census, queuedNumbers, pendingNumbers, heldNumbers, RpcChannel.push, hnumber]

/-- Functors that carry no call. -/
theorem Kept.queue (s : RpcChannel) {functor : ChannelFunctor} (hnumber : functor.number = none)
    (hkey : functor.key = none) :
    Kept s { s with functors := s.functors ++ [functor] } [] [] := by
  have hqueued : ({ s with functors := s.functors ++ [functor] } : RpcChannel).queuedNumbers =
      s.queuedNumbers := by
    simp [queuedNumbers, hnumber]
  refine ⟨fun k => ?_, ?_, fun h => ⟨h.pending, ?_⟩, rfl, le_rfl, rfl, rfl, hqueued, fun _ => id, [],
    rfl, by simp⟩
  · simp only [RpcChannel.census, hqueued]
    rfl
  · simp [allKeys, RpcChannel.keys, hkey, List.Subperm.refl]
  · intro requestId bytes call hmem
    rcases List.mem_append.mp hmem with hmem | hmem
    · exact h.queued requestId bytes call hmem
    · cases List.mem_singleton.mp hmem
      cases hkey

theorem Kept.notifyCompletion (s : RpcChannel) (number : Nat) (coroutine : Bool) :
    Kept s (s.notifyCompletion number coroutine) [number] [] := by
  have hnotified : Kept s { s with notified := number :: s.notified } [number] [] := by
    refine ⟨fun k => ?_, List.Subperm.refl _, fun h => ⟨h.pending, h.queued⟩, rfl, le_rfl, rfl, rfl,
      rfl, List.subset_cons_self _ _, [], rfl, by simp⟩
    simp [RpcChannel.census, queuedNumbers, pendingNumbers, heldNumbers, List.count_cons]
    omega
  unfold RpcChannel.notifyCompletion
  dsimp only
  split
  · exact hnotified.trans (.queue _ rfl rfl)
  · exact hnotified.trans (.push _ rfl (by simp))

theorem find_eq_some {requestId : UInt64} {call : PendingCall}
    (h : s.findPending requestId = some call) : (requestId, call) ∈ s.pendingCalls := by
  simp only [findPending, Option.map_eq_some_iff] at h
  obtain ⟨⟨id, c⟩, hfind, rfl⟩ := h
  have hid := List.find?_some hfind
  simp only [decide_eq_true_eq] at hid
  subst hid
  exact List.mem_of_find?_eq_some hfind

/-- Taking an entry out of a map takes out the call in it. -/
theorem count_filter_key {requestId : UInt64} {call : PendingCall}
    {entries : List (UInt64 × PendingCall)} (hnodup : (entries.map (·.1)).Nodup)
    (hmem : (requestId, call) ∈ entries) (k : Nat) :
    ((entries.filter (·.1 ≠ requestId)).map (·.2.number)).count k + [call.number].count k =
      (entries.map (·.2.number)).count k := by
  induction entries with
  | nil => cases hmem
  | cons entry entries ih =>
    obtain ⟨id, c⟩ := entry
    rw [List.map_cons, List.nodup_cons] at hnodup
    obtain ⟨hnot, hnodup⟩ := hnodup
    rcases List.mem_cons.mp hmem with heq | hmem
    · obtain ⟨rfl, rfl⟩ := Prod.mk.inj heq
      have hrest : entries.filter (·.1 ≠ requestId) = entries := by
        refine List.filter_eq_self.mpr fun p hp => ?_
        have hne : p.1 ≠ requestId := fun heq => hnot (List.mem_map.mpr ⟨p, hp, heq⟩)
        simpa using hne
      have hskip : ((requestId, call) :: entries).filter (·.1 ≠ requestId) = entries := by
        rw [List.filter_cons_of_neg (by simp), hrest]
      rw [hskip]
      simp only [List.map_cons, List.count_cons, List.count_nil, Nat.zero_add]
    · have hne : id ≠ requestId := fun heq => hnot (List.mem_map.mpr ⟨_, hmem, heq.symm⟩)
      have hkeep : ((id, c) :: entries).filter (·.1 ≠ requestId) =
          (id, c) :: entries.filter (·.1 ≠ requestId) := by
        rw [List.filter_cons_of_pos (by simpa using hne)]
      have hrest := ih hnodup hmem
      rw [hkeep]
      simp only [List.map_cons, List.count_cons] at hrest ⊢
      omega

/-- A pending call that is taken out of the map and notified. -/
theorem Kept.complete (hnodup : s.keys.Nodup) {requestId : UInt64} {call : PendingCall}
    (hfind : s.findPending requestId = some call) (e : ChannelEnv) (coroutine : Bool) :
    Kept s ({ s.erasePending requestId with env := e }.notifyCompletion call.number coroutine)
      [] [] := by
  have hcount := count_filter_key hnodup (find_eq_some hfind)
  have hsub : (s.pendingCalls.filter (·.1 ≠ requestId)).Sublist s.pendingCalls :=
    List.filter_sublist
  obtain ⟨hcensus, hkeys, hopened, hbegun, hnext, halive, hdestroyed, hqueued, hnotified, hstack⟩ :=
    Kept.notifyCompletion { s.erasePending requestId with env := e } call.number coroutine
  refine ⟨fun k => ?_, ?_, fun h => hopened ⟨fun p hp => h.pending p (hsub.subset hp), h.queued⟩,
    hbegun, hnext, halive, hdestroyed, hqueued, hnotified, hstack⟩
  · have hk := hcount k
    rw [hcensus]
    show (s.queuedNumbers.count k +
      ((s.pendingCalls.filter (·.1 ≠ requestId)).map (·.2.number)).count k +
      s.heldNumbers.count k + s.notified.count k) + [call.number].count k = s.census k + [].count k
    simp only [RpcChannel.census, pendingNumbers, List.count_nil]
    omega
  · refine (by simpa using hkeys : List.Subperm _ _).trans ?_
    exact ((hsub.map _).append (List.Sublist.refl _)).subperm

/-- The request was not pending, or it is taken out of the map and notified. -/
def Completes (s s' : RpcChannel) (requestId : UInt64) : Prop :=
  s' = s ∨ ∃ call e, s.findPending requestId = some call ∧
    s' = { s.erasePending requestId with env := e }.notifyCompletion call.number call.coroutine

theorem Kept.of_completes (hnodup : s.keys.Nodup) {requestId : UInt64}
    (h : Completes s s' requestId) : Kept s s' [] [] := by
  obtain rfl | ⟨call, e, hfind, rfl⟩ := h
  · exact .refl _
  · exact .complete hnodup hfind e _

theorem tryComplete_eq_some {requestId : UInt64} {call : PendingCall}
    (h : s.tryComplete requestId = some (call, s')) :
    s.findPending requestId = some call ∧
      s' = { s.erasePending requestId with env := s.env.release call } := by
  simp only [tryComplete, takePendingCall, Option.bind_eq_some_iff] at h
  obtain ⟨call', hfind, h⟩ := h
  split at h
  · rw [hfind] at h
    obtain ⟨rfl, rfl⟩ : call' = call ∧ _ = s' := by simpa using h
    exact ⟨hfind, rfl⟩
  · cases h

theorem completes_completeCallWithFrame (s : RpcChannel) (requestId : UInt64) (frame : RpcFrame) :
    Completes s (s.completeCallWithFrame requestId frame) requestId := by
  unfold RpcChannel.completeCallWithFrame
  split
  · exact .inl rfl
  · next h =>
    obtain ⟨hfind, rfl⟩ := tryComplete_eq_some h
    exact .inr ⟨_, _, hfind, rfl⟩

theorem completes_completeCallWithFailure (s : RpcChannel) (requestId : UInt64)
    (reason : List UInt8) (state : RpcCallState) :
    Completes s (s.completeCallWithFailure requestId reason state) requestId := by
  unfold RpcChannel.completeCallWithFailure
  split
  · exact .inl rfl
  · next h =>
    obtain ⟨hfind, rfl⟩ := tryComplete_eq_some h
    exact .inr ⟨_, _, hfind, rfl⟩

theorem completes_completeCallWithCancel (s : RpcChannel) (requestId : UInt64) :
    Completes s (s.completeCallWithCancel requestId) requestId := by
  unfold RpcChannel.completeCallWithCancel
  split
  · exact .inl rfl
  · next h =>
    obtain ⟨hfind, rfl⟩ := tryComplete_eq_some h
    exact .inr ⟨_, _, hfind, rfl⟩

theorem completes_failPendingNow (hopened : Opened s) (requestId : UInt64) (reason : List UInt8) :
    Completes s (s.failPendingNow requestId reason) requestId := by
  unfold RpcChannel.failPendingNow takePendingCall
  cases hfind : s.findPending requestId with
  | none => exact .inl rfl
  | some call =>
    have hcall : call.call = .pending := hopened.pending _ (find_eq_some hfind)
    simp only [Option.map_some, hcall, if_true]
    exact .inr ⟨_, _, hfind, rfl⟩

/-! ## Registration -/

theorem Kept.reject (s : RpcChannel) (call : PendingCall) (reason : List UInt8)
    (state : RpcCallState) : Kept s (s.reject call reason state) [call.number] [] := by
  exact (Kept.env s _).then (.notifyCompletion _ _ _)

theorem Kept.rejectOverloaded (s : RpcChannel) (requestId : UInt64) (call : PendingCall) :
    Kept s (s.rejectOverloaded requestId call) [call.number] [] := by
  have hcounted : ∀ (e : ChannelEnv) (n : Nat),
      Kept s { s with env := e, overloadRejectCount := n } [] [] :=
    fun e n => .of_eq rfl rfl rfl rfl rfl le_rfl rfl rfl
  unfold RpcChannel.rejectOverloaded
  dsimp only
  split
  · apply (hcounted _ _).then
    refine ⟨fun k => ?_, List.Subperm.refl _, fun h => ⟨h.pending, h.queued⟩, rfl, le_rfl, rfl, rfl,
      rfl, fun _ => id, [.degrade requestId call (octets "too many pending rpcs")], rfl, by simp⟩
    simp [RpcChannel.census, queuedNumbers, pendingNumbers, heldNumbers, RpcChannel.push,
      ChannelFrame.number, List.count_cons]
    omega
  · exact (hcounted _ _).then (.notifyCompletion _ _ _)

theorem Kept.degraded (s : RpcChannel) (call : PendingCall) (reason : List UInt8)
    (accepted : Bool) : Kept s (s.degraded call reason accepted) [call.number] [] := by
  exact (Kept.env s _).then (.notifyCompletion _ _ _)

theorem Kept.completeInvalid (s : RpcChannel) (number : Nat) (controller : Option Nat)
    (coroutine : Bool) (reason : List UInt8) :
    Kept s (s.completeInvalid number controller coroutine reason) [number] [] := by
  exact (Kept.env s _).then (.notifyCompletion _ _ _)

theorem exists_findPending {requestId : UInt64} (h : requestId ∈ s.keys) :
    ∃ call, s.findPending requestId = some call := by
  obtain ⟨p, hp, hp₁⟩ := List.mem_map.mp h
  have hsome : (s.findPending requestId).isSome := by
    simp only [findPending, Option.isSome_map, List.find?_isSome]
    exact ⟨p, hp, by simpa using hp₁⟩
  exact Option.isSome_iff_exists.mp hsome

theorem findPending_eq_none {requestId : UInt64} (h : requestId ∉ s.keys) :
    s.findPending requestId = none := by
  simp only [findPending, Option.map_eq_none_iff, List.find?_eq_none, decide_eq_true_eq]
  rintro p hp rfl
  exact h (List.mem_map_of_mem hp)

theorem Kept.emplace {requestId : UInt64} (hnew : requestId ∉ s.keys) {call : PendingCall}
    (hcall : call.call = .pending) :
    Kept s (s.emplace requestId call) [call.number] [requestId] := by
  have hnone : (s.findPending requestId).isSome = false := by rw [findPending_eq_none hnew]; rfl
  simp only [RpcChannel.emplace, hnone, Bool.false_eq_true, if_false]
  refine ⟨fun k => ?_, ?_, fun h => ⟨fun p hp => ?_, h.queued⟩, rfl, le_rfl, rfl, rfl, rfl,
    fun _ => id, [], rfl, by simp⟩
  · simp [RpcChannel.census, queuedNumbers, pendingNumbers, heldNumbers, List.count_append]
    omega
  · simp only [allKeys, RpcChannel.keys, List.map_append, List.map_cons, List.map_nil,
      List.append_assoc, List.singleton_append]
    exact List.perm_middle.subperm
  · rcases List.mem_append.mp hp with hp | hp
    · exact h.pending p hp
    · cases List.mem_singleton.mp hp
      exact hcall

theorem Kept.registerCancelCallback (hnodup : s.keys.Nodup) (requestId : UInt64)
    (bytes : List UInt8) : Kept s (s.registerCancelCallback requestId bytes) [] [] := by
  unfold RpcChannel.registerCancelCallback
  split
  · exact .push _ rfl (by simp)
  · dsimp only
    split
    · have hpush : Kept s (s.push (.registered requestId (-1) bytes)) [] [] := .push _ rfl (by simp)
      split
      · apply hpush.trans
        apply Kept.of_completes
        · exact hnodup
        · apply completes_completeCallWithCancel
      · exact hpush
    · exact (Kept.env s _).trans (.push _ rfl (by simp))

theorem Kept.registerAndSend (hnodup : s.keys.Nodup) {requestId : UInt64}
    (hnew : requestId ∉ s.keys) {call : PendingCall} (hcall : call.call = .pending)
    (bytes : List UInt8) :
    Kept s (s.registerAndSend requestId bytes call) [call.number] [requestId] := by
  unfold RpcChannel.registerAndSend
  split
  · exact (Kept.reject s call _ _).widen
  · split
    · exact (Kept.rejectOverloaded s requestId call).widen
    · split
      · exact (Kept.reject s call _ _).widen
      · apply (Kept.emplace hnew hcall).trans
        apply Kept.registerCancelCallback
        have hnone : (s.findPending requestId).isSome = false := by
          rw [findPending_eq_none hnew]
          rfl
        simp only [RpcChannel.emplace, hnone, Bool.false_eq_true, if_false, RpcChannel.keys,
          List.map_append, List.map_cons, List.map_nil]
        exact List.nodup_append.mpr ⟨hnodup, by simp, by
          intro a ha b hb heq
          rw [List.mem_singleton] at hb
          exact hnew (hb ▸ heq ▸ ha)⟩

theorem keys_modifyPending (s : RpcChannel) (requestId : UInt64) (f : PendingCall → PendingCall) :
    (s.modifyPending requestId f).keys = s.keys := by
  simp only [RpcChannel.keys, RpcChannel.modifyPending, List.map_map]
  refine List.map_congr_left fun p _ => ?_
  simp only [Function.comp_apply]
  split <;> rfl

theorem Kept.modifyPending (s : RpcChannel) (requestId : UInt64) {f : PendingCall → PendingCall}
    (hnumber : ∀ call, (f call).number = call.number) (hcall : ∀ call, (f call).call = call.call) :
    Kept s (s.modifyPending requestId f) [] [] := by
  have hnumbers : (s.modifyPending requestId f).pendingNumbers = s.pendingNumbers := by
    simp only [pendingNumbers, RpcChannel.modifyPending, List.map_map]
    refine List.map_congr_left fun p _ => ?_
    simp only [Function.comp_apply]
    split
    · exact hnumber _
    · rfl
  have hkeys := keys_modifyPending s requestId f
  refine ⟨fun k => ?_, ?_, fun h => ⟨fun p hp => ?_, h.queued⟩, rfl, le_rfl, rfl, rfl, rfl,
    fun _ => id, [], rfl, by simp⟩
  · simp only [RpcChannel.census, hnumbers]
    rfl
  · simp only [allKeys, hkeys, List.nil_append]
    exact List.Subperm.refl _
  · obtain ⟨p', hp', rfl⟩ := List.mem_map.mp hp
    split
    · exact (hcall _).trans (h.pending p' hp')
    · exact h.pending p' hp'

theorem Kept.registerTimeoutTimer (s : RpcChannel) (requestId : UInt64) (call : PendingCall) :
    Kept s (s.registerTimeoutTimer requestId call) [] [] ∧
      (s.registerTimeoutTimer requestId call).keys = s.keys := by
  unfold RpcChannel.registerTimeoutTimer
  split
  · exact ⟨(Kept.env s _).trans (.modifyPending _ _ (fun _ => rfl) fun _ => rfl), keys_modifyPending _ _ _⟩
  · exact ⟨.refl s, rfl⟩

theorem Kept.writeRegisteredCall (hnodup : s.keys.Nodup) (requestId : UInt64)
    (bytes : List UInt8) : Kept s (s.writeRegisteredCall requestId bytes) [] [] := by
  unfold RpcChannel.writeRegisteredCall
  split
  · exact .of_eq rfl rfl rfl rfl rfl le_rfl rfl rfl
  · exact .of_completes hnodup (completes_completeCallWithFailure _ _ _ _)

theorem Kept.registered (hnodup : s.keys.Nodup) (requestId : UInt64) (token : Int)
    (bytes : List UInt8) : Kept s (s.registered requestId token bytes) [] [] := by
  unfold RpcChannel.registered
  split
  · exact .refl s
  · next call hfind =>
    have hmodify : Kept s (s.modifyPending requestId ({ · with cancelToken := token })) [] [] :=
      .modifyPending _ _ (fun _ => rfl) fun _ => rfl
    have hmodifyKeys := keys_modifyPending s requestId ({ · with cancelToken := token })
    obtain ⟨htimer, htimerKeys⟩ := Kept.registerTimeoutTimer
      (s.modifyPending requestId ({ · with cancelToken := token })) requestId call
    apply (hmodify.trans htimer).trans
    apply Kept.writeRegisteredCall
    rw [htimerKeys, hmodifyKeys]
    exact hnodup

/-- A functor that has been taken out of the queue runs. -/
theorem Kept.perform (hnodup : s.keys.Nodup) {functor : ChannelFunctor}
    (hnew : ∀ id ∈ functor.key, id ∉ s.keys)
    (hcall : ∀ requestId bytes call, functor = .registerAndSend requestId bytes call →
      call.call = .pending) :
    Kept s (s.perform functor) functor.number.toList functor.key.toList := by
  cases functor with
  | registerAndSend requestId bytes call =>
    exact .registerAndSend hnodup (hnew requestId rfl) (hcall requestId bytes call rfl) bytes
  | completeInvalid => exact .completeInvalid _ _ _ _ _
  | cancel requestId =>
    simp only [RpcChannel.perform]
    split
    · exact .of_completes hnodup (completes_completeCallWithCancel _ _)
    · exact .refl s
  | resume => exact .refl s
  | flush => exact .refl s

/-! ## Other handlers -/

theorem Kept.scheduleHeartbeat (s : RpcChannel) : Kept s s.scheduleHeartbeat [] [] :=
  .of_eq rfl rfl rfl rfl rfl le_rfl rfl rfl

theorem Kept.onHeartbeatTimer (F : MetaFormat) (s : RpcChannel) (traceId : UInt64) :
    Kept s (s.onHeartbeatTimer F traceId) [] [] := by
  have hmissed : ∀ n, Kept s { s with heartbeatMissed := n } [] [] :=
    fun n => .of_eq rfl rfl rfl rfl rfl le_rfl rfl rfl
  unfold RpcChannel.onHeartbeatTimer
  split
  · exact (hmissed 0).trans (.scheduleHeartbeat _)
  · split
    · exact (hmissed 0).trans (.push _ rfl (by simp))
    · refine ((hmissed (s.heartbeatMissed + 1)).trans ?_).trans (.push _ rfl (by simp))
      unfold sendHeartbeat
      split
      · exact .refl _
      · dsimp only
        split
        · exact .of_eq rfl rfl rfl rfl rfl (Nat.le_succ _) rfl rfl
        · exact .of_eq rfl rfl rfl rfl rfl (Nat.le_succ _) rfl rfl

theorem Kept.fire (hnodup : s.keys.Nodup) (F : MetaFormat) (traceId : UInt64)
    (timer : ChannelTimer) : Kept s (s.fire F traceId timer) [] [] := by
  cases timer with
  | timeout requestId => exact .of_completes hnodup (completes_completeCallWithFailure _ _ _ _)
  | heartbeat => exact .onHeartbeatTimer F s traceId

theorem Kept.connectionClosed (s : RpcChannel) (conn : Nat) (order : List UInt64) :
    Kept s (s.connectionClosed conn order) [] [] := by
  have hdown : Kept s (if s.cancelHeartbeat.connection = some conn then
      { s.cancelHeartbeat with connection := none, connectionUp := false }
      else s.cancelHeartbeat) [] [] := by
    split
    · exact .of_eq rfl rfl rfl rfl rfl le_rfl rfl rfl
    · exact .of_eq rfl rfl rfl rfl rfl le_rfl rfl rfl
  unfold RpcChannel.connectionClosed
  dsimp only
  generalize (if s.cancelHeartbeat.connection = some conn then
      { s.cancelHeartbeat with connection := none, connectionUp := false }
      else s.cancelHeartbeat) = s₁ at hdown ⊢
  split
  · exact hdown
  · have hstate : Kept s₁ { s₁ with
        connectionState := .connecting
        connectionError := octets "RPC connection closed" } [] [] :=
      .of_eq rfl rfl rfl rfl rfl le_rfl rfl rfl
    exact (hdown.trans hstate).trans (.push _ rfl (by simp))

theorem Kept.handleFrame (hnodup : s.keys.Nodup) (frame : RpcFrame) :
    Kept s (s.handleFrame frame) [] [] := by
  unfold RpcChannel.handleFrame
  split
  · exact .of_eq rfl rfl rfl rfl rfl le_rfl rfl rfl
  · exact .of_completes hnodup (completes_completeCallWithFrame _ _ frame)

theorem Kept.endOfFrames (s : RpcChannel) (conn : Nat) (order : List UInt64)
    (error : Option String) : Kept s (s.endOfFrames conn order error) [] [] := by
  cases error with
  | none => exact .queue s rfl rfl
  | some error =>
    have hstate : Kept s { s with
        connectionState := .disconnected
        connectionError := octets ("RPC protocol error: " ++ error) } [] [] :=
      .of_eq rfl rfl rfl rfl rfl le_rfl rfl rfl
    exact (hstate.trans (.push _ rfl (by simp))).trans (.push _ rfl (by simp))

/-! ## Steps -/

theorem Balanced.keys_nodup (h : Balanced s numbers ids) : s.keys.Nodup :=
  (h.nodup.sublist (List.sublist_append_right _ _)).sublist (List.sublist_append_left _ _)

/-- The handler on top of the stack is taken off it, with the call that it holds. -/
theorem Balanced.pop (h : Balanced s [] []) {frame : ChannelFrame} {stack : List ChannelFrame}
    (hstack : s.stack = frame :: stack) :
    Balanced { s with stack := stack } frame.number.toList [] := by
  refine ⟨fun k => ?_, h.nodup, h.lt, ⟨h.opened.pending, h.opened.queued⟩, ?_, fun hmem => ?_, h.dead,
    h.gone⟩
  · have hk := h.census k
    have hheld : s.heldNumbers.count k =
        (stack.filterMap ChannelFrame.number).count k + frame.number.toList.count k := by
      rw [heldNumbers, hstack, List.filterMap_cons]
      cases frame.number with
      | none => simp
      | some number => simp [List.count_cons]
    simp only [RpcChannel.census, hheld, List.count_nil] at hk
    simp only [RpcChannel.census, heldNumbers]
    show s.queuedNumbers.count k + s.pendingNumbers.count k +
      (stack.filterMap ChannelFrame.number).count k + s.notified.count k +
        frame.number.toList.count k = if k < s.begun then 1 else 0
    omega
  · have hbottom := h.bottom
    rw [hstack] at hbottom
    cases frame <;> first | exact hbottom | (rw [show stack = [] from hbottom]; trivial)
  · exact h.closing (hstack ▸ List.mem_cons_of_mem _ hmem)

/-- What a list yields is what one of its elements yields and what the others do. -/
theorem filterMap_eraseIdx_perm {α β : Type*} {l : List α} {index : Nat} {a : α} (f : α → Option β)
    (hget : l[index]? = some a) :
    ((f a).toList ++ (l.eraseIdx index).filterMap f).Perm (l.filterMap f) := by
  obtain ⟨hlt, hget⟩ := List.getElem?_eq_some_iff.mp hget
  have hperm := (List.getElem_cons_eraseIdx_perm hlt).filterMap f
  rw [hget, List.filterMap_cons] at hperm
  cases hfa : f a <;> simpa [hfa] using hperm

/-- A functor is taken out of the queue, with the call that it carries. -/
theorem Balanced.dequeue (h : Balanced s [] []) {index : Nat} {functor : ChannelFunctor}
    (hget : s.functors[index]? = some functor) :
    Balanced { s with functors := s.functors.eraseIdx index } functor.number.toList
      functor.key.toList := by
  have hnumbers := filterMap_eraseIdx_perm ChannelFunctor.number hget
  have hqueue := filterMap_eraseIdx_perm ChannelFunctor.key hget
  have hkeys : (functor.key.toList ++ ({ s with
      functors := s.functors.eraseIdx index } : RpcChannel).allKeys).Perm s.allKeys := by
    unfold allKeys
    rw [← List.append_assoc]
    refine (List.perm_append_comm.append_right _).trans ?_
    rw [List.append_assoc]
    exact hqueue.append_left _
  have hsub : ∀ f ∈ s.functors.eraseIdx index, f ∈ s.functors :=
    fun f hf => (List.eraseIdx_sublist _ _).subset hf
  refine ⟨fun k => ?_, ?_, fun id hid => ?_, ⟨h.opened.pending, fun requestId bytes call hmem =>
    h.opened.queued requestId bytes call (hsub _ hmem)⟩, h.bottom, h.closing, fun halive => ?_,
    h.gone⟩
  · have hk := h.census k
    have hcount := hnumbers.count_eq k
    simp only [List.count_append] at hcount
    simp only [RpcChannel.census, queuedNumbers, List.count_nil] at hk
    show ((s.functors.eraseIdx index).filterMap ChannelFunctor.number).count k +
      s.pendingNumbers.count k + s.heldNumbers.count k + s.notified.count k +
        functor.number.toList.count k = if k < s.begun then 1 else 0
    omega
  · exact hkeys.nodup_iff.mpr (by simpa using h.nodup)
  · exact h.lt id (by simpa using hkeys.subset hid)
  · have hnil : s.functors.filterMap ChannelFunctor.number = [] := h.dead halive
    rw [hnil] at hnumbers
    exact (List.append_eq_nil_iff.mp hnumbers.eq_nil).2

/-- The functor that has been taken out of the queue runs. -/
theorem Balanced.perform {functor : ChannelFunctor}
    (h : Balanced s functor.number.toList functor.key.toList)
    (hcall : ∀ requestId bytes call, functor = .registerAndSend requestId bytes call →
      call.call = .pending) : Balanced (s.perform functor) [] [] := by
  refine h.of_kept (.perform h.keys_nodup (fun id hid hmem => ?_) hcall)
  have hdisjoint := (List.nodup_append.mp h.nodup).2.2
  exact hdisjoint id (by simpa using hid) id (List.mem_append_left _ hmem) rfl

/-- A call begins; when it has drawn a request id, that is fresh. -/
theorem Balanced.begin (h : Balanced s [] []) (hdestroyed : s.destroyed = false) {n : Nat}
    {ids : List UInt64} (hn : n ≤ 2 ^ 64)
    (hids : ids = [] ∧ s.nextRequestId ≤ n ∨
      ids = [UInt64.ofNat s.nextRequestId] ∧ n = s.nextRequestId + 1) (e : ChannelEnv) :
    Balanced { s with begun := s.begun + 1, nextRequestId := n, env := e } [s.begun] ids := by
  have hle : s.nextRequestId ≤ n := by omega
  have hfresh : n = s.nextRequestId + 1 →
      (UInt64.ofNat s.nextRequestId).toNat = s.nextRequestId := by
    intro hsucc
    exact Nat.mod_eq_of_lt (by omega)
  refine ⟨fun k => ?_, ?_, fun id hid => ?_, ⟨h.opened.pending, h.opened.queued⟩, h.bottom, h.closing,
    h.dead, fun hgone => ?_⟩
  · have hk := h.census k
    show s.census k + [s.begun].count k = if k < s.begun + 1 then 1 else 0
    simp only [List.count_nil, Nat.add_zero] at hk
    rw [hk, List.count_singleton]
    by_cases heq : s.begun = k
    · subst heq
      simp
    · have : k < s.begun + 1 ↔ k < s.begun := by omega
      simp [heq, this]
  · rcases hids with ⟨rfl, -⟩ | ⟨rfl, rfl⟩
    · exact h.nodup
    · refine List.nodup_cons.mpr ⟨fun hmem => ?_, h.nodup⟩
      have hlt := h.lt _ hmem
      rw [hfresh rfl] at hlt
      omega
  · rcases hids with ⟨rfl, -⟩ | ⟨rfl, rfl⟩
    · exact (h.lt id hid).trans_le hle
    · rcases List.mem_cons.mp hid with rfl | hid
      · rw [hfresh rfl]
        exact Nat.lt_succ_self _
      · exact (h.lt id hid).trans_le hle
  · rw [show s.destroyed = true from hgone] at hdestroyed
    cases hdestroyed

theorem Balanced.env (h : Balanced s numbers ids) (e : ChannelEnv) :
    Balanced { s with env := e } numbers ids :=
  ⟨h.census, h.nodup, h.lt, ⟨h.opened.pending, h.opened.queued⟩, h.bottom, h.closing, h.dead, h.gone⟩

theorem alive_prepareCall (F : MetaFormat) (s : RpcChannel) (a : CallArguments) :
    (s.prepareCall F a).2.alive = s.alive := by
  unfold RpcChannel.prepareCall
  dsimp only
  split
  · split <;> rfl
  · rfl

theorem nextRequestId_le_prepareCall (F : MetaFormat) (s : RpcChannel) (a : CallArguments) :
    s.nextRequestId ≤ (s.prepareCall F a).2.nextRequestId := by
  unfold RpcChannel.prepareCall
  dsimp only
  split
  · split
    · exact Nat.le_succ _
    · exact Nat.le_succ _
  · exact le_rfl

theorem Balanced.prepareCall (h : Balanced s [] []) (F : MetaFormat) (a : CallArguments)
    (hdestroyed : s.destroyed = false)
    (hwrap : (s.prepareCall F a).2.nextRequestId ≤ 2 ^ 64) :
    Balanced (s.prepareCall F a).2 (s.prepareCall F a).1.number.toList
      (s.prepareCall F a).1.key.toList ∧
      ∀ requestId bytes call, (s.prepareCall F a).1 = .registerAndSend requestId bytes call →
        call.call = .pending := by
  have hinvalid : ∀ reason, Balanced { s with begun := s.begun + 1 }
      (ChannelFunctor.completeInvalid s.begun a.controller a.coroutine reason).number.toList [] ∧
      ∀ requestId bytes call, ChannelFunctor.completeInvalid s.begun a.controller a.coroutine reason =
        .registerAndSend requestId bytes call → call.call = .pending := by
    intro reason
    have hn := (nextRequestId_le_prepareCall F s a).trans hwrap
    refine ⟨h.begin hdestroyed hn (.inl ⟨rfl, le_rfl⟩) s.env, fun _ _ _ heq => ?_⟩
    cases heq
  obtain ⟨method, controller, request, response, coroutine, traceId⟩ := a
  rcases method with _ | method
  · exact hinvalid _
  rcases request with _ | request
  · exact hinvalid _
  rcases response with _ | parses
  · exact hinvalid _
  simp only [RpcChannel.prepareCall] at hwrap ⊢
  split at hwrap
  · next hempty =>
    rw [if_pos hempty]
    refine ⟨h.begin hdestroyed hwrap (.inl ⟨rfl, Nat.le_succ _⟩) _, fun _ _ _ heq => ?_⟩
    cases heq
  · next hempty =>
    rw [if_neg hempty]
    refine ⟨h.begin hdestroyed hwrap (.inr ⟨rfl, rfl⟩) _, fun _ _ _ heq => ?_⟩
    cases heq
    rfl

/-- The map is empty: the destructor returns. -/
theorem Balanced.destroyed (h : Balanced s [] []) {stack : List ChannelFrame} {index : Nat}
    (hstack : s.stack = .failAllPendingNow :: stack)
    (hnone : s.keys[index % s.keys.length]? = none) :
    Balanced { s with stack := stack, destroyed := true } [] [] := by
  have hpop := h.pop hstack
  obtain rfl : stack = [] := by
    have hbottom := h.bottom
    rw [hstack] at hbottom
    exact hbottom
  have hempty : s.pendingCalls = [] := by
    rw [List.getElem?_eq_none_iff] at hnone
    by_contra hne
    have hpos : 0 < s.keys.length := by
      simpa [RpcChannel.keys] using List.length_pos_iff.mpr hne
    have := Nat.mod_lt index hpos
    omega
  have halive := h.closing (hstack ▸ List.mem_cons_self)
  refine ⟨hpop.census, hpop.nodup, hpop.lt, ⟨hpop.opened.pending, hpop.opened.queued⟩, hpop.bottom,
    hpop.closing, hpop.dead, fun _ => ⟨halive, fun k hk => ?_⟩⟩
  have hcensus := h.census k
  have hk' : k < s.begun := hk
  simp only [RpcChannel.census, h.dead halive, pendingNumbers, hempty, heldNumbers, hstack,
    ChannelFrame.number, List.map_nil, List.count_nil, List.filterMap_cons, List.filterMap_nil, hk',
    if_true] at hcensus
  show k ∈ s.notified
  exact List.count_pos_iff.mp (by omega)

/-- The handler on top of the stack goes on. -/
theorem Balanced.resume (h : Balanced s [] []) {accepted : Bool} {index : Nat}
    {order : List UInt64} (hstep : s.resume accepted index order = some s') :
    Balanced s' [] [] := by
  unfold RpcChannel.resume at hstep
  split at hstep
  · cases hstep
  · next hstack =>
    cases hstep
    exact h.pop hstack
  · next hstack =>
    cases hstep
    exact h.pop hstack
  · next hstack =>
    cases hstep
    exact (h.pop hstack).of_kept (.degraded _ _ _ _)
  · next hstack =>
    have hpop := h.pop hstack
    cases hstep
    exact hpop.of_kept (.registered hpop.keys_nodup _ _ _)
  · next hstack =>
    cases hstep
    exact h.pop hstack
  · next hstack =>
    cases hstep
    exact h.pop hstack
  · next requestId requestIds stack hstack =>
    have hpush : Balanced { s with stack := .startCancel requestIds :: stack } [] [] :=
      (h.pop hstack).of_kept (.push _ rfl (by simp))
    cases hstep
    split
    · exact hpush.of_kept (.of_completes hpush.keys_nodup (completes_completeCallWithCancel _ _))
    · exact hpush
  · next requestId requestIds stack hstack =>
    have hpush : Balanced { s with stack := .failEach requestIds :: stack } [] [] :=
      (h.pop hstack).of_kept (.push _ rfl (by simp))
    cases hstep
    exact hpush.of_kept (.of_completes hpush.keys_nodup (completes_completeCallWithFailure _ _ _ _))
  · next conn frame frames error stack hstack =>
    have hpush : Balanced { s with stack := .onMessage conn frames error :: stack } [] [] :=
      (h.pop hstack).of_kept (.push _ rfl (by simp))
    cases hstep
    exact hpush.of_kept (.handleFrame hpush.keys_nodup _)
  · next hstack =>
    split at hstep
    · cases hstep
      exact (h.pop hstack).of_kept (.endOfFrames _ _ _ _)
    · cases hstep
  · next hstack =>
    cases hstep
    exact (h.pop hstack).of_kept (.scheduleHeartbeat _)
  · next stack hstack =>
    split at hstep
    · next hnone =>
      cases hstep
      exact h.destroyed hstack hnone
    · cases hstep
      exact h.of_kept (.of_completes h.keys_nodup (completes_failPendingNow h.opened _ _))

/-- A call is queued on the loop by another thread. -/
theorem Balanced.enqueue {functor : ChannelFunctor}
    (h : Balanced s functor.number.toList functor.key.toList) (halive : s.alive = true)
    (hcall : ∀ requestId bytes call, functor = .registerAndSend requestId bytes call →
      call.call = .pending) :
    Balanced { s with functors := s.functors ++ [functor] } [] [] := by
  have hkeys : ({ s with functors := s.functors ++ [functor] } : RpcChannel).allKeys =
      s.allKeys ++ functor.key.toList := by
    cases hkey : functor.key <;> simp [allKeys, RpcChannel.keys, hkey]
  have hperm : (s.allKeys ++ functor.key.toList).Perm (functor.key.toList ++ s.allKeys) :=
    List.perm_append_comm
  refine ⟨fun k => ?_, ?_, fun id hid => ?_, ⟨h.opened.pending, ?_⟩, h.bottom, h.closing, ?_, h.gone⟩
  · have hk := h.census k
    have hqueued : ({ s with functors := s.functors ++ [functor] } : RpcChannel).queuedNumbers =
        s.queuedNumbers ++ functor.number.toList := by
      cases hnumber : functor.number <;> simp [queuedNumbers, hnumber]
    simp only [RpcChannel.census] at hk
    simp only [RpcChannel.census, hqueued, List.count_append, List.count_nil]
    simp only [pendingNumbers, heldNumbers] at hk ⊢
    omega
  · rw [List.nil_append, hkeys]
    exact hperm.nodup_iff.mpr h.nodup
  · rw [List.nil_append, hkeys] at hid
    exact h.lt id (hperm.subset hid)
  · intro requestId bytes call hmem
    rcases List.mem_append.mp hmem with hmem | hmem
    · exact h.opened.queued requestId bytes call hmem
    · exact hcall requestId bytes call (List.mem_singleton.mp hmem).symm
  · intro hdead
    rw [show s.alive = false from hdead] at halive
    cases halive

theorem Balanced.destroy (h : Balanced s [] []) (hstack : s.stack = [])
    (hqueued : s.functors.all (·.number.isNone)) : Balanced s.destroy [] [] := by
  have hempty : s.queuedNumbers = [] := by
    refine List.filterMap_eq_nil_iff.mpr fun f hf => ?_
    simpa using List.all_eq_true.mp hqueued f hf
  have hheld : s.destroy.heldNumbers = s.heldNumbers := by
    simp only [heldNumbers, RpcChannel.destroy, RpcChannel.push, cancelHeartbeat]
    rw [List.filterMap_cons_none rfl]
  refine ⟨fun k => ?_, h.nodup, h.lt, ⟨h.opened.pending, h.opened.queued⟩, hstack, fun _ => rfl,
    fun _ => hempty, fun hgone => ⟨rfl, (h.gone hgone).2⟩⟩
  have hk := h.census k
  simp only [RpcChannel.census, hheld] at hk ⊢
  exact hk

end RpcChannel

end NebulaRpc.Rpc
