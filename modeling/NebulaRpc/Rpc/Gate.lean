import NebulaRpc.Rpc.Classification
import NebulaRpc.Rpc.Link
import NebulaRpc.Rpc.Replies

/-!
# The gate for pending calls

With a limit that is set before the first call, no more calls are pending than it allows, and calls
are rejected for overload exactly when it is reached. The user code that a rejection runs may begin
further calls, but a call is put into the map by the handler that has looked at the limit.
-/

namespace NebulaRpc.Rpc

/-- The limit that a step sets. -/
def ChannelStep.limit : ChannelStep → Option Nat
  | .setMaxPendingCalls n => some n
  | _ => none

namespace RpcChannel

variable {F : MetaFormat} {M : Nat} {a : ChannelStep} {s s' t : RpcChannel} {call : PendingCall}

/-- `OverloadRejectCount`; the counter has 64 bits. -/
def overloadRejects (s : RpcChannel) : UInt64 := .ofNat s.overloadRejectCount

/-- The limit is set to `M` before the first call begins, and never to anything else. -/
def Limited (M : Nat) (s : RpcChannel) (a : ChannelStep) : Prop :=
  (∀ n ∈ a.limit, n = M) ∧ (a.arguments.isSome → s.maxPendingCalls = M)

instance (M : Nat) (s : RpcChannel) (a : ChannelStep) : Decidable (Limited M s a) :=
  inferInstanceAs (Decidable (_ ∧ _))

/-- The call for which the step runs `RegisterAndSend`, if it passes `RejectIfUnavailable`. -/
def admitting (F : MetaFormat) (s : RpcChannel) (a : ChannelStep) : Option PendingCall :=
  if s.connectionState = .connected then (performing F s a).bind ChannelFunctor.registering else none

/-- The step finds the limit reached. -/
def overloads (F : MetaFormat) (M : Nat) (s : RpcChannel) (a : ChannelStep) : Bool :=
  (s.admitting F a).isSome && decide (M ≤ s.pendingCalls.length)

def overloadReason : List UInt8 := octets "too many pending rpcs"

/-- The call has been rejected for overload: this is counted, and the degrade handler is asked about
it or else its caller is told the reason. -/
structure Rejects (s : RpcChannel) (call : PendingCall) (s' : RpcChannel) : Prop where
  counted : s'.overloadRejectCount = s.overloadRejectCount + 1
  kept : s'.pendingCalls = s.pendingCalls
  asked : s.degradeHandler = true → s'.notified = s.notified ∧
    ∃ id, s'.stack = .degrade id call overloadReason :: s.stack
  told : s.degradeHandler = false → s'.notified = call.number :: s.notified ∧
    ∀ c ∈ call.controller, (s'.env.controllers c).failed = true ∧
      (s'.env.controllers c).errorText = overloadReason

/-- How often a call has been completed; the degrade handler that runs for a call completes it when
it returns. -/
def completions (s : RpcChannel) (k : Nat) : Nat :=
  s.notified.count k + (s.degrading.map (·.number)).count k

/-- What the gate does in a run that ends in `s`. -/
structure Gate (F : MetaFormat) (M : Nat) (s₀ : RpcChannel) (steps : List ChannelStep)
    (s : RpcChannel) : Prop where
  bounded : s.pendingCalls.length ≤ M
  counted : s.overloadRejects = .ofNat (Transition.count (step F) (overloads F M) s₀ steps)
  /-- the counter does not wrap before the request ids do -/
  exact : s.nextRequestId ≤ 2 ^ 64 →
    s.overloadRejects.toNat = Transition.count (step F) (overloads F M) s₀ steps
  rejects : ∀ s₁ a, Transition.Takes (step F) s₀ steps s₁ a → ∀ call ∈ s₁.admitting F a,
    ∀ s₂, s₁.step F a = some s₂ → (Rejects s₁ call s₂ ↔ M ≤ s₁.pendingCalls.length)
  once : ∀ s₁ a, Transition.Takes (step F) s₀ steps s₁ a → ∀ call ∈ s₁.admitting F a,
    M ≤ s₁.pendingCalls.length → s.completions call.number = 1

/-! ## The size of the map -/

/-- What every step keeps. -/
structure Gated (M : Nat) (s : RpcChannel) : Prop where
  limit : s.maxPendingCalls = M ∨ s.functors.filterMap ChannelFunctor.registering = []
  bounded : s.pendingCalls.length ≤ M

theorem length_pendingCalls_of_quiet (h : Quiet s s') :
    s'.pendingCalls.length ≤ s.pendingCalls.length := by
  simpa [entries] using h.entries.length_le

theorem length_pendingCalls_finish (s : RpcChannel) (id : UInt64) (call : PendingCall)
    (ending : Ending) : (s.finish id call ending).pendingCalls.length ≤ s.pendingCalls.length := by
  rw [finish, pendingCalls_notifyCompletion]
  exact List.length_filter_le _ _

theorem length_pendingCalls_hook (s : RpcChannel) (id : UInt64) (call : PendingCall)
    (bytes : List UInt8) :
    ((s.emplace id call).hook id bytes).pendingCalls.length ≤ s.pendingCalls.length + 1 := by
  apply (length_pendingCalls_of_quiet (quiet_hook _ id bytes)).trans
  obtain heq | heq := emplace_cases s id call
  · rw [heq]
    omega
  · rw [heq]
    simp

theorem room_iff (hM : 0 < M) (hlimit : s.maxPendingCalls = M) :
    s.room ↔ s.pendingCalls.length < M := by
  unfold room
  rw [hlimit]
  omega

/-- A call goes into the map only where there is room for it. -/
theorem length_pendingCalls_performed (hM : 0 < M) {functor : ChannelFunctor}
    (hperformed : Performed t functor s') (hbounded : t.pendingCalls.length ≤ M)
    (hlimit : functor.registering ≠ none → t.maxPendingCalls = M) : s'.pendingCalls.length ≤ M := by
  cases hperformed with
  | unavailable | expired | invalid =>
    exact (congrArg List.length (pendingCalls_notifyCompletion _ _ _)).trans_le hbounded
  | overloaded =>
    unfold rejectOverloaded
    dsimp only
    split
    · exact hbounded
    · rw [pendingCalls_notifyCompletion]
      exact hbounded
  | @inserted id bytes call _ hroom =>
    have hlt := (room_iff hM (hlimit (by simp [ChannelFunctor.registering]))).mp hroom
    exact (length_pendingCalls_hook t id call bytes).trans hlt
  | @cancelled id bytes call call' _ hroom =>
    have hlt := (room_iff hM (hlimit (by simp [ChannelFunctor.registering]))).mp hroom
    apply (length_pendingCalls_finish _ id call' .cancel).trans
    exact (length_pendingCalls_hook t id call bytes).trans hlt
  | cancel => exact (length_pendingCalls_finish t _ _ _).trans hbounded
  | quiet => exact hbounded

theorem Performs.same {functor : ChannelFunctor} (h : Performs F s a t functor) :
    t.link = s.link ∧ t.pendingCalls = s.pendingCalls ∧ t.stack = s.stack ∧
      t.notified = s.notified ∧ t.degradeHandler = s.degradeHandler ∧
      t.overloadRejectCount = s.overloadRejectCount := by
  cases h with
  | beginCall x later =>
    obtain ⟨n, completions, -, hstate⟩ := prepareCall_state F s x
    rw [hstate]
    exact ⟨rfl, rfl, rfl, rfl, rfl, rfl⟩
  | runFunctor hget => exact ⟨rfl, rfl, rfl, rfl, rfl, rfl⟩

/-- Where `RegisterAndSend` runs, the limit has been set. -/
theorem Gated.maxPendingCalls (h : Gated M s) (hlimited : Limited M s a) {functor : ChannelFunctor}
    (hperforms : Performs F s a t functor) (hregistering : functor.registering ≠ none) :
    s.maxPendingCalls = M := by
  cases hperforms with
  | beginCall x later => exact hlimited.2 rfl
  | runFunctor hget =>
    obtain hlimit | hnone := h.limit
    · exact hlimit
    · obtain ⟨call, hcall⟩ := Option.ne_none_iff_exists'.mp hregistering
      have hmem : call ∈ s.functors.filterMap ChannelFunctor.registering :=
        List.mem_filterMap.mpr ⟨functor, List.mem_of_getElem? hget, hcall⟩
      rw [hnone] at hmem
      cases hmem

theorem Gated.bounded_step (hM : 0 < M) (h : Gated M s) (hlimited : Limited M s a)
    (hstep : s.step F a = some s') : s'.pendingCalls.length ≤ M := by
  cases step_form hstep with
  | quiet hquiet => exact (length_pendingCalls_of_quiet hquiet).trans h.bounded
  | @prepare x ha =>
    have hentries := congrArg List.length (entries_prepareCall F s x).1
    simp only [entries, List.length_map] at hentries
    exact hentries.trans_le h.bounded
  | finish hcause hfind hquiet hfunctors =>
    apply (length_pendingCalls_finish _ _ _ _).trans
    exact (length_pendingCalls_of_quiet hquiet).trans h.bounded
  | degraded ha hstack =>
    exact (congrArg List.length (pendingCalls_notifyCompletion _ _ _)).trans_le h.bounded
  | perform hperforms =>
    obtain ⟨hlink, hpending, -⟩ := hperforms.same
    apply length_pendingCalls_performed hM (performed_perform _ _)
    · rw [hpending]
      exact h.bounded
    · intro hregistering
      exact (congrArg ChannelLink.maxPendingCalls hlink).trans
        (h.maxPendingCalls hlimited hperforms hregistering)

theorem carried_true (s : RpcChannel) : Carried (fun _ => True) s :=
  ⟨fun _ _ _ _ => trivial, fun _ _ => trivial, fun _ _ => trivial⟩

theorem Gated.limit_step (h : Gated M s) (hlimited : Limited M s a)
    (hstep : s.step F a = some s') :
    s'.maxPendingCalls = M ∨ s'.functors.filterMap ChannelFunctor.registering = [] := by
  have hsame : s'.maxPendingCalls = M ∨ s'.maxPendingCalls = s.maxPendingCalls := by
    have hrelinks := step_relinks hstep
    generalize hlink : s'.link = l at hrelinks
    have hmax : s'.maxPendingCalls = l.maxPendingCalls := congrArg ChannelLink.maxPendingCalls hlink
    rw [hmax]
    cases hrelinks with
    | setMaxPendingCalls n => exact .inl (hlimited.1 n rfl)
    | _ => exact .inr rfl
  obtain hset | heq := hsame
  · exact .inl hset
  obtain hlimit | hnone := h.limit
  · exact .inl (heq.trans hlimit)
  by_cases ha : a.arguments = none
  · right
    obtain ⟨u, b, hopens, hhandles⟩ := step_books (carried_true s) (fun _ _ _ _ => trivial) hstep
    have hperm := hopens.perm ChannelFunctor.registering
    rw [hnone, ha] at hperm
    have hnil := List.append_eq_nil_iff.mp hperm.eq_nil
    rw [hhandles.books.posts.registering]
    exact hnil.2
  · exact .inl (heq.trans (hlimited.2 (Option.isSome_iff_ne_none.mpr ha)))

theorem Gated.step (hM : 0 < M) (h : Gated M s) (hlimited : Limited M s a)
    (hstep : s.step F a = some s') : Gated M s' :=
  ⟨h.limit_step hlimited hstep, h.bounded_step hM hlimited hstep⟩

/-! ## Rejections -/

theorem overloadRejectCount_notifyCompletion (s : RpcChannel) (number : Nat) (coroutine : Bool) :
    (s.notifyCompletion number coroutine).overloadRejectCount = s.overloadRejectCount := by
  unfold notifyCompletion
  dsimp only
  split <;> rfl

theorem overloadRejectCount_rejectOverloaded (s : RpcChannel) (id : UInt64) (call : PendingCall) :
    (s.rejectOverloaded id call).overloadRejectCount = s.overloadRejectCount + 1 := by
  unfold rejectOverloaded
  dsimp only
  split
  · rfl
  · exact overloadRejectCount_notifyCompletion _ _ _

theorem overloadRejectCount_emplace (s : RpcChannel) (id : UInt64) (call : PendingCall) :
    (s.emplace id call).overloadRejectCount = s.overloadRejectCount := by
  obtain heq | heq := emplace_cases s id call <;> rw [heq]

/-- A functor that runs rejects a call for overload exactly if the call is available and the limit is
reached. -/
theorem overloadRejectCount_performed {functor : ChannelFunctor}
    (hperformed : Performed t functor s') :
    s'.overloadRejectCount = t.overloadRejectCount ∧
        (t.connectionState = .connected → functor.registering ≠ none → t.room) ∨
      s'.overloadRejectCount = t.overloadRejectCount + 1 ∧ t.connectionState = .connected ∧
        functor.registering ≠ none ∧ ¬t.room := by
  have hinserted : ∀ id call bytes, ((t.emplace id call).hook id bytes).overloadRejectCount =
      t.overloadRejectCount := fun id call bytes =>
    (quiet_hook _ id bytes).rejects.trans (overloadRejectCount_emplace t id call)
  cases hperformed with
  | unavailable hstate =>
    exact .inl ⟨overloadRejectCount_notifyCompletion _ _ _, fun h => absurd h hstate⟩
  | overloaded hstate hroom =>
    exact .inr ⟨overloadRejectCount_rejectOverloaded t _ _, hstate,
      by simp [ChannelFunctor.registering], hroom⟩
  | expired hstate hroom hdeadline =>
    exact .inl ⟨overloadRejectCount_notifyCompletion _ _ _, fun _ _ => hroom⟩
  | inserted hstate hroom => exact .inl ⟨hinserted _ _ _, fun _ _ => hroom⟩
  | cancelled hstate hroom hfind =>
    exact .inl ⟨(overloadRejectCount_notifyCompletion _ _ _).trans (hinserted _ _ _),
      fun _ _ => hroom⟩
  | invalid =>
    exact .inl ⟨overloadRejectCount_notifyCompletion _ _ _, fun _ h => absurd rfl h⟩
  | cancel =>
    exact .inl ⟨overloadRejectCount_notifyCompletion _ _ _, fun _ h => absurd rfl h⟩
  | quiet hnumber =>
    refine .inl ⟨rfl, fun _ h => absurd ?_ h⟩
    cases functor <;> simp_all [ChannelFunctor.registering, ChannelFunctor.number]

/-- A step counts a rejection exactly if a call that is available finds no room. -/
theorem overloadRejectCount_step (hstep : s.step F a = some s') :
    s'.overloadRejectCount = s.overloadRejectCount ∧ (s.admitting F a ≠ none → s.room) ∨
      s'.overloadRejectCount = s.overloadRejectCount + 1 ∧ s.admitting F a ≠ none ∧ ¬s.room := by
  cases hperforming : performing F s a with
  | some functor =>
    obtain ⟨t, hperforms, rfl⟩ := step_performs hperforming hstep
    obtain ⟨hlink, hpending, -, -, -, hrejects⟩ := hperforms.same
    have hstate : t.connectionState = s.connectionState := congrArg ChannelLink.connectionState hlink
    have hmax : t.maxPendingCalls = s.maxPendingCalls := congrArg ChannelLink.maxPendingCalls hlink
    have hroom : t.room ↔ s.room := by rw [room, room, hmax, hpending]
    rw [admitting, hperforming, ← hrejects, ← hroom, ← hstate]
    obtain ⟨hcount, hnone⟩ | ⟨hcount, hconnected, hregistering, hfull⟩ :=
      overloadRejectCount_performed (performed_perform t functor)
    · refine .inl ⟨hcount, fun hadmitting => ?_⟩
      split at hadmitting
      · next hconnected => exact hnone hconnected hadmitting
      · exact absurd rfl hadmitting
    · refine .inr ⟨hcount, ?_, hfull⟩
      rw [if_pos hconnected]
      exact hregistering
  | none =>
    refine .inl ⟨?_, fun hadmitting => absurd (by simp [admitting, hperforming]) hadmitting⟩
    cases step_form hstep with
    | quiet hquiet => exact hquiet.rejects
    | @prepare x ha =>
      obtain ⟨n, completions, -, hstate⟩ := prepareCall_state F s x
      rw [hstate]
    | finish hcause hfind hquiet hfunctors =>
      exact (overloadRejectCount_notifyCompletion _ _ _).trans hquiet.rejects
    | degraded => exact overloadRejectCount_notifyCompletion _ _ _
    | perform hperforms => cases (performing_eq_some hperforms) ▸ hperforming

theorem Gated.room_iff (hM : 0 < M) (h : Gated M s) (hlimited : Limited M s a)
    (hstep : s.step F a = some s') (hadmitting : s.admitting F a ≠ none) :
    s.room ↔ s.pendingCalls.length < M := by
  unfold admitting at hadmitting
  split at hadmitting
  · cases hperforming : performing F s a with
    | none => simp [hperforming] at hadmitting
    | some functor =>
      obtain ⟨t, hperforms, -⟩ := step_performs hperforming hstep
      rw [hperforming] at hadmitting
      exact RpcChannel.room_iff hM (h.maxPendingCalls hlimited hperforms hadmitting)
  · exact absurd rfl hadmitting

/-- With the limit, the steps that count a rejection are those that find the limit reached. -/
theorem Gated.overloadRejectCount_eq (hM : 0 < M) (h : Gated M s) (hlimited : Limited M s a)
    (hstep : s.step F a = some s') :
    s'.overloadRejectCount = s.overloadRejectCount + (overloads F M s a).toNat := by
  have hroom := h.room_iff hM hlimited hstep
  obtain ⟨hcount, hfree⟩ | ⟨hcount, hadmitting, hfull⟩ := overloadRejectCount_step hstep
  · have hoverloads : overloads F M s a = false := by
      cases hadmitting : s.admitting F a with
      | none => simp [overloads, hadmitting]
      | some call =>
        have hne : s.admitting F a ≠ none := by simp [hadmitting]
        have hlt := (hroom hne).mp (hfree hne)
        simp [overloads, hlt]
    rw [hcount, hoverloads]
    rfl
  · rw [hroom hadmitting, Nat.not_lt] at hfull
    have hoverloads : overloads F M s a = true := by
      simp [overloads, hfull, Option.isSome_iff_ne_none, hadmitting]
    rw [hcount, hoverloads]
    rfl

theorem rejects_rejectOverloaded (s : RpcChannel) (id : UInt64) (call : PendingCall) :
    Rejects s call (s.rejectOverloaded id call) := by
  unfold rejectOverloaded
  dsimp only
  split
  · next hdegrade =>
    refine ⟨rfl, rfl, fun _ => ⟨rfl, id, rfl⟩, fun h => ?_⟩
    rw [hdegrade] at h
    cases h
  · next hdegrade =>
    refine ⟨overloadRejectCount_notifyCompletion _ _ _, pendingCalls_notifyCompletion _ _ _,
      fun h => absurd h hdegrade, fun _ => ⟨notified_notifyCompletion _ _ _, ?_⟩⟩
    intro c hc
    rw [env_notifyCompletion]
    have hcontroller : call.controller = some c := hc
    simp [hcontroller, ChannelEnv.applyFailure, ChannelEnv.updateController,
      RpcController.setFailed, RpcController.markCallState, overloadReason]

/-- A call that passes the availability check is rejected for overload exactly if the limit is
reached. -/
theorem Gated.rejects_iff (hM : 0 < M) (h : Gated M s) (hlimited : Limited M s a)
    (hcall : call ∈ s.admitting F a) (hstep : s.step F a = some s') :
    Rejects s call s' ↔ M ≤ s.pendingCalls.length := by
  have hadmitting : s.admitting F a = some call := hcall
  have hroom := h.room_iff hM hlimited hstep (by simp [hadmitting])
  constructor
  · intro hrejects
    obtain ⟨hcount, -⟩ | ⟨-, -, hfull⟩ := overloadRejectCount_step hstep
    · have hcounted := hrejects.counted
      omega
    · exact Nat.not_lt.mp (fun hlt => hfull (hroom.mpr hlt))
  · intro hle
    have hfull : ¬s.room := fun h => absurd (hroom.mp h) (Nat.not_lt.mpr hle)
    unfold admitting at hadmitting
    split at hadmitting
    · next hstate =>
      obtain ⟨functor, hperforming, hregistering⟩ := Option.bind_eq_some_iff.mp hadmitting
      obtain ⟨t, hperforms, rfl⟩ := step_performs hperforming hstep
      obtain ⟨hlink, hpending, hstack, hnotified, hdegrade, hcounted⟩ := hperforms.same
      have hstate' : t.connectionState = .connected :=
        (congrArg ChannelLink.connectionState hlink).trans hstate
      have hmax : t.maxPendingCalls = s.maxPendingCalls :=
        congrArg ChannelLink.maxPendingCalls hlink
      rw [room, not_not, ← hmax, ← hpending] at hfull
      cases functor with
      | registerAndSend id bytes call' =>
        obtain rfl : call' = call := Option.some.inj hregistering
        have hrejected : t.perform (.registerAndSend id bytes call') = t.rejectOverloaded id call' := by
          simp only [perform, registerAndSend]
          rw [if_neg (not_not.mpr hstate'), if_pos hfull]
        rw [hrejected]
        obtain ⟨h₁, h₂, h₃, h₄⟩ := rejects_rejectOverloaded t id call'
        rw [hcounted] at h₁
        rw [hpending] at h₂
        rw [hdegrade, hnotified, hstack] at h₃
        rw [hdegrade, hnotified] at h₄
        exact ⟨h₁, h₂, h₃, h₄⟩
      | _ => cases hregistering
    · cases hadmitting

/-- The call that has been rejected is completed, or its degrade handler runs. -/
theorem Rejects.completions (h : Rejects s call s') : 0 < s'.completions call.number := by
  unfold RpcChannel.completions
  cases hdegrade : s.degradeHandler with
  | true =>
    obtain ⟨-, id, hstack⟩ := h.asked hdegrade
    simp [degrading, hstack, ChannelFrame.degrading]
  | false =>
    rw [(h.told hdegrade).1]
    simp

end RpcChannel

/-! ## Runs -/

namespace MeasuredChannel

variable {F : MetaFormat} {s s' : MeasuredChannel} {l : MeasuredStep}

/-- A run of a channel can be followed with its metrics. -/
theorem exists_run (s : MeasuredChannel) {steps : List ChannelStep} {c : RpcChannel}
    (hrun : s.channel.run F steps = some c) :
    ∃ s', s.run F (steps.map .channel) = some s' ∧ s'.channel = c := by
  induction steps generalizing s with
  | nil => exact ⟨s, rfl, Option.some.inj hrun⟩
  | cons a steps ih =>
    obtain ⟨c₁, hstep, hrun⟩ := Transition.run_cons_eq_some_iff.mp hrun
    obtain ⟨s', hrun', hchannel⟩ := ih (s.advance F a c₁) hrun
    refine ⟨s', Transition.run_cons_eq_some_iff.mpr ⟨s.advance F a c₁, ?_, hrun'⟩, hchannel⟩
    simp [MeasuredChannel.step, hstep]

theorem Tallied.completions (h : Tallied s) (k : Nat) :
    s.channel.completions k = (s.records.map (·.1)).count k + s.invalid.count k :=
  (h.ledger k).symm

/-- Completions are not taken back. -/
theorem Tallied.completions_le_step (h : Tallied s) (hstep : s.step F l = some s') (k : Nat) :
    s.channel.completions k ≤ s'.channel.completions k := by
  rw [h.completions, (h.step hstep).completions]
  cases l with
  | channel a =>
    obtain ⟨c, hc, rfl⟩ := Option.map_eq_some_iff.mp hstep
    simp only [advance, invalid, List.map_append, List.filterMap_append, List.count_append]
    omega
  | takeCycleCount =>
    cases hstep
    exact le_rfl

/-- Every rejection is one of a call that has reached `RegisterAndSend`. -/
theorem rejects_le_step (h : s.channel.overloadRejectCount ≤ s.reached.length)
    (hstep : s.step F l = some s') : s'.channel.overloadRejectCount ≤ s'.reached.length := by
  cases l with
  | channel a =>
    obtain ⟨c, hc, rfl⟩ := Option.map_eq_some_iff.mp hstep
    simp only [advance, reached, List.filterMap_append, List.length_append] at h ⊢
    obtain ⟨hcount, -⟩ | ⟨hcount, hadmitting, -⟩ := RpcChannel.overloadRejectCount_step hc
    · omega
    · obtain ⟨call, hcall⟩ := Option.ne_none_iff_exists'.mp hadmitting
      unfold RpcChannel.admitting at hcall
      split at hcall
      · obtain ⟨functor, hperforming, hregistering⟩ := Option.bind_eq_some_iff.mp hcall
        simp only [hperforming, Option.toList_some, List.filterMap_cons, hregistering,
          Option.map_some, List.filterMap_nil, List.length_singleton]
        omega
      · cases hcall
  | takeCycleCount =>
    cases hstep
    exact h

theorem completions_le_run {steps : List MeasuredStep} (h : Tallied s)
    (hrun : s.run F steps = some s') (k : Nat) :
    Tallied s' ∧ s.channel.completions k ≤ s'.channel.completions k := by
  have hkeep : ∀ (s₁ : MeasuredChannel) (l : MeasuredStep) (s₂ : MeasuredChannel),
      Tallied s₁ ∧ s.channel.completions k ≤ s₁.channel.completions k → True →
      s₁.step F l = some s₂ → Tallied s₂ ∧ s.channel.completions k ≤ s₂.channel.completions k := by
    intro s₁ l s₂ h _ hstep
    exact ⟨h.1.step hstep, h.2.trans (h.1.completions_le_step hstep k)⟩
  exact Transition.invariant_run (I := fun s₁ : MeasuredChannel =>
    Tallied s₁ ∧ s.channel.completions k ≤ s₁.channel.completions k) hkeep ⟨h, le_rfl⟩
    (Transition.meets_of_forall fun _ _ => trivial) hrun

theorem rejects_le_run {drawn : Nat} {e : ChannelEnv} {steps : List MeasuredStep}
    (hrun : (start drawn e).run F steps = some s) :
    s.channel.overloadRejectCount ≤ s.reached.length := by
  have hkeep : ∀ (s : MeasuredChannel) (l : MeasuredStep) (s' : MeasuredChannel),
      s.channel.overloadRejectCount ≤ s.reached.length → True → s.step F l = some s' →
      s'.channel.overloadRejectCount ≤ s'.reached.length := fun s l s' h _ hstep =>
    rejects_le_step h hstep
  exact Transition.invariant_run (I := fun s : MeasuredChannel =>
    s.channel.overloadRejectCount ≤ s.reached.length) hkeep (Nat.le_refl 0)
    (Transition.meets_of_forall fun _ _ => trivial) hrun

end MeasuredChannel

namespace RpcChannel

variable {F : MetaFormat} {M drawn : Nat} {e : ChannelEnv} {steps : List ChannelStep}
  {s s₁ : RpcChannel} {a : ChannelStep}

theorem gated_start (M nextRequestId : Nat) (e : ChannelEnv) : Gated M (start nextRequestId e) :=
  ⟨.inr rfl, Nat.zero_le M⟩

/-- The number of rejections that have been counted. -/
theorem gated_run (hM : 0 < M) {s₀ : RpcChannel} (h : Gated M s₀)
    (hmeets : Transition.Meets (step F) (Limited M) s₀ steps)
    (hrun : s₀.run F steps = some s) :
    Gated M s ∧ s.overloadRejectCount =
      s₀.overloadRejectCount + Transition.count (step F) (overloads F M) s₀ steps := by
  have hkeep : ∀ (n : Nat) (s : RpcChannel) (a : ChannelStep) (s' : RpcChannel),
      Gated M s ∧ s.overloadRejectCount = n → Limited M s a → s.step F a = some s' →
      Gated M s' ∧ s'.overloadRejectCount = n + (overloads F M s a).toNat := by
    intro n s a s' h hlimited hstep
    refine ⟨h.1.step hM hlimited hstep, ?_⟩
    rw [h.1.overloadRejectCount_eq hM hlimited hstep, h.2]
  exact Transition.invariant_count hkeep ⟨h, rfl⟩ hmeets hrun

/-- Where a run takes a step, it meets the condition, and the rest of it is a run. -/
theorem gated_takes (hM : 0 < M)
    (hmeets : Transition.Meets (step F) (Limited M) (start (drawn + 1) e) steps)
    (hrun : (start (drawn + 1) e).run F steps = some s)
    (htakes : Transition.Takes (step F) (start (drawn + 1) e) steps s₁ a) :
    Gated M s₁ ∧ Limited M s₁ a ∧ ∃ earlier later s₂, (start (drawn + 1) e).run F earlier = some s₁ ∧
      s₁.step F a = some s₂ ∧ s₂.run F later = some s := by
  obtain ⟨earlier, later, rfl, hearlier⟩ := htakes
  obtain ⟨hbefore, hafter⟩ := hmeets.of_append hearlier
  have hrest : s₁.run F (a :: later) = some s := by
    unfold run at hrun ⊢
    rwa [Transition.run_append, hearlier, Option.bind_some] at hrun
  obtain ⟨s₂, hstep, hlater⟩ := Transition.run_cons_eq_some_iff.mp hrest
  exact ⟨(gated_run hM (gated_start _ _ _) hbefore hearlier).1, hafter.1,
    earlier, later, s₂, hearlier, hstep, hlater⟩

/-- A call that has been completed, or for which the degrade handler runs, stays so, and it is
completed once. -/
theorem completions_eq_one {earlier later : List ChannelStep} {k : Nat}
    (hearlier : (start (drawn + 1) e).run F earlier = some s₁) (hlater : s₁.run F later = some s)
    (hk : 0 < s₁.completions k) : s.completions k = 1 := by
  obtain ⟨m₁, hrun₁, rfl⟩ := MeasuredChannel.exists_run (MeasuredChannel.start drawn e) hearlier
  obtain ⟨m, hrun, rfl⟩ := m₁.exists_run hlater
  have h₁ := (MeasuredChannel.classified_run hrun₁).1
  obtain ⟨h, hle⟩ := MeasuredChannel.completions_le_run h₁ hrun k
  have hone := h.count_records_le k
  have hcompletions := h.completions k
  omega

theorem rejects_lt_nextRequestId (hrun : (start (drawn + 1) e).run F steps = some s) :
    s.overloadRejectCount < s.nextRequestId := by
  obtain ⟨m, hrun', rfl⟩ := MeasuredChannel.exists_run (MeasuredChannel.start drawn e) hrun
  have hdrawn := (MeasuredChannel.classified_run hrun').1.drawn
  have hle := MeasuredChannel.rejects_le_run hrun'
  omega

/-- The gate holds in every run in which the limit is set before the first call. -/
theorem pending_gate (F : MetaFormat) (M : Nat) (hM : 0 < M) (drawn : Nat) (e : ChannelEnv)
    (steps : List ChannelStep) (s : RpcChannel)
    (hmeets : Transition.Meets (step F) (Limited M) (start (drawn + 1) e) steps)
    (hrun : (start (drawn + 1) e).run F steps = some s) :
    Gate F M (start (drawn + 1) e) steps s := by
  obtain ⟨hgated, hcount⟩ := gated_run hM (gated_start _ _ _) hmeets hrun
  have hcount' : s.overloadRejectCount =
      Transition.count (step F) (overloads F M) (start (drawn + 1) e) steps :=
    hcount.trans (Nat.zero_add _)
  refine ⟨hgated.bounded, by rw [overloadRejects, hcount'], fun hwrap => ?_,
    fun s₁ a htakes call hcall s₂ hstep => ?_, fun s₁ a htakes call hcall hle => ?_⟩
  · have hlt := rejects_lt_nextRequestId hrun
    rw [overloadRejects, UInt64.toNat_ofNat', ← hcount']
    exact Nat.mod_eq_of_lt (by omega)
  · obtain ⟨h₁, hlimited, -⟩ := gated_takes hM hmeets hrun htakes
    exact h₁.rejects_iff hM hlimited hcall hstep
  · obtain ⟨h₁, hlimited, earlier, later, s₂, hearlier, hstep, hlater⟩ :=
      gated_takes hM hmeets hrun htakes
    have hrejects := (h₁.rejects_iff hM hlimited hcall hstep).mpr hle
    have hrun₂ : (start (drawn + 1) e).run F (earlier ++ [a]) = some s₂ := by
      unfold run at hearlier ⊢
      rw [Transition.run_append, hearlier, Option.bind_some]
      exact Transition.run_cons_eq_some_iff.mpr ⟨s₂, hstep, rfl⟩
    exact completions_eq_one hrun₂ hlater hrejects.completions

/-- One call may be pending. -/
def filled : List ChannelStep :=
  [.setMaxPendingCalls 1, .connectionUp 0, .beginCall emptyCall 0, .resume false 0 []]

/-- Another call is rejected, and its callback returns. -/
def refusal : List ChannelStep := [.beginCall emptyCall 0, .resume false 0 []]

theorem pending_gate_refused :
    ∃ s, (start 1 {}).run wireFormat (filled ++ refusal) = some s ∧
      Transition.count (step wireFormat) (overloads wireFormat 1) (start 1 {})
        (filled ++ refusal) = 1 ∧
      s.notified = [1] ∧ Gate wireFormat 1 (start 1 {}) (filled ++ refusal) s :=
  ⟨_, rfl, by decide, rfl,
    pending_gate wireFormat 1 (by decide) 0 {} (filled ++ refusal) _ (by decide) rfl⟩

/-! ## The counter wraps -/

/-- The only call that may be pending is pending. -/
structure Full (s : RpcChannel) : Prop where
  connectionState : s.connectionState = .connected
  maxPendingCalls : s.maxPendingCalls = 1
  pending : s.pendingCalls.length = 1
  stack : s.stack = []
  destroyed : s.destroyed = false
  degradeHandler : s.degradeHandler = false
  clock : s.env.clock = 0

/-- The request of the empty call is written, whatever its id. -/
theorem encodeMessage_emptyCall (requestId traceId : UInt64) :
    encodeMessage wireFormat
      { type := .request, requestId := requestId, serviceName := octets "s", methodIndex := 0,
        traceId := traceId }
      { byteSizeLong := 0, serializeWithCachedSizesToArray := [], serializeToString := some [] } ≠
        [] := by
  have hlength := compact_serialize (RpcMeta.setPayloadSize
    { type := .request, requestId := requestId, serviceName := octets "s", methodIndex := 0,
      traceId := traceId } 0)
  have hname : (octets "s").length = 1 := by decide
  generalize hmeta : RpcMeta.setPayloadSize
    { type := .request, requestId := requestId, serviceName := octets "s", methodIndex := 0,
      traceId := traceId } 0 = m at hlength
  have hsize : m.serialize.length ≤ 161 := by
    subst hmeta
    simpa [RpcMeta.setPayloadSize, hname] using hlength
  have hbytes := wireFormat_lawful.byteSizeLong_eq m
  have hserialize := wireFormat_lawful.serializeWithCachedSizesToArray_eq m (by omega)
  have hframe := overwrite_frame (UInt32.ofNat (4 + m.serialize.length + 0))
    (UInt32.ofNat m.serialize.length) m.serialize []
  rw [List.length_nil] at hframe
  simp only [encodeMessage, hmeta, hbytes, hserialize, uint32Max, kMaxFrameSize]
  rw [if_neg (by omega), if_neg (by omega), if_neg (by simp; omega), hframe]
  exact List.append_ne_nil_of_left_ne_nil (List.cons_ne_nil _ _) _

theorem Full.refused (h : Full s) : ∃ s', s.run wireFormat refusal = some s' ∧ Full s' ∧
    s'.overloadRejectCount = s.overloadRejectCount + 1 := by
  obtain ⟨hstate, hmax, hpending, hstack, hdestroyed, hdegrade, hclock⟩ := h
  have hbytes := encodeMessage_emptyCall (UInt64.ofNat s.nextRequestId) 0
  have hstep : s.step wireFormat (.beginCall emptyCall 0) =
      some ({ (s.prepareCall wireFormat emptyCall).2 with
        env := { (s.prepareCall wireFormat emptyCall).2.env with clock := 0 }
        }.perform (s.prepareCall wireFormat emptyCall).1) := by
    simp [step, userCode, hstack, hdestroyed, hclock]
  obtain ⟨id, bytes, call, hfunctor, hcoroutine⟩ : ∃ id bytes call,
      (s.prepareCall wireFormat emptyCall).1 = .registerAndSend id bytes call ∧
        call.coroutine = false := by
    simp only [prepareCall, emptyCall, hbytes, if_false]
    exact ⟨_, _, _, rfl, rfl⟩
  obtain ⟨n, completions, -, hprepared⟩ := prepareCall_state wireFormat s emptyCall
  rw [hfunctor, hprepared, perform, registerAndSend, if_neg (by simp [hstate]),
    if_pos (by simp [hmax, hpending])] at hstep
  simp only [rejectOverloaded, hdegrade, Bool.false_eq_true, if_false, notifyCompletion, hcoroutine,
    push, hstack] at hstep
  refine ⟨_, Transition.run_cons_eq_some_iff.mpr ⟨_, hstep, rfl⟩, ⟨?_, ?_, ?_, ?_, ?_, ?_, ?_⟩, ?_⟩
  · exact hstate
  · exact hmax
  · exact hpending
  · rfl
  · exact hdestroyed
  · rfl
  · cases call.controller <;> rfl
  · rfl

/-- So many calls are begun, and all of them are rejected. -/
def refusals (n : Nat) : List ChannelStep := (List.replicate n refusal).flatten

theorem Full.refusals (h : Full s) (n : Nat) : ∃ s', s.run wireFormat (refusals n) = some s' ∧
    s'.overloadRejectCount = s.overloadRejectCount + n ∧
    Transition.Meets (step wireFormat) (Limited 1) s (RpcChannel.refusals n) := by
  induction n generalizing s with
  | zero => exact ⟨s, rfl, rfl, trivial⟩
  | succ n ih =>
    obtain ⟨s₁, hrun, hfull, hcount⟩ := h.refused
    obtain ⟨s', hrun', hcount', hmeets⟩ := ih hfull
    have hrefusals : RpcChannel.refusals (n + 1) = refusal ++ RpcChannel.refusals n := rfl
    rw [hrefusals]
    refine ⟨s', ?_, by omega, Transition.Meets.append ?_ fun s₂ hrun₂ => ?_⟩
    · unfold run at hrun ⊢
      rw [Transition.run_append, hrun]
      exact hrun'
    · refine ⟨⟨by simp [ChannelStep.limit], fun _ => h.maxPendingCalls⟩, fun s₂ _ => ?_⟩
      exact ⟨by simp [Limited, ChannelStep.limit, ChannelStep.arguments], fun _ _ => trivial⟩
    · obtain rfl : s₁ = s₂ := Option.some.inj (hrun.symm.trans hrun₂)
      exact hmeets

theorem exists_rejects (n : Nat) : ∃ steps s,
    Transition.Meets (step wireFormat) (Limited 1) (start 1 {}) steps ∧
      (start 1 {}).run wireFormat steps = some s ∧
      Transition.count (step wireFormat) (overloads wireFormat 1) (start 1 {}) steps = n ∧
      s.overloadRejectCount = n := by
  obtain ⟨s₁, hfilled, hfull, hzero⟩ : ∃ s₁, (start 1 {}).run wireFormat filled = some s₁ ∧
      Full s₁ ∧ s₁.overloadRejectCount = 0 :=
    ⟨_, rfl, ⟨rfl, rfl, rfl, rfl, rfl, rfl, rfl⟩, rfl⟩
  obtain ⟨s, hrun, hcount, hmeets⟩ := hfull.refusals n
  have hmeets' : Transition.Meets (step wireFormat) (Limited 1) (start 1 {})
      (filled ++ refusals n) := by
    refine Transition.Meets.append (by decide) fun s₂ hrun₂ => ?_
    obtain rfl : s₁ = s₂ := Option.some.inj (hfilled.symm.trans hrun₂)
    exact hmeets
  have hrun' : (start 1 {}).run wireFormat (filled ++ refusals n) = some s := by
    unfold run at hfilled hrun ⊢
    rw [Transition.run_append, hfilled]
    exact hrun
  have hnumber := (gated_run (by decide) (gated_start 1 1 {}) hmeets' hrun').2
  have hstart : (start 1 {}).overloadRejectCount = 0 := rfl
  exact ⟨_, s, hmeets', hrun', by omega, by omega⟩

/-- When every value of the counter has been seen, it starts again. -/
theorem overloadRejects_wrap : ∃ steps s,
    Transition.Meets (step wireFormat) (Limited 1) (start 1 {}) steps ∧
      (start 1 {}).run wireFormat steps = some s ∧
      Transition.count (step wireFormat) (overloads wireFormat 1) (start 1 {}) steps = 2 ^ 64 ∧
      s.overloadRejects = 0 := by
  obtain ⟨steps, s, hmeets, hrun, hnumber, hcount⟩ := exists_rejects (2 ^ 64)
  refine ⟨steps, s, hmeets, hrun, hnumber, ?_⟩
  rw [overloadRejects, hcount]
  decide

end RpcChannel

end NebulaRpc.Rpc
