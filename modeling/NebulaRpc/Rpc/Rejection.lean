import NebulaRpc.Rpc.Forms
import NebulaRpc.Rpc.Outcome
import NebulaRpc.Rpc.Unsent

/-!
# Calls that are rejected

`RegisterAndSend` rejects a call at its head, behind the degrade handler, or at its end, when the
connection takes no writes and the call is already registered. Whichever it is, the frame of the call
is never written, and the pending calls, the timers and the cancel closures are left as they were.
-/

namespace NebulaRpc.Rpc

/-- Another thread takes or drops the closures of this controller. -/
def ChannelStep.touches (c : Nat) : ChannelStep → Prop
  | .remoteStartCancel c' | .resetController c' => c' = c
  | _ => False

namespace RpcChannel

open Relation (ReflTransGen)

variable {F : MetaFormat} {a : ChannelStep} {s s₀ s₁ s₂ s' : RpcChannel} {id : UInt64}

/-- The pending calls, the timers and the cancel closures are the same. -/
structure Spares (s s' : RpcChannel) : Prop where
  pending : s'.pendingCalls = s.pendingCalls
  timers : s'.env.timers = s.env.timers
  closures : ∀ c, (s'.env.controllers c).cancelCallbacks = (s.env.controllers c).cancelCallbacks

/-- The pending calls, the timers and the cancel closures are the same, but for the closures that
other threads have taken or dropped in these steps. -/
structure Restores (others : List ChannelStep) (s s' : RpcChannel) : Prop where
  pending : s'.pendingCalls = s.pendingCalls
  timers : s'.env.timers = s.env.timers
  closures : ∀ c, (s'.env.controllers c).cancelCallbacks ⊆ (s.env.controllers c).cancelCallbacks
  kept : ∀ c, (∀ l ∈ others, ¬l.touches c) →
    (s'.env.controllers c).cancelCallbacks = (s.env.controllers c).cancelCallbacks

/-- The step notifies the call, and its controller says that it has failed for one of the reasons for
which it has not been sent. -/
def FailsUnsent (s s' : RpcChannel) (call : PendingCall) : Prop :=
  call.number ∉ s.notified ∧ call.number ∈ s'.notified ∧ ∃ c, call.controller = some c ∧
    (s'.env.controllers c).callState = .failed ∧
    ((s'.env.controllers c).errorText = octets "RPC connection is not available" ∨
      (s'.env.controllers c).errorText = octets "too many pending rpcs")

/-- `RegisterAndSend` is called for the call in the step, and `RejectIfExpired` rejects it. -/
def RejectsExpired (F : MetaFormat) (s : RpcChannel) (a : ChannelStep) (id : UInt64)
    (bytes : List UInt8) (call : PendingCall) : Prop :=
  ∃ t, Performs F s a t (.registerAndSend id bytes call) ∧ t.connectionState = .connected ∧
    t.room ∧ call.deadline.any (· ≤ t.env.clock) = true

/-! ## The forms of a step -/

theorem functors_notifyCompletion {t : RpcChannel} (h : t.functors = s.functors) (number : Nat)
    (coroutine : Bool) : s.functors <+: (t.notifyCompletion number coroutine).functors := by
  rw [← h]
  unfold notifyCompletion
  dsimp only
  split
  · exact List.prefix_append _ _
  · exact List.prefix_rfl

/-- The forms that a step can have: it notifies nobody, or a pending call ends, or the degrade handler
has returned, or a functor runs. -/
inductive Shape (F : MetaFormat) (a : ChannelStep) (s : RpcChannel) : RpcChannel → Prop
  | quiet {s' : RpcChannel} (hnotified : s'.notified = s.notified)
      (hfunctors : s.functors <+: s'.functors) : Shape F a s s'
  | finish {s₁ : RpcChannel} {id : UInt64} {call : PendingCall} {ending : Ending}
      (hcause : Cause a s s s₁ id ending)
      (hfind : s₁.findPending id = some call) (hnotified : s₁.notified = s.notified)
      (hfunctors : s₁.functors = s.functors) : Shape F a s (s₁.finish id call ending)
  | degraded {id : UInt64} {call : PendingCall} {reason : List UInt8} {stack : List ChannelFrame}
      (hstack : s.stack = .degrade id call reason :: stack)
      (accepted : Bool) : Shape F a s ({ s with stack := stack }.degraded call reason accepted)
  | perform {t : RpcChannel} {functor : ChannelFunctor} (hperforms : Performs F s a t functor) :
      Shape F a s (t.perform functor)

theorem step_shape (hstep : s.step F a = some s') : Shape F a s s' := by
  cases step_form hstep with
  | quiet hquiet => exact .quiet hquiet.notified hquiet.posts.isPrefix
  | @prepare x ha =>
    obtain ⟨n, completions, -, hstate⟩ := prepareCall_state F s x
    rw [hstate]
    exact .quiet rfl (List.prefix_append _ _)
  | finish hcause hfind hquiet hfunctors => exact .finish hcause hfind hquiet.notified hfunctors
  | @degraded _ _ _ _ accepted _ _ _ hstack => exact .degraded hstack accepted
  | perform hperforms => exact .perform hperforms

/-! ## Queued calls stay queued until they are registered -/

theorem functors_finish (s : RpcChannel) (id : UInt64) (call : PendingCall) (ending : Ending) :
    s.functors <+: (s.finish id call ending).functors := by
  apply functors_notifyCompletion
  rfl

theorem functors_registerAndSend (s : RpcChannel) (id : UInt64) (bytes : List UInt8)
    (call : PendingCall) : s.functors <+: (s.registerAndSend id bytes call).functors := by
  have hreject : ∀ reason state, s.functors <+: (s.reject call reason state).functors := by
    intro reason state
    apply functors_notifyCompletion
    rfl
  have hhook : ((s.emplace id call).hook id bytes).functors = s.functors := by
    have hemplace : (s.emplace id call).functors = s.functors := by
      unfold emplace
      split <;> rfl
    unfold hook
    split
    · exact hemplace
    · split <;> exact hemplace
  unfold registerAndSend
  split
  · exact hreject _ _
  split
  · unfold rejectOverloaded
    dsimp only
    split
    · exact List.prefix_rfl
    · apply functors_notifyCompletion
      rfl
  split
  · exact hreject _ _
  obtain heq | ⟨heq, -⟩ := registerCancelCallback_cases (s.emplace id call) id bytes
  · rw [heq, hhook]
  · rw [heq, ← hhook]
    obtain heq | ⟨call', -, heq⟩ := completeCallWithCancel_cases ((s.emplace id call).hook id bytes) id
    · rw [heq]
    · rw [heq]
      exact functors_finish _ _ _ _

theorem functors_perform (s : RpcChannel) (functor : ChannelFunctor) :
    s.functors <+: (s.perform functor).functors := by
  cases functor with
  | registerAndSend id bytes call => exact functors_registerAndSend s id bytes call
  | completeInvalid =>
    apply functors_notifyCompletion
    rfl
  | cancel id =>
    simp only [perform]
    split
    · obtain heq | ⟨call, -, heq⟩ := completeCallWithCancel_cases s id
      · rw [heq]
      · rw [heq]
        exact functors_finish _ _ _ _
    · exact List.prefix_rfl
  | resume | flush => exact List.prefix_rfl

theorem functors_step (hstep : s.step F a = some s') {f : ChannelFunctor} (hf : f ∈ s.functors) :
    f ∈ s'.functors ∨ ∃ t, Performs F s a t f := by
  cases step_shape hstep with
  | quiet hnotified hfunctors => exact .inl (hfunctors.subset hf)
  | finish hcause hfind hnotified hfunctors =>
    exact .inl ((functors_finish _ _ _ _).subset (hfunctors ▸ hf))
  | @degraded id call reason stack hstack accepted =>
    have hqueued : s.functors <+:
        (({ s with stack := stack } : RpcChannel).degraded call reason accepted).functors := by
      apply functors_notifyCompletion
      rfl
    exact .inl (hqueued.subset hf)
  | @perform t functor hperforms =>
    have hrest : f ∈ t.functors → f ∈ (t.perform functor).functors :=
      fun h => (functors_perform t functor).subset h
    cases hperforms with
    | beginCall x later =>
      apply Or.inl
      apply hrest
      exact (functors_prepareCall F s x).symm ▸ hf
    | @runFunctor index functor hget =>
      obtain ⟨hlt, heq⟩ := List.getElem?_eq_some_iff.mp hget
      have hperm := List.getElem_cons_eraseIdx_perm hlt
      rw [heq] at hperm
      obtain rfl | hmem := List.mem_cons.mp (hperm.symm.subset hf)
      · exact .inr ⟨_, .runFunctor hget⟩
      · exact .inl (hrest hmem)

/-! ## Registration -/

/-- What becomes of a call for which `RegisterAndSend` is called in this state. -/
inductive Registration (t : RpcChannel) (id : UInt64) (bytes : List UInt8) (call : PendingCall) :
    RpcChannel → Prop
  | rejected (count : Nat) {e : ChannelEnv} (henv : t.env.Alike e)
      (hwritten : e.written = t.env.written) :
      Registration t id bytes call ({ t with
        env := e, overloadRejectCount := count }.notifyCompletion call.number call.coroutine)
  | degrade {e : ChannelEnv} {count : Nat} {reason : List UInt8} (henv : t.env.Alike e)
      (hwritten : e.written = t.env.written) :
      Registration t id bytes call ({ t with
        env := e, overloadRejectCount := count }.push (.degrade id call reason))
  | inserted : Registration t id bytes call { t with
      pendingCalls := t.pendingCalls ++ [(id, call)]
      stack := .registered id (-1) bytes :: t.stack }
  | hooked {c : Nat} (hcontroller : call.controller = some c) : Registration t id bytes call { t with
      pendingCalls := t.pendingCalls ++ [(id, call)]
      env := t.env.updateController (fun x => (x.registerOnCancel id).2) (some c)
      stack := .registered id (wrap32 (t.env.controllers c).nextCancelToken) bytes :: t.stack }
  | cancelled {call' : PendingCall}
      (hfind : ({ t with pendingCalls := t.pendingCalls ++ [(id, call)] } : RpcChannel).findPending id =
        some call') : Registration t id bytes call ({ t with
          pendingCalls := t.pendingCalls ++ [(id, call)]
          stack := .registered id (-1) bytes :: t.stack }.finish id call' .cancel)

theorem reject_spec (t : RpcChannel) (id : UInt64) (bytes : List UInt8) (call : PendingCall)
    (reason : List UInt8) (state : RpcCallState) :
    Registration t id bytes call (t.reject call reason state) :=
  .rejected t.overloadRejectCount
    ((ChannelEnv.Alike.record _ call state).trans (.applyFailure _ _ _ _))
    ((written_applyFailure _ _ _ _).trans (written_record _ _ _))

theorem registerAndSend_spec {t : RpcChannel} (hnew : id ∉ t.keys) (hfresh : t.env.Fresh)
    (bytes : List UInt8) (call : PendingCall)
    (htokens : ∀ c, (t.registerAndSend id bytes call).env.tokens c ≤ 2 ^ 31) :
    Registration t id bytes call (t.registerAndSend id bytes call) := by
  unfold registerAndSend
  split
  · exact reject_spec t id bytes call _ _
  split
  · unfold rejectOverloaded
    dsimp only
    split
    · exact .degrade (.record _ _ _) rfl
    · exact .rejected _ ((ChannelEnv.Alike.record _ call _).trans (.applyFailure _ _ _ _))
        ((written_applyFailure _ _ _ _).trans (written_record _ _ _))
  split
  · exact reject_spec t id bytes call _ _
  rename_i hstate hroom hdeadline
  rw [registerAndSend, if_neg hstate, if_neg hroom, if_neg hdeadline] at htokens
  have hnone := findPending_eq_none hnew
  have hemplace : t.emplace id call = { t with pendingCalls := t.pendingCalls ++ [(id, call)] } := by
    simp [emplace, hnone]
  have hhook := hook_emplace hnew call bytes
  obtain heq | ⟨heq, hstack⟩ := registerCancelCallback_cases (t.emplace id call) id bytes
  · rw [heq]
    obtain heq | ⟨c, -, hcontroller, heq⟩ := hhook
    · rw [heq]
      exact .inserted
    · rw [heq]
      exact .hooked hcontroller
  · -- A closure that runs at once has not been stored.
    rw [heq] at htokens ⊢
    obtain hhook | ⟨c, -, -, hhook⟩ := hhook
    · rw [hhook]
      obtain heq | ⟨call', hfind, heq⟩ := completeCallWithCancel_cases { t with
          pendingCalls := t.pendingCalls ++ [(id, call)]
          stack := .registered id (-1) bytes :: t.stack } id
      · rw [heq]
        exact .inserted
      · rw [heq]
        exact .cancelled hfind
    · rw [hhook] at hstack htokens
      have hnonneg := (hfresh.controllers c).nonneg
      obtain ⟨htoken, -⟩ : wrap32 (t.env.controllers c).nextCancelToken = -1 ∧ _ := by
        simpa using hstack
      have hle := htokens c
      obtain heq | ⟨call', -, heq⟩ := completeCallWithCancel_cases { t with
          pendingCalls := t.pendingCalls ++ [(id, call)]
          env := t.env.updateController (fun x => (x.registerOnCancel id).2) (some c)
          stack := .registered id (wrap32 (t.env.controllers c).nextCancelToken) bytes :: t.stack } id
      · rw [heq] at hle
        have hwrap := ChannelEnv.wrap32_nextCancelToken hnonneg hle
        omega
      · rw [heq, tokens_finish] at hle
        have hwrap := ChannelEnv.wrap32_nextCancelToken hnonneg hle
        omega

/-! ## Invariants of unsent calls along runs -/

/-- What every passage keeps, as long as the request ids do not wrap. -/
theorem invariant_passage {I : RpcChannel → Prop} (hnested : Nested s) (h : I s)
    (hpassage : ∀ {s₁ s₂ : RpcChannel}, I s₁ → s₂.nextRequestId ≤ 2 ^ 64 → Passage F s₁ s₂ → I s₂)
    (heffects : ReflTransGen (Effect F a s₀) s s') (hwrap : s'.nextRequestId ≤ 2 ^ 64) :
    Nested s' ∧ I s' := by
  refine invariant_effects (I := fun s => s.nextRequestId ≤ 2 ^ 64 → Nested s ∧ I s)
    (fun {s₁ s₂} h heffect hwrap => ?_) (fun _ => ⟨hnested, h⟩) heffects hwrap
  obtain ⟨hnested₁, h₁⟩ := h ((nextRequestId_le_effect heffect).trans hwrap)
  exact ⟨hnested₁.effect hwrap heffect, hpassage h₁ hwrap (effect_passage hnested₁ heffect)⟩

/-- The call with this id is not queued any more. -/
structure Dequeued (id : UInt64) (s : RpcChannel) : Prop where
  notMem : id ∉ s.queuedKeys
  lt : id.toNat < s.nextRequestId

/-- A call that is not queued comes to no other place than those in which it is. -/
theorem Dequeued.passage (h : Dequeued id s) (hwrap : s'.nextRequestId ≤ 2 ^ 64)
    (hpassage : Passage F s s') : Dequeued id s' ∧
      (∀ f ∈ s'.stack, f.unsentKey = some id → f ∈ s.stack) ∧ (id ∈ s'.keys → id ∈ s.keys) := by
  have hne : ∀ {index : Nat} {id' : UInt64} {bytes : List UInt8} {call : PendingCall},
      s.functors[index]? = some (.registerAndSend id' bytes call) → id' ≠ id := by
    rintro index id' bytes call hfunctor rfl
    exact h.notMem ((filterMap_eraseIdx_perm ChannelFunctor.key hfunctor).subset List.mem_cons_self)
  have herase : ∀ index, id ∉ (s.functors.eraseIdx index).filterMap ChannelFunctor.key :=
    fun index hmem => h.notMem (((List.eraseIdx_sublist _ _).filterMap _).subset hmem)
  cases hpassage with
  | flow hflow =>
    refine ⟨⟨fun hmem => ?_, h.lt.trans_le hflow.next⟩, fun f hf hkey => ?_, fun hmem => ?_⟩
    · obtain ⟨f, hf, hkey⟩ := List.mem_filterMap.mp hmem
      obtain hold | hnone := hflow.functors f hf
      · exact h.notMem (List.mem_filterMap.mpr ⟨f, hold, hkey⟩)
      · cases f with
        | registerAndSend => cases hnone
        | _ => cases hkey
    · obtain hold | hnone := hflow.stack f hf
      · exact hold
      · rw [hnone] at hkey
        cases hkey
    · obtain ⟨p, hp, rfl⟩ := List.mem_map.mp hmem
      obtain ⟨q, hq, hid, -⟩ := hflow.pending p hp
      exact hid ▸ List.mem_map_of_mem hq
  | prepare x =>
    obtain ⟨n, completions, -, hstate⟩ := prepareCall_state F s x
    refine ⟨⟨fun hmem => ?_, h.lt.trans_le (nextRequestId_le_prepareCall F s x)⟩,
      fun f hf _ => ?_, fun hmem => ?_⟩
    · simp only [queuedKeys, List.filterMap_append, List.mem_append] at hmem
      obtain hold | hnew := hmem
      · exact h.notMem hold
      · obtain ⟨reason, heq⟩ | ⟨bytes, call, heq, hnext, -⟩ := prepareCall_functor F s x
        · rw [heq] at hnew
          simp [ChannelFunctor.key] at hnew
        · rw [heq] at hnew
          obtain rfl : id = UInt64.ofNat s.nextRequestId := by simpa [ChannelFunctor.key] using hnew
          have hlt := h.lt
          have hmod : (UInt64.ofNat s.nextRequestId).toNat = s.nextRequestId := by
            dsimp only at hwrap
            rw [hnext] at hwrap
            exact Nat.mod_eq_of_lt hwrap
          omega
    · rw [hstate] at hf
      exact hf
    · rw [hstate] at hmem
      exact hmem
  | @register index id' bytes call token e hfunctor =>
    refine ⟨⟨herase index, h.lt⟩, fun f hf hkey => ?_, fun hmem => ?_⟩
    · obtain rfl | hf := List.mem_cons.mp hf
      · exact absurd (Option.some.inj hkey) (hne hfunctor)
      · exact hf
    · obtain hold | hnew : id ∈ s.keys ∨ id = id' := by simpa [keys] using hmem
      · exact hold
      · exact absurd hnew.symm (hne hfunctor)
  | @degrade index id' bytes call reason e count hfunctor =>
    refine ⟨⟨herase index, h.lt⟩, fun f hf hkey => ?_, fun hmem => hmem⟩
    obtain rfl | hf := List.mem_cons.mp hf
    · exact absurd (Option.some.inj hkey) (hne hfunctor)
    · exact hf
  | write hstack =>
    refine ⟨⟨h.notMem, h.lt⟩, fun f hf _ => ?_, fun hmem => ?_⟩
    · rw [hstack]
      exact List.mem_cons_of_mem _ hf
    · obtain ⟨p, hp, rfl⟩ := List.mem_map.mp hmem
      obtain ⟨q, hq, rfl⟩ := List.mem_map.mp hp
      rw [fst_stored]
      exact List.mem_map_of_mem hq
  | heartbeat => exact ⟨⟨h.notMem, Nat.lt_succ_of_lt h.lt⟩, fun f hf _ => hf, fun hmem => hmem⟩

/-- What the run keeps besides the places of one call. -/
structure Steady (F : MetaFormat) (s : RpcChannel) : Prop where
  nested : Nested s
  unsent : Unsent F [] s
  known : Known (fun _ => True) s

variable {wire : RpcMeta → List UInt8} {bytes : List UInt8} {call : PendingCall}

theorem Steady.effects (hF : F.Lawful wire) (h : Steady F s)
    (heffects : ReflTransGen (Effect F a s₀) s s') (hwrap : s'.nextRequestId ≤ 2 ^ 64) :
    Steady F s' := by
  obtain ⟨hnested, hunsent⟩ := invariant_passage h.nested h.unsent
    (fun h hwrap hpassage => h.passage hF hwrap hpassage) heffects hwrap
  exact ⟨hnested, hunsent,
    invariant_effects (fun h heffect => h.effect (fun _ _ _ _ _ _ => trivial) heffect) h.known heffects⟩

theorem Steady.linked (h : Steady F s) (hlinked : Linked id bytes call s)
    (heffects : ReflTransGen (Effect F a s₀) s s') (hwrap : s'.nextRequestId ≤ 2 ^ 64) :
    Linked id bytes call s' :=
  (invariant_passage h.nested hlinked (fun h _ hpassage => h.passage hpassage) heffects hwrap).2

theorem nextRequestId_le_effects (heffects : ReflTransGen (Effect F a s₀) s s') :
    s.nextRequestId ≤ s'.nextRequestId :=
  invariant_effects (I := fun s₁ => s.nextRequestId ≤ s₁.nextRequestId)
    (fun h heffect => h.trans (nextRequestId_le_effect heffect)) (Nat.le_refl _) heffects

/-- A functor that runs was queued, if only for the moment. -/
theorem Performs.queue {t : RpcChannel} {functor : ChannelFunctor} (h : Performs F s a t functor)
    (hstep : s.step F a = some s') : ∃ (u : RpcChannel) (index : Nat),
      ReflTransGen (Effect F a s) s u ∧ u.nextRequestId ≤ s'.nextRequestId ∧
      u.functors[index]? = some functor ∧ t = { u with functors := u.functors.eraseIdx index } ∧
      u.stack = s.stack ∧ u.pendingCalls = s.pendingCalls ∧ s.env.Alike u.env ∧
      u.notified = s.notified ∧ s.begun ≤ u.begun := by
  cases h with
  | beginCall x later =>
    obtain ⟨n, completions, -, hstate⟩ := prepareCall_state F s x
    have hprepare : ReflTransGen (Effect F (.beginCall x later) s) s
        { (s.prepareCall F x).2 with functors := s.functors ++ [(s.prepareCall F x).1] } :=
      .single (.prepare rfl)
    have helapse : ReflTransGen (Effect F (.beginCall x later) s) s
        { (s.prepareCall F x).2 with
          functors := s.functors ++ [(s.prepareCall F x).1]
          env := { (s.prepareCall F x).2.env with clock := later } } := hprepare.tail .elapse
    have hrest : ReflTransGen (Effect F (.beginCall x later) s) _ s' := effects_beginCall hstep
    have hnext := nextRequestId_le_effects hrest
    refine ⟨_, s.functors.length, helapse, hnext, by simp, ?_, ?_, ?_, ?_, ?_, ?_⟩
    · simp [List.eraseIdx_append_of_length_le, functors_prepareCall]
    all_goals rw [hstate]
    · exact ⟨rfl, rfl, fun _ => rfl⟩
    · exact Nat.le_succ _
  | @runFunctor index functor hget =>
    exact ⟨s, index, .refl, nextRequestId_le_step hstep, hget, rfl, rfl, rfl, .refl _, rfl,
      Nat.le_refl _⟩

/-- The state in which `RegisterAndSend` is called for a call: the call is nowhere. -/
structure Aside (F : MetaFormat) (s t : RpcChannel) (id : UInt64) : Prop where
  stack : t.stack = s.stack
  pending : t.pendingCalls = s.pendingCalls
  env : s.env.Alike t.env
  notified : t.notified = s.notified
  notMem : id ∉ t.keys
  dequeued : Dequeued id t
  frames : ∀ f ∈ t.stack, f.unsentKey ≠ some id
  unsent : Unsent F [id] t

theorem Performs.aside (hF : F.Lawful wire) {t : RpcChannel} (hsteady : Steady F s)
    (h : Performs F s a t (.registerAndSend id bytes call)) (hstep : s.step F a = some s')
    (hwrap : s'.nextRequestId ≤ 2 ^ 64) : Aside F s t id := by
  obtain ⟨u, index, heffects, hnext, hget, rfl, hstack, hpending, henv, hnotified, -⟩ :=
    h.queue hstep
  have hsteady' := hsteady.effects hF heffects (hnext.trans hwrap)
  obtain ⟨hmem, hkeys, herase⟩ := hsteady'.nested.queued_notMem hget
  have hperm := Unsent.keys_register hget
  have hnodup := hperm.nodup_iff.mpr hsteady'.unsent.nodup
  refine ⟨hstack, hpending, henv, hnotified, hkeys, ⟨herase, ?_⟩, fun f hf hkey => ?_, ?_⟩
  · exact hsteady'.nested.lt id (List.mem_append_right _ hmem)
  · apply (List.nodup_cons.mp hnodup).1
    exact List.mem_append_right _ (List.mem_filterMap.mpr ⟨f, hf, hkey⟩)
  · exact hsteady'.unsent.flow (.dequeue u index) hperm.subperm

theorem Spares.trans (h : Spares s s₁) (h' : Spares s₁ s₂) : Spares s s₂ :=
  ⟨h'.pending.trans h.pending, h'.timers.trans h.timers,
    fun c => (h'.closures c).trans (h.closures c)⟩

theorem Spares.of_alike (hpending : s'.pendingCalls = s.pendingCalls) (henv : s.env.Alike s'.env) :
    Spares s s' :=
  ⟨hpending, henv.timers, fun c => (Hooked.hooks_eq (henv.hooks c)).1⟩

theorem Aside.spares {t : RpcChannel} (h : Aside F s t id) : Spares s t := .of_alike h.pending h.env

theorem Spares.notify (s : RpcChannel) (number : Nat) (coroutine : Bool) :
    Spares s (s.notifyCompletion number coroutine) := by
  unfold notifyCompletion
  dsimp only
  split <;> exact ⟨rfl, rfl, fun _ => rfl⟩

/-! ## Between the map and the wire -/

/-- The call has been put into the map in the state `s₀`, and `RegisterAndSend` has still to store its
token and its timer. Since then the given steps have been taken. -/
structure Registering (others : List ChannelStep) (s₀ s : RpcChannel) (id : UInt64) (token : Int)
    (call : PendingCall) : Prop where
  notMem : id ∉ s₀.keys
  pending : s.pendingCalls = s₀.pendingCalls ++ [(id, call)]
  timers : s.env.timers = s₀.env.timers
  closures : ∀ c,
    (s.env.controllers c).cancelCallbacks = (s₀.env.controllers c).cancelCallbacks ++
        (if 0 ≤ token ∧ call.controller = some c then [(token, id)] else []) ∨
      (s.env.controllers c).cancelCallbacks = [] ∧ ∃ l ∈ others, l.touches c
  tokens : 0 ≤ token → ∀ c, call.controller = some c →
    ∀ x ∈ (s₀.env.controllers c).cancelCallbacks, x.1 ≠ token

/-- While the handler is on top only other threads take steps. -/
theorem Registering.step {others : List ChannelStep} {token : Int} {stack : List ChannelFrame}
    (h : Registering others s₀ s id token call) (hstack : s.stack = .registered id token bytes :: stack)
    (hstep : s.step F a = some s') :
    Registering (others ++ [a]) s₀ s' id token call ∧ s'.stack = s.stack ∨
      ∃ accepted index order, a = .resume accepted index order := by
  have huser : s.userCode = false := by simp [RpcChannel.userCode, hstack, ChannelFrame.userCode]
  have hnetwork : s.network = false := by simp [RpcChannel.network, hstack, ChannelFrame.network]
  have hempty : s.stack.isEmpty = false := by simp [hstack]
  have hsame : s'.pendingCalls = s.pendingCalls → s'.env.timers = s.env.timers →
      (∀ c, (s'.env.controllers c).cancelCallbacks = (s.env.controllers c).cancelCallbacks ∨
        (s'.env.controllers c).cancelCallbacks = [] ∧ a.touches c) →
      Registering (others ++ [a]) s₀ s' id token call := by
    intro hpending htimers hclosures
    refine ⟨h.notMem, hpending.trans h.pending, htimers.trans h.timers, fun c => ?_, h.tokens⟩
    obtain heq | ⟨hnil, htouches⟩ := hclosures c
    · rw [heq]
      obtain heq | ⟨hnil, l, hl, htouches⟩ := h.closures c
      · exact .inl heq
      · exact .inr ⟨hnil, l, List.mem_append_left _ hl, htouches⟩
    · exact .inr ⟨hnil, a, by simp, htouches⟩
  have hcontroller : ∀ (c : Nat) (f : RpcController → RpcController),
      (∀ x, (f x).cancelCallbacks = x.cancelCallbacks ∨ (f x).cancelCallbacks = [] ∧ a.touches c) →
      ∀ c', ((s.updateController f c).env.controllers c').cancelCallbacks =
          (s.env.controllers c').cancelCallbacks ∨
        ((s.updateController f c).env.controllers c').cancelCallbacks = [] ∧ a.touches c' := by
    intro c f hf c'
    rw [updateController, ChannelEnv.controllers_updateController]
    split
    · next heq => exact Option.some.inj heq ▸ hf _
    · exact .inl rfl
  cases a with
  | resume accepted index order => exact .inr ⟨accepted, index, order, rfl⟩
  | setTimeout c timeout =>
    obtain rfl : _ = s' := Option.some.inj hstep
    exact .inl ⟨hsame rfl rfl (hcontroller c (·.setTimeout timeout) fun _ => .inl rfl), rfl⟩
  | setDeadline c deadline =>
    obtain rfl : _ = s' := Option.some.inj hstep
    exact .inl ⟨hsame rfl rfl (hcontroller c (·.setDeadline deadline) fun _ => .inl rfl), rfl⟩
  | resetController c =>
    obtain rfl : _ = s' := Option.some.inj hstep
    exact .inl ⟨hsame rfl rfl (hcontroller c (·.reset) fun _ => .inr ⟨rfl, rfl⟩), rfl⟩
  | remoteStartCancel c =>
    obtain rfl : _ = s' := Option.some.inj hstep
    refine .inl ⟨hsame rfl rfl (hcontroller c (·.startCancel.2) fun x => ?_), rfl⟩
    unfold RpcController.startCancel
    split
    · exact .inl rfl
    · exact .inr ⟨rfl, rfl⟩
  | drawRequestId =>
    obtain rfl : _ = s' := Option.some.inj hstep
    exact .inl ⟨hsame rfl rfl fun _ => .inl rfl, rfl⟩
  | elapse now =>
    simp only [RpcChannel.step, Option.ite_none_right_eq_some, Option.some.injEq] at hstep
    obtain ⟨-, rfl⟩ := hstep
    exact .inl ⟨hsame rfl rfl fun _ => .inl rfl, rfl⟩
  | remoteBeginCall x =>
    simp only [RpcChannel.step, Option.ite_none_right_eq_some, Option.some.injEq] at hstep
    obtain ⟨-, rfl⟩ := hstep
    obtain ⟨n, completions, -, hstate⟩ := prepareCall_state F s x
    refine .inl ⟨hsame ?_ ?_ fun c => .inl ?_, ?_⟩ <;> rw [hstate]
  | remoteCancelCoroutineCall requestId =>
    simp only [RpcChannel.step, Option.ite_none_right_eq_some, Option.some.injEq] at hstep
    obtain ⟨-, rfl⟩ := hstep
    refine .inl ⟨hsame ?_ ?_ fun c => .inl ?_, ?_⟩ <;> split <;> rfl
  | remoteClosure index =>
    simp only [RpcChannel.step, Option.map_eq_some_iff] at hstep
    obtain ⟨id, -, rfl⟩ := hstep
    exact .inl ⟨hsame rfl rfl fun _ => .inl rfl, rfl⟩
  | setFailed reason => simp [RpcChannel.step, hstack] at hstep
  | _ => simp [RpcChannel.step, huser, hnetwork, hempty] at hstep

theorem Registering.find {others : List ChannelStep} {token : Int} {call' : PendingCall}
    (h : Registering others s₀ s id token call) (hfind : s.findPending id = some call') :
    call' = call := by
  have hmem := find_eq_some hfind
  rw [h.pending, List.mem_append, List.mem_singleton] at hmem
  obtain hmem | heq := hmem
  · exact absurd (List.mem_map_of_mem hmem) h.notMem
  · exact congrArg Prod.snd heq

/-- The token and the timer are stored with the entry of the call. -/
theorem Registering.store {others : List ChannelStep} {token : Int}
    (h : Registering others s₀ s id token call) (htimer : call.timeoutTimer = none)
    (stack : List ChannelFrame) (bytes : List UInt8) : ∃ e : ChannelEnv,
      ({ s with stack := stack } : RpcChannel).store id token bytes call = { s with
        pendingCalls := s₀.pendingCalls ++ [(id, { call with
          cancelToken := token
          timeoutTimer := if call.deadline.isSome then some s.env.nextTimer else none })]
        env := e
        stack := stack } ∧
      (∀ c, (e.controllers c).hooks = (s.env.controllers c).hooks) ∧
      e.timers = s₀.env.timers ++
        (if call.deadline.isSome then [(s.env.nextTimer, .timeout id)] else []) := by
  obtain ⟨e, hstore, hhooks, htimers⟩ := store_spec { s with stack := stack } id token bytes call
  refine ⟨e, hstore.trans ?_, hhooks, ?_⟩
  · have hsame : ∀ p ∈ s₀.pendingCalls,
        ({ s with stack := stack } : RpcChannel).stored id token call p = p := by
      intro p hp
      have hne : p.1 ≠ id := fun heq => h.notMem (heq ▸ List.mem_map_of_mem hp)
      simp [stored, hne]
    have hmap := List.map_congr_left hsame
    rw [List.map_id'] at hmap
    have hpending : s.pendingCalls.map (({ s with stack := stack } : RpcChannel).stored id token call) =
        s₀.pendingCalls ++
          [({ s with stack := stack } : RpcChannel).stored id token call (id, call)] := by
      refine (congrArg _ h.pending).trans ?_
      rw [List.map_append, hmap, List.map_singleton]
    rw [hpending]
    simp [stored, htimer]
  · rw [← h.timers]
    split at htimers
    · next hdeadline => rw [if_pos hdeadline, htimers.1]
    · next hdeadline => rw [if_neg hdeadline, htimers.1, List.append_nil]

/-- The connection takes no writes, and everything is taken back. -/
theorem Registering.restores {others : List ChannelStep} {token : Int} {stack : List ChannelFrame}
    {call₁ call₂ : PendingCall} (h : Registering others s₀ s id token call)
    (hfresh : s.env.Fresh) (htimer : call.timeoutTimer = none) (hfind : s.findPending id = some call₁)
    (hfind' : ({ s with stack := stack }.store id token bytes call₁).findPending id = some call₂)
    (ending : Ending) :
    Restores others s₀
      (({ s with stack := stack }.store id token bytes call₁).finish id call₂ ending) := by
  obtain rfl := h.find hfind
  obtain ⟨e, hstore, hhooks, htimers⟩ := h.store htimer stack bytes
  rw [hstore] at hfind' ⊢
  have hother : ∀ p ∈ s₀.pendingCalls, p.1 ≠ id := by
    rintro p hp rfl
    exact h.notMem (List.mem_map_of_mem hp)
  have hcall₂ : call₂ = { call₁ with
      cancelToken := token
      timeoutTimer := if call₁.deadline.isSome then some s.env.nextTimer else none } := by
    obtain hmem | heq := List.mem_append.mp (find_eq_some hfind')
    · exact absurd rfl (hother _ hmem)
    · exact congrArg Prod.snd (List.mem_singleton.mp heq)
  have htoken : call₂.cancelToken = token := by rw [hcall₂]
  have hcontroller : call₂.controller = call₁.controller := by rw [hcall₂]
  have hcallbacks : ∀ c, (e.controllers c).cancelCallbacks = (s.env.controllers c).cancelCallbacks :=
    fun c => (Hooked.hooks_eq (hhooks c)).1
  have halike := ChannelEnv.Alike.finish (e.release call₂) call₂ ending
  have hnotify : ∀ t : RpcChannel, Spares t (t.notifyCompletion call₂.number call₂.coroutine) :=
    fun t => .notify t _ _
  have hreleased : ∀ c, (((e.release call₂).finish call₂ ending).controllers c).cancelCallbacks =
      if 0 ≤ token ∧ call₁.controller = some c then
        (s.env.controllers c).cancelCallbacks.eraseP (·.1 = token)
      else (s.env.controllers c).cancelCallbacks := by
    intro c
    rw [(Hooked.hooks_eq (halike.hooks c)).1]
    have hhooks' := ChannelEnv.hooks_release e call₂ c
    rw [htoken, hcontroller] at hhooks'
    split at hhooks'
    · next hcond =>
      rw [(Hooked.hooks_eq hhooks').1, if_pos hcond]
      exact congrArg _ (hcallbacks c)
    · next hcond => rw [(Hooked.hooks_eq hhooks').1, if_neg hcond, hcallbacks c]
  have hclosures : ∀ c, (((e.release call₂).finish call₂ ending).controllers c).cancelCallbacks =
        (s₀.env.controllers c).cancelCallbacks ∨
      (((e.release call₂).finish call₂ ending).controllers c).cancelCallbacks = [] ∧
        ∃ l ∈ others, l.touches c := by
    intro c
    rw [hreleased c]
    obtain heq | ⟨hnil, htouched⟩ := h.closures c
    · apply Or.inl
      split
      · next hcond =>
        rw [heq, if_pos hcond, List.eraseP_append_right _ fun x hx => by
          simpa using h.tokens hcond.1 c hcond.2 x hx]
        simp
      · next hcond => rw [heq, if_neg hcond, List.append_nil]
    · refine .inr ⟨?_, htouched⟩
      rw [hnil]
      simp
  refine ⟨(hnotify _).pending.trans ?_, (hnotify _).timers.trans ?_, fun c => ?_, fun c hc => ?_⟩
  · show (s₀.pendingCalls ++ _).filter (fun p : UInt64 × PendingCall => p.1 ≠ id) = _
    rw [List.filter_append, List.filter_eq_self.mpr (by simpa using hother)]
    simp
  · have hnext : ∀ x ∈ s₀.env.timers, x.1 ≠ s.env.nextTimer :=
      fun x hx => Nat.ne_of_lt (hfresh.timers x (h.timers ▸ hx))
    rw [halike.timers, ChannelEnv.timers_release, hcall₂, htimers]
    cases hdeadline : call₁.deadline.isSome with
    | true =>
      rw [List.filter_append, List.filter_eq_self.mpr fun x hx => by simpa using (hnext x hx).symm]
      simp
    | false => simp
  · rw [finish, (hnotify _).closures c]
    obtain heq | ⟨hnil, -⟩ := hclosures c
    · exact heq ▸ List.Subset.refl _
    · simp [hnil]
  · rw [finish, (hnotify _).closures c]
    obtain heq | ⟨-, l, hl, htouches⟩ := hclosures c
    · exact heq
    · exact absurd htouches (hc l hl)

/-! ## From the registration on -/

theorem Performs.step_eq {t : RpcChannel} {functor : ChannelFunctor} (h : Performs F s a t functor)
    (hstep : s.step F a = some s') : s' = t.perform functor := by
  cases h with
  | beginCall x later =>
    simp only [step, Option.ite_none_right_eq_some, Option.some.injEq] at hstep
    exact hstep.2.symm
  | runFunctor hget =>
    simp only [step, hget, Option.ite_none_right_eq_some, Option.map_some, Option.some.injEq] at hstep
    exact hstep.2.symm

/-- What becomes of a call in the steps behind its registration: while the degrade handler has it,
nothing has been changed, and while `RegisterAndSend` has it, everything can be taken back. -/
structure Handled (others : List ChannelStep) (s₀ s₁ s : RpcChannel) (id : UInt64)
    (call : PendingCall) : Prop where
  dequeued : Dequeued id s
  degrade : ∀ call' reason, .degrade id call' reason ∈ s.stack → Spares s₀ s₁
  registered : ∀ token bytes, .registered id token bytes ∈ s.stack → id ∈ s.keys →
    Registering others s₀ s id token call

theorem Dequeued.of_eq (h : Dequeued id s) (hqueued : s'.queuedKeys = s.queuedKeys)
    (hnext : s'.nextRequestId = s.nextRequestId) : Dequeued id s' :=
  ⟨hqueued ▸ h.notMem, hnext ▸ h.lt⟩

theorem Dequeued.notify (h : Dequeued id s) (number : Nat) (coroutine : Bool) :
    Dequeued id (s.notifyCompletion number coroutine) := by
  unfold notifyCompletion
  dsimp only
  split
  · exact h.of_eq (by simp [queuedKeys, ChannelFunctor.key]) rfl
  · exact h.of_eq rfl rfl

theorem mem_of_notifyCompletion {f : ChannelFrame} {number : Nat} {coroutine : Bool}
    (hf : f ∈ (s.notifyCompletion number coroutine).stack) : f ∈ s.stack ∨ f = .done number := by
  unfold notifyCompletion at hf
  dsimp only at hf
  split at hf
  · exact .inl hf
  · exact (List.mem_cons.mp hf).symm

theorem Handled.begin (hF : F.Lawful wire) (hsteady : Steady F s₀) {t : RpcChannel}
    (hperforms : Performs F s₀ a t (.registerAndSend id bytes call)) (hstep : s₀.step F a = some s₁)
    (hbounded : Bounded s₁) : Handled [] s₀ s₁ s₁ id call := by
  have haside := hperforms.aside hF hsteady hstep hbounded.ids
  have hsend : t.registerAndSend id bytes call = s₁ := (hperforms.step_eq hstep).symm
  have hspec := registerAndSend_spec haside.notMem haside.unsent.fresh bytes call
    (hsend.symm ▸ hbounded.tokens)
  rw [hsend] at hspec
  have hframe : ∀ f ∈ t.stack, f.unsentKey ≠ some id := haside.frames
  have hnotMem : id ∉ s₀.keys := by
    rw [keys, ← haside.pending]
    exact haside.notMem
  have hsame : ∀ c, (t.env.controllers c).cancelCallbacks = (s₀.env.controllers c).cancelCallbacks :=
    haside.spares.closures
  cases hspec with
  | @rejected count e henv hwritten =>
    have hnone : ∀ f ∈ (({ t with env := e, overloadRejectCount := count } :
        RpcChannel).notifyCompletion call.number call.coroutine).stack, f.unsentKey ≠ some id := by
      intro f hf
      obtain hf | rfl := mem_of_notifyCompletion hf
      · exact hframe f hf
      · simp [ChannelFrame.unsentKey]
    have hdequeued : Dequeued id { t with env := e, overloadRejectCount := count } :=
      haside.dequeued.of_eq rfl rfl
    refine ⟨hdequeued.notify _ _, fun _ _ hf => ?_, fun _ _ hf => ?_⟩
    · exact absurd rfl (hnone _ hf)
    · exact absurd rfl (hnone _ hf)
  | degrade henv hwritten =>
    refine ⟨haside.dequeued.of_eq rfl rfl, fun _ _ _ => ?_, fun _ _ hf => ?_⟩
    · exact haside.spares.trans (.of_alike rfl henv)
    · obtain heq | hf := List.mem_cons.mp hf
      · cases heq
      · exact absurd rfl (hframe _ hf)
  | inserted =>
    refine ⟨haside.dequeued.of_eq rfl rfl, fun _ _ hf => ?_, fun _ _ hf _ => ?_⟩
    · obtain heq | hf := List.mem_cons.mp hf
      · cases heq
      · exact absurd rfl (hframe _ hf)
    · obtain heq | hf := List.mem_cons.mp hf
      · cases heq
        refine ⟨hnotMem, by rw [← haside.pending], haside.env.timers, fun c => ?_, by simp⟩
        exact .inl (by simpa using hsame c)
      · exact absurd rfl (hframe _ hf)
  | @hooked c hcontroller =>
    have hfresh := haside.unsent.fresh.controllers c
    have hle := hbounded.tokens c
    have hwrap := ChannelEnv.wrap32_nextCancelToken hfresh.nonneg hle
    rw [ChannelEnv.tokens, ChannelEnv.controllers_updateController, if_pos rfl] at hle
    refine ⟨haside.dequeued.of_eq rfl rfl, fun _ _ hf => ?_, fun _ _ hf _ => ?_⟩
    · obtain heq | hf := List.mem_cons.mp hf
      · cases heq
      · exact absurd rfl (hframe _ hf)
    · obtain heq | hf := List.mem_cons.mp hf
      · cases heq
        refine ⟨hnotMem, by rw [← haside.pending], ?_, fun c' => .inl ?_, fun _ c' hc' x hx => ?_⟩
        · exact (ChannelEnv.timers_updateController _ _ _).trans haside.env.timers
        · rw [ChannelEnv.controllers_updateController, ← hsame c']
          split
          · next heq =>
            obtain rfl := Option.some.inj heq
            rw [if_pos ⟨hwrap.symm ▸ hfresh.nonneg, hcontroller⟩]
            rfl
          · next hne =>
            rw [if_neg (fun hcond => hne (hcontroller.symm.trans hcond.2)), List.append_nil]
        · obtain rfl : c = c' := Option.some.inj (hcontroller.symm.trans hc')
          rw [hwrap]
          exact Int.ne_of_lt (hfresh.tokens (Int.le_of_lt hle) x (hsame c ▸ hx))
      · exact absurd rfl (hframe _ hf)
  | @cancelled call' hfind =>
    have hkeys : id ∉ ({ t with
        pendingCalls := t.pendingCalls ++ [(id, call)]
        stack := .registered id (-1) bytes :: t.stack }.finish id call' .cancel).keys := by
      rw [keys, finish, (Spares.notify _ _ _).pending]
      simp [erasePending]
    have hdequeued : Dequeued id { ({ t with
        pendingCalls := t.pendingCalls ++ [(id, call)]
        stack := .registered id (-1) bytes :: t.stack } : RpcChannel).erasePending id with
          env := (t.env.release call').finish call' .cancel } := haside.dequeued.of_eq rfl rfl
    refine ⟨hdequeued.notify _ _, fun _ _ hf => ?_, fun _ _ _ hmem => absurd hmem hkeys⟩
    obtain hf | heq := mem_of_notifyCompletion hf
    · obtain heq | hf := List.mem_cons.mp hf
      · cases heq
      · exact absurd rfl (hframe _ hf)
    · cases heq

theorem mem_stack_registered {f : ChannelFrame} {token : Int}
    (hf : f ∈ (s.registered id token bytes).stack) : f ∈ s.stack ∨ ∃ number, f = .done number := by
  unfold registered at hf
  split at hf
  · exact .inl hf
  · next call hfind =>
    have hassign : ∀ token, (s.assign id token call).stack = s.stack := by
      intro token
      unfold assign registerTimeoutTimer
      split <;> rfl
    change f ∈ ((s.assign id token call).writeRegisteredCall id bytes).stack at hf
    rw [← hassign token]
    generalize s.assign id token call = s₁ at hf ⊢
    unfold writeRegisteredCall at hf
    split at hf
    · exact .inl hf
    · obtain heq | ⟨call', -, heq⟩ := completeCallWithFailure_cases s₁ id
        (octets "RPC connection is not available") .failed
      · exact .inl (heq ▸ hf)
      · rw [heq] at hf
        obtain hf | rfl := mem_of_notifyCompletion hf
        · exact .inl hf
        · exact .inr ⟨_, rfl⟩

theorem Handled.step {others : List ChannelStep} (h : Handled others s₀ s₁ s id call)
    (hnested : Nested s) (hstep : s.step F a = some s') (hwrap : s'.nextRequestId ≤ 2 ^ 64) :
    Handled (others ++ [a]) s₀ s₁ s' id call := by
  -- The call comes to no other place.
  obtain ⟨-, hdequeued, hstack, hkeys⟩ := invariant_passage
    (I := fun s' => Dequeued id s' ∧ (∀ f ∈ s'.stack, f.unsentKey = some id → f ∈ s.stack) ∧
      (id ∈ s'.keys → id ∈ s.keys))
    hnested ⟨h.dequeued, fun f hf _ => hf, fun hmem => hmem⟩
    (fun {s₁ s₂} hs₁ hwrap hpassage => by
      obtain ⟨hdequeued, hstack, hkeys⟩ := hs₁
      obtain ⟨hdequeued', hstack', hkeys'⟩ := hdequeued.passage hwrap hpassage
      exact ⟨hdequeued', fun f hf hkey => hstack f (hstack' f hf hkey) hkey,
        fun hmem => hkeys (hkeys' hmem)⟩)
    (step_effects hstep) hwrap
  refine ⟨hdequeued, fun call' reason hf => h.degrade call' reason (hstack _ hf rfl),
    fun token bytes hf hmem => ?_⟩
  have hold := hstack _ hf rfl
  have hregistering := h.registered token bytes hold (hkeys hmem)
  obtain ⟨frame, stack, heq⟩ := List.exists_cons_of_ne_nil (List.ne_nil_of_mem hold)
  have htail : .registered id token bytes ∉ stack := fun hmem' =>
    hnested.tail _ (by rwa [heq]) (id, token) rfl (hkeys hmem)
  rw [heq] at hold
  obtain rfl : .registered id token bytes = frame := (List.mem_cons.mp hold).resolve_right htail
  obtain ⟨hregistering, -⟩ | ⟨accepted, index, order, rfl⟩ := hregistering.step heq hstep
  · exact hregistering
  · have hs' : s' = ({ s with stack := stack } : RpcChannel).registered id token bytes := by
      simp only [RpcChannel.step, resume, heq, Option.some.injEq] at hstep
      exact hstep.symm
    rw [hs'] at hf
    obtain hf | ⟨number, heq⟩ := mem_stack_registered hf
    · exact absurd hf htail
    · cases heq

/-- The way of a call after it has been begun. -/
inductive Stage (F : MetaFormat) (begun : RpcChannel) (steps : List ChannelStep) (s : RpcChannel)
    (id : UInt64) (bytes : List UInt8) (call : PendingCall) : Prop
  | queued (hmem : .registerAndSend id bytes call ∈ s.functors)
  | handled {before others : List ChannelStep} {a : ChannelStep} {s₀ s₁ t : RpcChannel}
      (hsteps : steps = before ++ a :: others) (hrun : begun.run F before = some s₀)
      (hperforms : Performs F s₀ a t (.registerAndSend id bytes call))
      (hstep : s₀.step F a = some s₁) (h : Handled others s₀ s₁ s id call)

theorem Stage.step (hF : F.Lawful wire) {begun : RpcChannel} {steps : List ChannelStep}
    (h : Stage F begun steps s id bytes call) (hsteady : Steady F s)
    (hrun : begun.run F steps = some s) (hstep : s.step F a = some s') (hbounded : Bounded s') :
    Stage F begun (steps ++ [a]) s' id bytes call := by
  cases h with
  | queued hmem =>
    obtain hmem | ⟨t, hperforms⟩ := functors_step hstep hmem
    · exact .queued hmem
    · exact .handled rfl hrun hperforms hstep (.begin hF hsteady hperforms hstep hbounded)
  | handled hsteps hrun hperforms hstep₀ h =>
    refine .handled ?_ hrun hperforms hstep₀ (h.step hsteady.nested hstep hbounded.ids)
    rw [hsteps, List.append_assoc, List.cons_append]

theorem Steady.step (hF : F.Lawful wire) (h : Steady F s) (hstep : s.step F a = some s')
    (hwrap : s'.nextRequestId ≤ 2 ^ 64) : Steady F s' :=
  h.effects hF (step_effects hstep) hwrap

theorem Stage.run (hF : F.Lawful wire) {begun : RpcChannel} {steps rest : List ChannelStep}
    (h : Stage F begun steps s id bytes call) (hsteady : Steady F s)
    (hlinked : Linked id bytes call s) (hrun : begun.run F steps = some s)
    (hrest : s.run F rest = some s') (hbounded : Bounded s') :
    Steady F s' ∧ Linked id bytes call s' ∧ Stage F begun (steps ++ rest) s' id bytes call := by
  induction rest generalizing s steps with
  | nil =>
    obtain rfl : s = s' := Option.some.inj hrest
    exact ⟨hsteady, hlinked, (List.append_nil steps).symm ▸ h⟩
  | cons a rest ih =>
    obtain ⟨s₁, hstep, hrest⟩ := Transition.run_cons_eq_some_iff.mp hrest
    have hbounded₁ := hbounded.of_run hrest
    have hrun₁ : begun.run F (steps ++ [a]) = some s₁ := by
      unfold run at hrun ⊢
      rw [Transition.run_append, hrun]
      exact Transition.run_cons_eq_some_iff.mpr ⟨s₁, hstep, rfl⟩
    have hresult := ih (h.step hF hsteady hrun hstep hbounded₁) (hsteady.step hF hstep hbounded₁.ids)
      (hsteady.linked hlinked (step_effects hstep) hbounded₁.ids) hrun₁ hrest
    rwa [List.append_assoc] at hresult

/-- The first step begins the call. -/
theorem Stage.begin (hF : F.Lawful wire) (hsteady : Steady F s) {x : CallArguments}
    (harguments : a.arguments = some x)
    (hcall : (s.prepareCall F x).1 = .registerAndSend id bytes call) (hstep : s.step F a = some s')
    (hbounded : Bounded s') :
    Linked id bytes call s' ∧ Stage F s [a] s' id bytes call := by
  have hlinked := Linked.begin hsteady.known hcall
  have hprepare : Effect F a s s
      { (s.prepareCall F x).2 with functors := s.functors ++ [(s.prepareCall F x).1] } :=
    .prepare harguments
  cases a with
  | beginCall x' later =>
    obtain rfl : x' = x := Option.some.inj harguments
    have hbehind : ReflTransGen (Effect F (.beginCall x' later) s) _ s' := effects_beginCall hstep
    have hnested := hsteady.nested.effect ((nextRequestId_le_effects hbehind).trans hbounded.ids) hprepare
    refine ⟨(invariant_passage hnested hlinked (fun h _ hpassage => h.passage hpassage) hbehind
      hbounded.ids).2, ?_⟩
    have hperforms : Performs F s (.beginCall x' later) _ (s.prepareCall F x').1 := .beginCall x' later
    rw [hcall] at hperforms
    have hnil : s.run F [] = some s := rfl
    exact .handled (List.nil_append _).symm hnil hperforms hstep
      (.begin hF hsteady hperforms hstep hbounded)
  | remoteBeginCall x' =>
    obtain rfl : x' = x := Option.some.inj harguments
    simp only [RpcChannel.step, Option.ite_none_right_eq_some, Option.some.injEq] at hstep
    obtain ⟨-, rfl⟩ := hstep
    rw [functors_prepareCall]
    exact ⟨hlinked, .queued (hcall ▸ List.mem_append_right _ List.mem_cons_self)⟩
  | _ => cases harguments

/-! ## The rejection of a call -/

/-- The call ends in the step, and its frame has not been written. -/
inductive Rejection (F : MetaFormat) (a : ChannelStep) (s : RpcChannel) (id : UInt64)
    (bytes : List UInt8) (call : PendingCall) : RpcChannel → Prop
  | rejected {t : RpcChannel} {e : ChannelEnv}
      (hperforms : Performs F s a t (.registerAndSend id bytes call)) (count : Nat)
      (henv : t.env.Alike e) (hwritten : e.written = t.env.written) :
      Rejection F a s id bytes call
        ({ t with env := e, overloadRejectCount := count }.notifyCompletion call.number call.coroutine)
  | degraded {call' : PendingCall} {reason : List UInt8} {stack : List ChannelFrame}
      (hstack : s.stack = .degrade id call' reason :: stack) (accepted : Bool) :
      Rejection F a s id bytes call ({ s with stack := stack }.degraded call' reason accepted)
  | unwritten {token : Int} {bytes' : List UInt8} {stack : List ChannelFrame}
      {call₁ call₂ : PendingCall} {ending : Ending}
      (hstack : s.stack = .registered id token bytes' :: stack) (hfind : s.findPending id = some call₁)
      (hconnection : s.connection = none ∨ s.connectionUp = false)
      (hfind' : ({ s with stack := stack }.store id token bytes' call₁).findPending id = some call₂) :
      Rejection F a s id bytes call
        (({ s with stack := stack }.store id token bytes' call₁).finish id call₂ ending)

theorem Unsent.spend (h : Unsent F [] s) {frame : ChannelFrame} {stack : List ChannelFrame}
    (hstack : s.stack = frame :: stack) (hkey : frame.unsentKey = some id)
    (hflow : Flow { s with stack := stack } s') : Unsent F [id] s' := by
  apply h.flow ((Flow.pop hstack).trans hflow)
  exact ((List.subperm_append_left [id]).mpr hflow.keys).trans (Unsent.keys_pop hstack hkey).subperm

theorem Rejection.unsent (hF : F.Lawful wire) (hsteady : Steady F s)
    (h : Rejection F a s id bytes call s') (hstep : s.step F a = some s')
    (hwrap : s'.nextRequestId ≤ 2 ^ 64) : Unsent F [id] s' := by
  cases h with
  | @rejected t e hperforms count henv hwritten =>
    have haside := hperforms.aside hF hsteady hstep hwrap
    have hwrites : Flow t { t with env := e, overloadRejectCount := count } :=
      .of_eq rfl (Nat.le_refl _) rfl rfl rfl hwritten (fun hfresh => hfresh.of_alike henv) fun h => h
    have hflow := hwrites.trans (.notify _ call.number call.coroutine)
    exact haside.unsent.flow hflow ((List.subperm_append_left [id]).mpr hflow.keys)
  | degraded hstack accepted => exact hsteady.unsent.spend hstack rfl (.degraded _ _ _ _)
  | unwritten hstack hfind hconnection hfind' =>
    apply hsteady.unsent.spend hstack rfl
    refine Flow.trans ?_ (.finish _ _ _ _)
    exact .store_of_unwritable _ _ _ _ hconnection

theorem Rejection.restores (hF : F.Lawful wire) (hsteady : Steady F s)
    (h : Rejection F a s id bytes call s') (hstep : s.step F a = some s')
    (hwrap : s'.nextRequestId ≤ 2 ^ 64) {begun : RpcChannel} {steps : List ChannelStep}
    (hrun : begun.run F steps = some s)
    (hstage : id ∈ s.unsentKeys → Stage F begun steps s id bytes call)
    (htimer : call.timeoutTimer = none) :
    ∃ before a₀ others s₀ s₁ t, steps ++ [a] = before ++ a₀ :: others ∧
      begun.run F before = some s₀ ∧ Performs F s₀ a₀ t (.registerAndSend id bytes call) ∧
      s₀.step F a₀ = some s₁ ∧ (Restores others s₀ s' ∨ Spares s₀ s₁ ∧ Spares s s') := by
  have hkeys : ∀ f ∈ s.stack, f.unsentKey = some id → id ∈ s.unsentKeys := fun f hf hkey =>
    List.mem_append_right _ (List.mem_filterMap.mpr ⟨f, hf, hkey⟩)
  have hnew : ∀ f ∈ s.stack, f.unsentKey = some id → .registerAndSend id bytes call ∉ s.functors := by
    intro f hf hkey hmem
    have hnodup : (s.queuedKeys ++ s.stack.filterMap ChannelFrame.unsentKey).Nodup :=
      hsteady.unsent.nodup
    have hdisjoint := (List.nodup_append'.mp hnodup).2.2
    exact hdisjoint (List.mem_filterMap.mpr ⟨_, hmem, rfl⟩) (List.mem_filterMap.mpr ⟨f, hf, hkey⟩)
  cases h with
  | @rejected t e hperforms count henv hwritten =>
    have haside := hperforms.aside hF hsteady hstep hwrap
    have hspares : Spares s ({ t with env := e, overloadRejectCount := count }.notifyCompletion
        call.number call.coroutine) := by
      refine haside.spares.trans (Spares.trans ?_ (.notify _ _ _))
      exact .of_alike rfl henv
    refine ⟨steps, a, [], s, _, t, rfl, hrun, hperforms, hstep, .inl ?_⟩
    exact ⟨hspares.pending, hspares.timers, fun c => hspares.closures c ▸ List.Subset.refl _,
      fun c _ => hspares.closures c⟩
  | @degraded call' reason stack hstack accepted =>
    have hmem : .degrade id call' reason ∈ s.stack := hstack ▸ List.mem_cons_self
    cases hstage (hkeys _ hmem rfl) with
    | queued hqueued => exact absurd hqueued (hnew _ hmem rfl)
    | @handled before others a₀ s₀ s₁ t hsteps hrun₀ hperforms hstep₀ h =>
      refine ⟨before, a₀, others ++ [a], s₀, s₁, t, by simp [hsteps], hrun₀, hperforms, hstep₀, ?_⟩
      refine .inr ⟨h.degrade _ _ hmem, Spares.trans ?_ (.notify _ _ _)⟩
      refine .of_alike rfl ?_
      dsimp only
      split
      · exact .updateController _ (·.markCallState .completed) (fun _ => rfl) _
      · exact .applyFailure _ _ _ _
  | @unwritten token bytes' stack call₁ call₂ ending hstack hfind hconnection hfind' =>
    have hmem : .registered id token bytes' ∈ s.stack := hstack ▸ List.mem_cons_self
    cases hstage (hkeys _ hmem rfl) with
    | queued hqueued => exact absurd hqueued (hnew _ hmem rfl)
    | @handled before others a₀ s₀ s₁ t hsteps hrun₀ hperforms hstep₀ h =>
      refine ⟨before, a₀, others ++ [a], s₀, s₁, t, by simp [hsteps], hrun₀, hperforms, hstep₀, .inl ?_⟩
      have hkey : id ∈ s.keys := List.mem_map_of_mem (f := Prod.fst) (find_eq_some hfind)
      have hregistering := h.registered token bytes' hmem hkey
      obtain ⟨hpending, htimers, hclosures, hkept⟩ :=
        hregistering.restores hsteady.unsent.fresh htimer hfind hfind' ending
      exact ⟨hpending, htimers, hclosures, fun c hc => hkept c fun l hl => hc l (by simp [hl])⟩

theorem RejectsExpired.rejection (h : RejectsExpired F s a id bytes call)
    (hstep : s.step F a = some s') : Rejection F a s id bytes call s' := by
  obtain ⟨t, hperforms, hconnected, hroom, hdeadline⟩ := h
  obtain rfl := hperforms.step_eq hstep
  have hreject : t.perform (.registerAndSend id bytes call) =
      t.reject call (octets "RPC timeout") .timeout := by
    have hstate : ¬t.connectionState ≠ .connected := not_not_intro hconnected
    show t.registerAndSend id bytes call = _
    rw [registerAndSend, if_neg hstate, if_neg hroom, if_pos hdeadline]
  rw [hreject]
  exact .rejected hperforms t.overloadRejectCount
    ((ChannelEnv.Alike.record _ call _).trans (.applyFailure _ _ _ _))
    ((written_applyFailure _ _ _ _).trans (written_record _ _ _))

/-- The state of a controller behind the end of its call. -/
theorem callState_finish {c : Nat} (e : ChannelEnv) {call : PendingCall}
    (hcontroller : call.controller = some c) (ending : Ending) :
    ((e.finish call ending).controllers c).callState =
      match ending with
      | .frame _ => .completed
      | .failure _ state => state
      | .cancel => .cancelled := by
  cases ending with
  | frame frame =>
    simp only [ChannelEnv.finish, ChannelEnv.applyFrame, hcontroller]
    split
    · simp [ChannelEnv.updateController, RpcController.setFailed, RpcController.markCallState]
    · split
      · simp [ChannelEnv.updateController, RpcController.setFailed, RpcController.markCallState]
      · split
        · simp [ChannelEnv.updateController, RpcController.markCallState]
        · simp [ChannelEnv.updateController, RpcController.setFailed, RpcController.markCallState]
  | failure reason state =>
    simp [ChannelEnv.finish, ChannelEnv.applyFailure, ChannelEnv.updateController, hcontroller,
      RpcController.markCallState]
  | cancel =>
    simp [ChannelEnv.finish, ChannelEnv.updateController, hcontroller, RpcController.markCanceled]

theorem errorText_finish {c : Nat} (e : ChannelEnv) {call : PendingCall}
    (hcontroller : call.controller = some c) (reason : List UInt8) (state : RpcCallState) :
    ((e.finish call (.failure reason state)).controllers c).errorText = reason := by
  simp [ChannelEnv.finish, ChannelEnv.applyFailure, ChannelEnv.updateController, hcontroller,
    RpcController.markCallState, RpcController.setFailed]

/-- The reasons for which a call is not sent are not among those for which a connection fails. -/
theorem ConnectionText.ne {text : List UInt8} (h : ConnectionText text) :
    text ≠ octets "RPC connection is not available" ∧ text ≠ octets "too many pending rpcs" := by
  obtain rfl | rfl | ⟨error, rfl⟩ := h
  · exact ⟨by decide, by decide⟩
  · exact ⟨by decide, by decide⟩
  · -- The texts differ in their first five octets.
    have htake : (octets ("RPC protocol error: " ++ error)).take 5 = octets "RPC p" := by
      rw [octets_append, List.take_append_of_le_length (by decide)]
      decide
    refine ⟨fun heq => ?_, fun heq => ?_⟩
    · rw [heq] at htake
      exact absurd htake (by decide)
    · rw [heq] at htake
      exact absurd htake (by decide)

theorem FailsUnsent.of_finish {call' : PendingCall} {ending : Ending}
    (h : FailsUnsent s (s₁.finish id call' ending) call)
    (hcontroller : call'.controller = call.controller) :
    ∃ reason, ending = .failure reason .failed ∧
      (reason = octets "RPC connection is not available" ∨ reason = octets "too many pending rpcs") := by
  obtain ⟨-, -, c, hc, hstate, htext⟩ := h
  have henv : (s₁.finish id call' ending).env = (s₁.env.release call').finish call' ending := by
    unfold finish notifyCompletion
    dsimp only
    split <;> rfl
  rw [henv] at hstate htext
  rw [callState_finish _ (hcontroller.trans hc)] at hstate
  cases ending with
  | frame => cases hstate
  | cancel => cases hstate
  | failure reason state =>
    obtain rfl : state = .failed := hstate
    rw [errorText_finish _ (hcontroller.trans hc)] at htext
    exact ⟨reason, rfl, htext⟩

theorem FailsUnsent.number_eq {t : RpcChannel} {number : Nat} {coroutine : Bool}
    (h : FailsUnsent s (t.notifyCompletion number coroutine) call) (hnotified : t.notified = s.notified) :
    number = call.number := by
  have hmem := h.2.1
  rw [notified_notifyCompletion] at hmem
  obtain heq | hmem := List.mem_cons.mp hmem
  · exact heq.symm
  · exact absurd (hnotified ▸ hmem) h.1

theorem FailsUnsent.notified_ne (h : FailsUnsent s s' call) : s'.notified ≠ s.notified :=
  fun heq => h.1 (heq ▸ h.2.1)

/-- `RegisterAndSend` is called in the step. -/
theorem FailsUnsent.registration (hF : F.Lawful wire) (hsteady : Steady F s) {t : RpcChannel}
    {id' : UInt64} {bytes' : List UInt8} {call' : PendingCall} (h : FailsUnsent s s' call)
    (hperforms : Performs F s a t (.registerAndSend id' bytes' call'))
    (hcall : call'.number = call.number → id' = id ∧ bytes' = bytes ∧ call' = call)
    (hpending : ∀ p ∈ t.pendingCalls, p.2.number = call.number → p.2.controller = call.controller)
    (hstep : s.step F a = some s') (hbounded : Bounded s') :
    Rejection F a s id bytes call s' := by
  have haside := hperforms.aside hF hsteady hstep hbounded.ids
  have hsend : t.registerAndSend id' bytes' call' = s' := (hperforms.step_eq hstep).symm
  have hspec := registerAndSend_spec haside.notMem haside.unsent.fresh bytes' call'
    (hsend.symm ▸ hbounded.tokens)
  rw [hsend] at hspec
  cases hspec with
  | rejected count henv hwritten =>
    obtain ⟨rfl, rfl, rfl⟩ := hcall (h.number_eq haside.notified)
    exact .rejected hperforms count henv hwritten
  | degrade | inserted | hooked => exact absurd haside.notified h.notified_ne
  | @cancelled call'' hfind =>
    have hnumber : call''.number = call.number := h.number_eq haside.notified
    have hcontroller : call''.controller = call.controller := by
      obtain hmem | heq := List.mem_append.mp (find_eq_some hfind)
      · exact hpending _ hmem hnumber
      · cases List.mem_singleton.mp heq
        rw [(hcall hnumber).2.2]
    obtain ⟨reason, hending, -⟩ := h.of_finish hcontroller
    cases hending

/-- A call ends with one of these reasons in three places only. -/
theorem FailsUnsent.rejection (hF : F.Lawful wire) (hsteady : Steady F s)
    (hlinked : Linked id bytes call s) (h : FailsUnsent s s' call) (hstep : s.step F a = some s')
    (hbounded : Bounded s') : Rejection F a s id bytes call s' := by
  cases step_shape hstep with
  | quiet hnotified => exact absurd hnotified h.notified_ne
  | @finish s₁ id' call' ending hcause hfind hnotified =>
    obtain ⟨rfl, hcontroller⟩ := (hlinked.flow (.cause hcause)).pending _ (find_eq_some hfind)
      (h.number_eq hnotified)
    obtain ⟨reason, hending, hreason⟩ := h.of_finish hcontroller
    cases hcause with
    | frame | startCancel | functor | cancel | timeout => cases hending
    | connection =>
      cases hending
      obtain ⟨hunavailable, hoverloaded⟩ := hsteady.unsent.text.ne
      exact absurd hreason (not_or.mpr ⟨hunavailable, hoverloaded⟩)
    | closed =>
      cases hending
      exact absurd hreason (by decide)
    | unwritten hstack hfind₁ hconnection => exact .unwritten hstack hfind₁ hconnection hfind
  | @degraded id' call' reason stack hstack accepted =>
    have hnumber : call'.number = call.number := h.number_eq rfl
    obtain ⟨rfl, -⟩ := hlinked.waiting id' call' reason (hstack ▸ List.mem_cons_self) hnumber
    exact .degraded hstack accepted
  | @perform t functor hperforms =>
    obtain ⟨u, index, heffects, hnext, hget, ht, -, -, -, hnotified, -⟩ := hperforms.queue hstep
    have hlinkedᵤ := hsteady.linked hlinked heffects (hnext.trans hbounded.ids)
    have hlinkedₜ : Linked id bytes call t := ht ▸ hlinkedᵤ.dequeue index
    replace hnotified : t.notified = s.notified := ht ▸ hnotified
    cases functor with
    | registerAndSend id' bytes' call' =>
      exact h.registration hF hsteady hperforms
        (hlinkedᵤ.queued id' bytes' call' (List.mem_of_getElem? hget))
        (fun p hp hnumber => (hlinkedₜ.pending p hp hnumber).2) hstep hbounded
    | completeInvalid number controller coroutine reason =>
      have hnumber : number = call.number := h.number_eq hnotified
      exact absurd hnumber (hlinkedᵤ.valid _ _ _ _ (List.mem_of_getElem? hget))
    | cancel id' =>
      by_cases halive : t.alive = true
      · rw [show t.perform (.cancel id') = t.completeCallWithCancel id' from if_pos halive] at h
        obtain heq | ⟨call', hfind, heq⟩ := completeCallWithCancel_cases t id'
        · rw [heq] at h
          exact absurd hnotified h.notified_ne
        · rw [heq] at h
          have hnumber : call'.number = call.number := h.number_eq hnotified
          obtain ⟨reason, hending, -⟩ :=
            h.of_finish (hlinkedₜ.pending _ (find_eq_some hfind) hnumber).2
          cases hending
      · rw [show t.perform (.cancel id') = t from if_neg halive] at h
        exact absurd hnotified h.notified_ne
    | resume | flush => exact absurd hnotified h.notified_ne

theorem steady_start (F : MetaFormat) (nextRequestId : Nat) {e : ChannelEnv}
    (htimers : e.timers = []) (hcontrollers : ∀ c, (e.controllers c).cancelCallbacks = [] ∧
      0 ≤ (e.controllers c).nextCancelToken) (hwritten : e.written = []) :
    Steady F (start nextRequestId e) := by
  refine ⟨(resourced_start nextRequestId htimers hcontrollers).1, ?_, known_start _ _ _⟩
  refine ⟨List.nodup_nil, ?_, ?_, ?_, ?_, ⟨?_, fun c => ⟨(hcontrollers c).2, ?_⟩⟩, .inl rfl⟩
  all_goals simp [start, unsentKeys, queuedKeys, htimers, hcontrollers, hwritten]

theorem Steady.run (hF : F.Lawful wire) (h : Steady F s) {steps : List ChannelStep}
    (hrun : s.run F steps = some s') (hwrap : s'.nextRequestId ≤ 2 ^ 64) : Steady F s' := by
  refine Transition.invariant_run (I := fun s => s.nextRequestId ≤ 2 ^ 64 → Steady F s)
    (C := fun _ _ => True) (fun s a s' h _ hstep hwrap => ?_) (fun _ => h)
    (Transition.meets_of_forall fun _ _ => trivial) hrun hwrap
  exact (h ((nextRequestId_le_step hstep).trans hwrap)).step hF hstep hwrap

theorem Unsent.run (hF : F.Lawful wire) {spent : List UInt64} (hnested : Nested s)
    (h : Unsent F spent s) {steps : List ChannelStep} (hrun : s.run F steps = some s')
    (hwrap : s'.nextRequestId ≤ 2 ^ 64) : Unsent F spent s' := by
  refine (Transition.invariant_run
    (I := fun s => s.nextRequestId ≤ 2 ^ 64 → Nested s ∧ Unsent F spent s)
    (C := fun _ _ => True) (fun s a s' h _ hstep hwrap => ?_) (fun _ => ⟨hnested, h⟩)
    (Transition.meets_of_forall fun _ _ => trivial) hrun hwrap).2
  obtain ⟨hnested, h⟩ := h ((nextRequestId_le_step hstep).trans hwrap)
  exact invariant_passage hnested h (fun h hwrap hpassage => h.passage hF hwrap hpassage)
    (step_effects hstep) hwrap

/-- The step that begins the call rejects it. -/
theorem rejection_begin (hF : F.Lawful wire) (hsteady : Steady F s) {x : CallArguments}
    (harguments : a.arguments = some x)
    (hcall : (s.prepareCall F x).1 = .registerAndSend id bytes call) (hstep : s.step F a = some s')
    (hbounded : Bounded s')
    (hrejected : FailsUnsent s s' call ∨ RejectsExpired F s a id bytes call) :
    Rejection F a s id bytes call s' ∧ id ∉ s.unsentKeys := by
  cases a with
  | beginCall x' later =>
    obtain rfl : x' = x := Option.some.inj harguments
    have hperforms : Performs F s (.beginCall x' later) _ (s.prepareCall F x').1 := .beginCall x' later
    rw [hcall] at hperforms
    have haside := hperforms.aside hF hsteady hstep hbounded.ids
    refine ⟨?_, fun hmem => ?_⟩
    · obtain hfails | hexpired := hrejected
      · refine hfails.registration hF hsteady hperforms (fun _ => ⟨rfl, rfl, rfl⟩) ?_ hstep hbounded
        intro p hp hnumber
        rw [haside.pending] at hp
        have hlt := hsteady.known.pending p hp
        obtain ⟨reason, heq⟩ | ⟨bytes', call', heq, -, hbegun, -⟩ := prepareCall_functor F s x'
        · cases hcall.symm.trans heq
        · cases hcall.symm.trans heq
          omega
      · exact hexpired.rejection hstep
    · obtain hmem | hmem := List.mem_append.mp hmem
      · apply haside.dequeued.notMem
        rw [queuedKeys, functors_prepareCall]
        exact hmem
      · obtain ⟨f, hf, hkey⟩ := List.mem_filterMap.mp hmem
        exact haside.frames f (haside.stack ▸ hf) hkey
  | remoteBeginCall x' =>
    obtain hfails | ⟨t, hperforms, -⟩ := hrejected
    · simp only [RpcChannel.step, Option.ite_none_right_eq_some, Option.some.injEq] at hstep
      obtain ⟨-, rfl⟩ := hstep
      obtain ⟨n, completions, -, hstate⟩ := prepareCall_state F s x'
      exact absurd (by rw [hstate]) hfails.notified_ne
    · cases hperforms
  | _ => cases harguments

/-- Every call that ends as failed because the connection was not available or too many calls were
pending, and every call that is rejected as expired, as long as request ids do not wrap and no
controller runs out of tokens: its frame is never written, and the pending calls, the timers and the
cancel closures are as they were before `RegisterAndSend`, but for closures that other threads have
taken or dropped meanwhile. If the degrade handler was asked, then both the call of it and its return
have left them alone. -/
theorem rejected_never_written (F : MetaFormat) (hF : F.Lawful wire) (nextRequestId : Nat)
    (e : ChannelEnv) (htimers : e.timers = []) (hcontrollers : ∀ c,
      (e.controllers c).cancelCallbacks = [] ∧ 0 ≤ (e.controllers c).nextCancelToken)
    (hwritten : e.written = []) (before during after : List ChannelStep) (a : ChannelStep)
    (x : CallArguments) (id : UInt64) (bytes : List UInt8) (call : PendingCall)
    (begun s s' final : RpcChannel) (hbegun : (start nextRequestId e).run F before = some begun)
    (hfirst : (during ++ [a]).head?.bind ChannelStep.arguments = some x)
    (hcall : (begun.prepareCall F x).1 = .registerAndSend id bytes call)
    (hduring : begun.run F during = some s) (hstep : s.step F a = some s')
    (hafter : s'.run F after = some final) (hwrap : final.nextRequestId ≤ 2 ^ 64)
    (htokens : ∀ c, (final.env.controllers c).nextCancelToken ≤ 2 ^ 31)
    (hrejected : FailsUnsent s s' call ∨ RejectsExpired F s a id bytes call) :
    (∀ conn, (conn, bytes) ∉ final.env.written) ∧
      ∃ earlier a₀ others s₀ s₁ t, during ++ [a] = earlier ++ a₀ :: others ∧
        begun.run F earlier = some s₀ ∧ Performs F s₀ a₀ t (.registerAndSend id bytes call) ∧
        s₀.step F a₀ = some s₁ ∧ (Restores others s₀ s' ∨ Spares s₀ s₁ ∧ Spares s s') := by
  have hbounded : Bounded s' := Bounded.of_run ⟨hwrap, htokens⟩ hafter
  have hboundedₛ := hbounded.of_step hstep
  have hsteady₀ : Steady F begun := (steady_start F nextRequestId htimers hcontrollers hwritten).run hF
    hbegun (hboundedₛ.of_run hduring).ids
  have hsteady := hsteady₀.run hF hduring hboundedₛ.ids
  have htimer : call.timeoutTimer = none := by
    obtain ⟨reason, heq⟩ | ⟨bytes', call', heq, -, -, -, -, -, htimer, -⟩ :=
      prepareCall_functor F begun x
    · cases hcall.symm.trans heq
    · cases hcall.symm.trans heq
      exact htimer
  obtain ⟨hrejection, hstage⟩ : Rejection F a s id bytes call s' ∧
      (id ∈ s.unsentKeys → Stage F begun during s id bytes call) := by
    cases during with
    | nil =>
      obtain rfl : begun = s := Option.some.inj hduring
      obtain ⟨hrejection, hnotMem⟩ := rejection_begin hF hsteady hfirst hcall hstep hbounded hrejected
      exact ⟨hrejection, fun hmem => absurd hmem hnotMem⟩
    | cons a₁ during =>
      obtain ⟨s₁, hstep₁, hrest⟩ := Transition.run_cons_eq_some_iff.mp hduring
      have hbounded₁ := hboundedₛ.of_run hrest
      obtain ⟨hlinked, hstage⟩ := Stage.begin hF hsteady₀ hfirst hcall hstep₁ hbounded₁
      have hrun₁ : begun.run F [a₁] = some s₁ := Transition.run_cons_eq_some_iff.mpr ⟨s₁, hstep₁, rfl⟩
      obtain ⟨-, hlinked, hstage⟩ :=
        hstage.run hF (hsteady₀.step hF hstep₁ hbounded₁.ids) hlinked hrun₁ hrest hboundedₛ
      refine ⟨?_, fun _ => hstage⟩
      obtain hfails | hexpired := hrejected
      · exact hfails.rejection hF hsteady hlinked hstep hbounded
      · exact hexpired.rejection hstep
  refine ⟨fun conn hmem => ?_, hrejection.restores hF hsteady hstep hbounded.ids hduring hstage htimer⟩
  have hunsent := (hrejection.unsent hF hsteady hstep hbounded.ids).run hF
    (hsteady.step hF hstep hbounded.ids).nested hafter hwrap
  exact (hunsent.written _ hmem id (carries_prepareCall hF hcall)).2 List.mem_cons_self

/-- The connection has stopped to take writes when the call begins, and the call is already in the
map when that is noticed. -/
theorem rejected_never_written_shutdown : ∃ begun bytes call s s',
    (start 1 {}).run wireFormat [.connectionUp 0, .shutdown] = some begun ∧
      (begun.prepareCall wireFormat ownCall).1 = .registerAndSend 1 bytes call ∧
      begun.run wireFormat [.beginCall ownCall 0] = some s ∧ s.keys = [1] ∧
      s.step wireFormat (.resume false 0 []) = some s' ∧ FailsUnsent s s' call ∧
      ∀ conn, (conn, bytes) ∉ s'.env.written := by
  refine ⟨_, _, _, _, _, rfl, rfl, rfl, rfl, rfl, ?_, ?_⟩
  · exact ⟨by decide, by decide, 0, rfl, rfl, .inl rfl⟩
  · refine (rejected_never_written wireFormat wireFormat_lawful 1 {} rfl (fun _ => ⟨rfl, Int.le_refl _⟩)
      rfl [.connectionUp 0, .shutdown] [.beginCall ownCall 0] [] (.resume false 0 []) ownCall 1 _ _ _ _
      _ _ rfl rfl rfl rfl rfl rfl (by decide) ?_ (.inl ?_)).1
    · rintro (- | c)
      · decide
      · exact (by decide : (0 : Int) ≤ 2 ^ 31)
    · exact ⟨by decide, by decide, 0, rfl, rfl, .inl rfl⟩

/-- The connection is up. -/
def attached : RpcChannel := ((start 1 {}).run wireFormat [.connectionUp 0]).getD {}

/-- A call has been sent. -/
def sent : RpcChannel := (attached.run wireFormat [.beginCall ownCall 0, .resume false 0 []]).getD {}

/-- A call that is given the id of the first one fails the first one. -/
theorem step_begin_again {n : Nat} (hn : UInt64.ofNat n = 1) : ∃ bytes call s s',
    (attached.prepareCall wireFormat ownCall).1 = .registerAndSend 1 bytes call ∧
      ({ sent with nextRequestId := n, connectionUp := false } : RpcChannel).step wireFormat
        (.beginCall emptyCall 0) = some s ∧
      s.step wireFormat (.resume false 0 []) = some s' ∧ FailsUnsent s s' call ∧
      (0, bytes) ∈ s'.env.written := by
  simp only [step, prepareCall, emptyCall, hn]
  refine ⟨_, _, _, _, rfl, rfl, rfl, ?_, ?_⟩
  · have hbefore : 0 ∉ ([] : List Nat) := by simp
    have hafter : 0 ∈ [0] := by simp
    exact ⟨hbefore, hafter, 0, rfl, rfl, .inl rfl⟩
  · exact List.mem_cons_self

/-- The request ids come around: a call whose frame has been written ends as one that was not sent. -/
theorem wrapped_id_rejects_written : ∃ during begun bytes call s s',
    (start 1 {}).run wireFormat [.connectionUp 0] = some begun ∧
      (during ++ [.resume false 0 []]).head?.bind ChannelStep.arguments = some ownCall ∧
      (begun.prepareCall wireFormat ownCall).1 = .registerAndSend 1 bytes call ∧
      begun.run wireFormat during = some s ∧ s.step wireFormat (.resume false 0 []) = some s' ∧
      FailsUnsent s s' call ∧ ∃ conn, (conn, bytes) ∈ s'.env.written := by
  have hn : UInt64.ofNat (2 + (2 ^ 64 - 1)) = 1 := by decide
  obtain ⟨bytes, call, s, s', hcall, hbegin, hstep, hfails, hmem⟩ := step_begin_again hn
  have hsent : attached.run wireFormat [.beginCall ownCall 0, .resume false 0 []] = some sent := rfl
  have hdraw := run_drawRequestId wireFormat sent (2 ^ 64 - 1)
  refine ⟨[.beginCall ownCall 0, .resume false 0 []] ++ List.replicate (2 ^ 64 - 1) .drawRequestId ++
    [.shutdown, .beginCall emptyCall 0], attached, bytes, call, s, s', rfl, rfl, hcall, ?_, hstep, hfails,
    0, hmem⟩
  have hrun : ({ sent with nextRequestId := sent.nextRequestId + (2 ^ 64 - 1) } : RpcChannel).run
      wireFormat [.shutdown, .beginCall emptyCall 0] = some s :=
    Transition.run_cons_eq_some_iff.mpr ⟨_, rfl, Transition.run_cons_eq_some_iff.mpr ⟨s, hbegin, rfl⟩⟩
  unfold run at hsent hdraw hrun ⊢
  rw [Transition.run_append, Transition.run_append, hsent, Option.bind_some, hdraw, Option.bind_some,
    hrun]

end RpcChannel

end NebulaRpc.Rpc
