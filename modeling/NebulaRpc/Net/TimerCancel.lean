import NebulaRpc.Net.TimerLoop

/-!
# Cancelling across threads

A timer added on another thread has its id before it is in the queue: until the loop runs the
functor, only `QueueInLoop` knows of it. A `Cancel` on another thread is queued behind the addition
and finds the timer. A `Cancel` on the loop thread acts at once, finds nothing when the addition is
still queued, and the timer is added afterwards. As long as that does not happen, no action is
invoked after its cancellation has taken effect.
-/

namespace NebulaRpc.Net

variable {β : Type*}

/-- The number of a queued addition. -/
def TimerFunctor.addNumber : TimerFunctor β → Option Nat
  | .add number .. => some number
  | .cancel .. => none

namespace TimerLoop

open TimerQueue

variable {s s' : TimerLoop β} {l : LoopStep β}

/-- A `Cancel` on the loop thread finds no addition of its timer in the queue of functors. -/
def CancelsSettled (s : TimerLoop β) : LoopStep β → Prop
  | .cancel id => ∀ functor ∈ s.functors, functor.addId ≠ some id.value
  | _ => True

instance (s : TimerLoop β) (l : LoopStep β) : Decidable (CancelsSettled s l) := by
  cases l <;> unfold CancelsSettled <;> infer_instance

/-- The calls of `AddTimer` whose timers are not yet in the queue. -/
def pendingNumbers (s : TimerLoop β) : List Nat :=
  s.arriving.map (·.number) ++ s.functors.filterMap TimerFunctor.addNumber

/-- Cancellations stand behind the additions they are for. -/
def Ordered (returned : List (Nat × TimerId)) : List (TimerFunctor β) → Prop
  | [] => True
  | .add .. :: functors => Ordered returned functors
  | .cancel id covered :: functors =>
    (∀ k ∈ covered, (k, id) ∈ returned ∧ k ∉ functors.filterMap TimerFunctor.addNumber) ∧
      Ordered returned functors

/-- A call that has returned this id has reached the queue, or the queue of functors, with it. -/
structure Returned (s : TimerLoop β) (k : Nat) (id : TimerId) : Prop where
  valid : id.valid = true
  lt : k < s.registered
  arrived : k ∉ s.arriving.map (·.number)
  queued : ∀ id' deadline action, TimerFunctor.add k id' deadline action ∈ s.functors → id' = id
  named : ∀ i f, s.queue.filed i = some f → f.timer.action.1 = k → f.timer.Named id

/-- The timer of this call is neither in the queue nor on its way there. -/
structure Gone (s : TimerLoop β) (k : Nat) : Prop where
  lt : k < s.registered
  pending : k ∉ s.pendingNumbers
  filed : ∀ i f, s.queue.filed i = some f → f.timer.action.1 ≠ k

structure Obedient (s : TimerLoop β) : Prop where
  good : Good s
  nodup : s.pendingNumbers.Nodup
  pending : ∀ k ∈ s.pendingNumbers, k < s.registered
  filed : ∀ i f, s.queue.filed i = some f →
    f.timer.action.1 < s.registered ∧ f.timer.action.1 ∉ s.pendingNumbers
  returned : ∀ k id, (k, id) ∈ s.returned → Returned s k id
  ordered : Ordered s.returned s.functors
  cancelled : ∀ k ∈ s.cancelled, Gone s k
  log : ∀ event ∈ s.log, event.cancelled = false

theorem Obedient.start (epoch : Int) : Obedient (start epoch : TimerLoop β) where
  good := .start epoch
  nodup := by simp [TimerLoop.start, pendingNumbers]
  pending := by simp [TimerLoop.start, pendingNumbers]
  filed := by
    intro i f hf
    simp [TimerLoop.start, TimerQueue.filed, TimerSlot.filed] at hf
  returned := by simp [TimerLoop.start]
  ordered := trivial
  cancelled := by simp [TimerLoop.start]
  log := by simp [TimerLoop.start]

/-! ## The queue of functors -/

theorem Ordered.mono {returned returned' : List (Nat × TimerId)}
    (hsub : returned ⊆ returned') {functors : List (TimerFunctor β)}
    (h : Ordered returned functors) : Ordered returned' functors := by
  induction functors with
  | nil => trivial
  | cons functor functors ih =>
    cases functor with
    | add => exact ih h
    | cancel id covered => exact ⟨fun k hk => ⟨hsub (h.1 k hk).1, (h.1 k hk).2⟩, ih h.2⟩

theorem Ordered.append_add {returned : List (Nat × TimerId)} {functors : List (TimerFunctor β)}
    (h : Ordered returned functors) {number : Nat} {id : TimerId} {deadline : Int} {action : β}
    (hnew : ∀ id', (number, id') ∉ returned) :
    Ordered returned (functors ++ [.add number id deadline action]) := by
  induction functors with
  | nil => trivial
  | cons functor functors ih =>
    cases functor with
    | add => exact ih h
    | cancel id' covered =>
      refine ⟨fun k hk => ⟨(h.1 k hk).1, ?_⟩, ih h.2⟩
      show k ∉ (functors ++ [_]).filterMap TimerFunctor.addNumber
      rw [List.filterMap_append, List.mem_append]
      rintro (hin | hin)
      · exact (h.1 k hk).2 hin
      · obtain rfl : k = number := by simpa [TimerFunctor.addNumber] using hin
        exact hnew id' (h.1 k hk).1

theorem Ordered.append_cancel {returned : List (Nat × TimerId)} {functors : List (TimerFunctor β)}
    (h : Ordered returned functors) {id : TimerId} {covered : List Nat}
    (hcovered : ∀ k ∈ covered, (k, id) ∈ returned) :
    Ordered returned (functors ++ [.cancel id covered]) := by
  induction functors with
  | nil => exact ⟨fun k hk => ⟨hcovered k hk, by simp⟩, trivial⟩
  | cons functor functors ih =>
    cases functor with
    | add => exact ih h
    | cancel id' covered' =>
      refine ⟨fun k hk => ⟨(h.1 k hk).1, ?_⟩, ih h.2⟩
      simpa [TimerFunctor.addNumber] using (h.1 k hk).2

theorem mem_covered {id : TimerId} {k : Nat} : k ∈ s.covered id ↔ (k, id) ∈ s.returned := by
  simp only [covered, List.mem_filterMap, Prod.exists]
  constructor
  · rintro ⟨k', id', hmem, hsome⟩
    split at hsome
    · next heq =>
      subst heq
      obtain rfl := Option.some.inj hsome
      exact hmem
    · cases hsome
  · intro hmem
    exact ⟨k, id, hmem, by simp⟩

/-! ## Steps -/

/-- The ids of slots are valid. -/
theorem Good.valid_slotId (h : Good s) {i : Nat} {f : Filed (Nat × β)}
    (hf : s.queue.filed i = some f) : f.timer.slotId.valid = true := by
  obtain ⟨B, hco⟩ := h.sound.coherent
  obtain ⟨hactive, -, -, -, hid, -⟩ := TimerSlot.filed_eq_some_iff.mp hf
  have hvalue := value_makeSlotTimerId (hco.stored.succ_lt hactive) (hco.stored.generation_lt i)
  simp only [TimerId.valid, hid, hvalue, ne_eq, decide_eq_true_eq]
  omega

/-- Steps of the queue that bring no timer into it. -/
theorem Obedient.of_fewer (h : Obedient s) (hgood : Good s')
    (hregistered : s'.registered = s.registered) (harriving : s'.arriving = s.arriving)
    (hfunctors : s'.functors = s.functors) (hreturned : s'.returned = s.returned)
    (hcancelled : s'.cancelled = s.cancelled)
    (hfiled : ∀ i f, s'.queue.filed i = some f → ∃ g, s.queue.filed i = some g ∧ g.timer = f.timer)
    (hlog : ∀ event ∈ s'.log, event.cancelled = false) : Obedient s' := by
  have hpending : s'.pendingNumbers = s.pendingNumbers := by
    rw [pendingNumbers, pendingNumbers, harriving, hfunctors]
  refine ⟨hgood, hpending ▸ h.nodup, ?_, fun i f hf => ?_, fun k id hmem => ?_, ?_, fun k hk => ?_,
    hlog⟩
  · rw [hpending, hregistered]
    exact h.pending
  · obtain ⟨g, hg, htimer⟩ := hfiled i f hf
    rw [← htimer, hpending, hregistered]
    exact h.filed i g hg
  · have hold := h.returned k id (hreturned ▸ hmem)
    refine ⟨hold.valid, hregistered ▸ hold.lt, harriving ▸ hold.arrived, ?_, fun i f hf hk => ?_⟩
    · rw [hfunctors]
      exact hold.queued
    · obtain ⟨g, hg, htimer⟩ := hfiled i f hf
      rw [← htimer] at hk ⊢
      exact hold.named i g hg hk
  · rw [hreturned, hfunctors]
    exact h.ordered
  · have hold := h.cancelled k (hcancelled ▸ hk)
    refine ⟨hregistered ▸ hold.lt, hpending ▸ hold.pending, fun i f hf => ?_⟩
    obtain ⟨g, hg, htimer⟩ := hfiled i f hf
    rw [← htimer]
    exact hold.filed i g hg

/-- A cancellation that takes effect when the additions it is for have left the queue of
functors. -/
theorem Obedient.cancelNow (h : Obedient s) {id : TimerId} {covered : List Nat}
    (hcovered : ∀ k ∈ covered,
      (k, id) ∈ s.returned ∧ k ∉ s.functors.filterMap TimerFunctor.addNumber) :
    Obedient (s.cancelNow id covered) := by
  have hgood := h.good.cancelNow id covered
  have hfiled : ∀ i f, (s.cancelNow id covered).queue.filed i = some f →
      s.queue.filed i = some f ∧ (id.valid = true → ¬ f.timer.Named id) := by
    intro i f hf
    by_cases hvalid : id.valid = true
    · obtain ⟨B, hco⟩ := h.good.sound.coherent
      obtain ⟨B', hcut⟩ := hco.cancelInLoop h.good.sound.idle id
      simp only [TimerLoop.cancelNow, if_pos hvalid] at hf
      rw [hcut.filed, Option.filter_eq_some_iff] at hf
      exact ⟨hf.1, fun _ => by simpa using hf.2⟩
    · simp only [TimerLoop.cancelNow, if_neg hvalid] at hf
      exact ⟨hf, fun hv => absurd hv hvalid⟩
  have hfewer : Obedient { s.cancelNow id covered with cancelled := s.cancelled } :=
    h.of_fewer ⟨hgood.sound, hgood.next_le, hgood.pending, hgood.nodup, hgood.filed⟩ rfl rfl rfl rfl
      rfl (fun i f hf => ⟨f, (hfiled i f hf).1, rfl⟩) h.log
  refine ⟨hgood, hfewer.nodup, hfewer.pending, hfewer.filed, fun k id' hmem => ?_, hfewer.ordered,
    fun k hk => ?_, h.log⟩
  · obtain ⟨hvalid, hlt, harrived, hqueued, hnamed⟩ := hfewer.returned k id' hmem
    exact ⟨hvalid, hlt, harrived, hqueued, hnamed⟩
  · rcases List.mem_append.mp hk with hnew | hold
    · obtain ⟨hmem, hnot⟩ := hcovered k hnew
      have hreturned := h.returned k id hmem
      refine ⟨hreturned.lt, ?_, fun i f hf heq => ?_⟩
      · exact fun hin => (List.mem_append.mp hin).elim hreturned.arrived hnot
      · obtain ⟨hf, hnot⟩ := hfiled i f hf
        exact hnot hreturned.valid (hreturned.named i f hf heq)
    · obtain ⟨hlt, hpending, hgone⟩ := hfewer.cancelled k hold
      exact ⟨hlt, hpending, hgone⟩

/-- `AddTimerInLoop` brings in at most the timer of the call `k`, which so far is nowhere in the
queue. -/
theorem Obedient.filed_add (h : Obedient s) {deadline : Int} {k x : Nat} {action : β} {env : AddEnv}
    (hx : s.queue.FreshExternal x) {i : Nat} {f : Filed (Nat × β)}
    (hf : (s.queue.addTimerInLoop deadline (k, action) x env).2.filed i = some f) :
    s.queue.filed i = some f ∨ f.timer.action.1 = k ∧ f.timer.externalId = x ∧
      (s.queue.addTimerInLoop deadline (k, action) x env).1 = some f.timer.id := by
  rcases h.good.filed_add hx hf with hold | ⟨hext, haction, -, id, hid, heq⟩
  · exact .inl hold
  · exact .inr ⟨by rw [haction], hext, by rw [hid, heq]⟩

/-- The timer behind the id that `AddTimerInLoop` returns. -/
theorem Good.exists_filed_add (h : Good s) {deadline : Int} {a : Nat × β} {x : Nat} {env : AddEnv}
    (hx : s.queue.FreshExternal x) {id : TimerId}
    (hid : (s.queue.addTimerInLoop deadline a x env).1 = some id) :
    ∃ i f, (s.queue.addTimerInLoop deadline a x env).2.filed i = some f ∧
      f.timer.externalId = x ∧ f.timer.id = id := by
  obtain ⟨B, hco⟩ := h.sound.coherent
  have hspec := hco.addTimerInLoop deadline a hx env
  generalize s.queue.addTimerInLoop deadline a x env = result at hspec hid ⊢
  obtain ⟨_ | id', q'⟩ := result
  · cases hid
  · obtain rfl : id' = id := Option.some.inj hid
    obtain ⟨i, f, hadd⟩ := hspec
    refine ⟨i, f, ?_, hadd.externalId_eq, hadd.id_eq⟩
    rw [hadd.filed, if_pos rfl]

theorem id_eq_slotId {x : Timer (Nat × β)} (h : x.externalId = 0) : x.id = x.slotId := by
  simp [Timer.id, h]

theorem mem_filterMap_addNumber {functors : List (TimerFunctor β)} {k : Nat} :
    k ∈ functors.filterMap TimerFunctor.addNumber ↔
      ∃ id deadline action, TimerFunctor.add k id deadline action ∈ functors := by
  simp only [List.mem_filterMap]
  constructor
  · rintro ⟨functor, hmem, hsome⟩
    cases functor with
    | add number id deadline action =>
      obtain rfl := Option.some.inj hsome
      exact ⟨id, deadline, action, hmem⟩
    | cancel => cases hsome
  · rintro ⟨id, deadline, action, hmem⟩
    exact ⟨_, hmem, rfl⟩

theorem Obedient.addNow (h : Obedient s) {deadline : Int} {action : β} {env : AddEnv}
    (hgood : Good (s.addNow deadline action env)) : Obedient (s.addNow deadline action env) := by
  have hx : s.queue.FreshExternal 0 := .inl rfl
  have hfiled : ∀ i f, (s.addNow deadline action env).queue.filed i = some f →
      s.queue.filed i = some f ∨ f.timer.action.1 = s.registered ∧ f.timer.externalId = 0 ∧
        (s.queue.addTimerInLoop deadline (s.registered, action) 0 env).1 = some f.timer.id :=
    fun i f hf => h.filed_add hx hf
  have hfresh : s.registered ∉ s.pendingNumbers := fun hmem => (h.pending _ hmem).ne rfl
  refine ⟨hgood, h.nodup, fun k hk => (h.pending k hk).trans (Nat.lt_succ_self _),
    fun i f hf => ?_, fun k id hmem => ?_, h.ordered.mono (List.subset_append_right _ _),
    fun k hk => ?_, h.log⟩
  · rcases hfiled i f hf with hold | ⟨hnew, -⟩
    · obtain ⟨hlt, hnot⟩ := h.filed i f hold
      exact ⟨hlt.trans (Nat.lt_succ_self _), hnot⟩
    · rw [hnew]
      exact ⟨Nat.lt_succ_self _, hfresh⟩
  · rcases List.mem_append.mp hmem with hnew | hold
    · simp only [List.mem_map, Option.mem_toList, Prod.mk.injEq] at hnew
      obtain ⟨id, hid, rfl, rfl⟩ := hnew
      refine ⟨?_, Nat.lt_succ_self _, fun hin => hfresh (List.mem_append_left _ hin), ?_, ?_⟩
      · obtain ⟨i, f, hf, hext, hfid⟩ := h.good.exists_filed_add hx hid
        rw [← hfid, id_eq_slotId hext]
        exact hgood.valid_slotId hf
      · intro id' deadline' action' hin
        exact absurd (List.mem_append_right _ (mem_filterMap_addNumber.mpr ⟨_, _, _, hin⟩)) hfresh
      · intro i f hf hk
        rcases hfiled i f hf with hf | ⟨-, hext, hsome⟩
        · exact absurd hk (h.filed i f hf).1.ne
        · obtain rfl : id = f.timer.id := Option.some.inj (hid.symm.trans hsome)
          exact .inl (id_eq_slotId hext)
    · have hreturned := h.returned k id hold
      refine ⟨hreturned.valid, hreturned.lt.trans (Nat.lt_succ_self _), hreturned.arrived,
        hreturned.queued, fun i f hf hk => ?_⟩
      rcases hfiled i f hf with hf | ⟨hnew, -⟩
      · exact hreturned.named i f hf hk
      · exact absurd (hk.symm.trans hnew) hreturned.lt.ne
  · have hgone := h.cancelled k hk
    refine ⟨hgone.lt.trans (Nat.lt_succ_self _), hgone.pending, fun i f hf => ?_⟩
    rcases hfiled i f hf with hf | ⟨hnew, -⟩
    · exact hgone.filed i f hf
    · rw [hnew]
      exact hgone.lt.ne'

theorem Obedient.remoteAddTimer (h : Obedient s) {id : TimerId} {deadline : Int} {action : β}
    {queue : TimerQueue (Nat × β)} (hqueue : ∀ i, queue.filed i = s.queue.filed i)
    (hgood : Good ({ s with
      queue := queue
      registered := s.registered + 1
      arriving := s.arriving ++ [⟨s.registered, id, deadline, action⟩] } : TimerLoop β)) :
    Obedient ({ s with
      queue := queue
      registered := s.registered + 1
      arriving := s.arriving ++ [⟨s.registered, id, deadline, action⟩] } : TimerLoop β) := by
  have hfresh : s.registered ∉ s.pendingNumbers := fun hmem => (h.pending _ hmem).ne rfl
  have hperm : ({ s with
      queue := queue
      registered := s.registered + 1
      arriving := s.arriving ++ [⟨s.registered, id, deadline, action⟩] } : TimerLoop β).pendingNumbers
        |>.Perm (s.registered :: s.pendingNumbers) := by
    simp only [pendingNumbers, List.map_append, List.map_cons, List.map_nil, List.append_assoc,
      List.singleton_append]
    exact List.perm_middle
  have hnot : ∀ k, k < s.registered → k ∉ s.pendingNumbers → k ∉ s.registered :: s.pendingNumbers :=
    fun k hlt hk hmem => (List.mem_cons.mp hmem).elim (fun heq => hlt.ne heq) hk
  refine ⟨hgood, hperm.nodup_iff.mpr (List.nodup_cons.mpr ⟨hfresh, h.nodup⟩), fun k hk => ?_,
    fun i f hf => ?_, fun k id' hmem => ?_, h.ordered, fun k hk => ?_, h.log⟩
  · rcases List.mem_cons.mp (hperm.subset hk) with rfl | hk
    · exact Nat.lt_succ_self _
    · exact (h.pending k hk).trans (Nat.lt_succ_self _)
  · obtain ⟨hlt, hpending⟩ := h.filed i f (hqueue i ▸ hf)
    exact ⟨hlt.trans (Nat.lt_succ_self _), fun hmem => hnot _ hlt hpending (hperm.subset hmem)⟩
  · obtain ⟨hvalid, hlt, harrived, hqueued, hnamed⟩ := h.returned k id' hmem
    refine ⟨hvalid, hlt.trans (Nat.lt_succ_self _), ?_, hqueued,
      fun i f hf => hnamed i f (hqueue i ▸ hf)⟩
    simp only [List.map_append, List.map_cons, List.map_nil, List.mem_append, List.mem_singleton]
    rintro (hin | rfl)
    · exact harrived hin
    · exact hlt.ne rfl
  · obtain ⟨hlt, hpending, hfiled⟩ := h.cancelled k hk
    exact ⟨hlt.trans (Nat.lt_succ_self _), fun hmem => hnot _ hlt hpending (hperm.subset hmem),
      fun i f hf => hfiled i f (hqueue i ▸ hf)⟩

/-- The call of another thread reaches `QueueInLoop`. -/
theorem Obedient.remoteQueue (h : Obedient s) {index : Nat} {call : Arriving β}
    (hcall : s.arriving[index]? = some call)
    (hgood : Good ({ s with
      arriving := s.arriving.eraseIdx index
      functors := s.functors ++ [.add call.number call.id call.deadline call.action]
      returned := (call.number, call.id) :: s.returned } : TimerLoop β)) :
    Obedient ({ s with
      arriving := s.arriving.eraseIdx index
      functors := s.functors ++ [.add call.number call.id call.deadline call.action]
      returned := (call.number, call.id) :: s.returned } : TimerLoop β) := by
  obtain ⟨hlt, hget⟩ := List.getElem?_eq_some_iff.mp hcall
  have hmem : call ∈ s.arriving := List.mem_of_getElem? hcall
  have harriving := (List.getElem_cons_eraseIdx_perm hlt).map (·.number)
  rw [hget] at harriving
  have hperm : ({ s with
      arriving := s.arriving.eraseIdx index
      functors := s.functors ++ [.add call.number call.id call.deadline call.action]
      returned := (call.number, call.id) :: s.returned } : TimerLoop β).pendingNumbers
        |>.Perm s.pendingNumbers := by
    unfold pendingNumbers
    rw [List.filterMap_append, ← List.append_assoc]
    exact List.perm_append_comm.trans (harriving.append_right _)
  -- the number of the call stands in its place and nowhere else
  obtain ⟨hnot_arriving, hnot_queued⟩ : call.number ∉ (s.arriving.eraseIdx index).map (·.number) ∧
      call.number ∉ s.functors.filterMap TimerFunctor.addNumber := by
    have hnodup := ((harriving.append_right _).nodup_iff.mpr h.nodup)
    rw [List.map_cons, List.cons_append, List.nodup_cons, List.mem_append, not_or] at hnodup
    exact hnodup.1
  have hpending : call.number ∈ s.pendingNumbers :=
    List.mem_append_left _ (List.mem_map_of_mem hmem)
  have hnew : ∀ id, (call.number, id) ∉ s.returned := fun id hin =>
    (h.returned _ id hin).arrived (List.mem_map_of_mem hmem)
  refine ⟨hgood, hperm.nodup_iff.mpr h.nodup, fun k hk => h.pending k (hperm.subset hk),
    fun i f hf => ?_, fun k id hin => ?_,
    (h.ordered.append_add hnew).mono (List.subset_cons_self _ _), fun k hk => ?_, h.log⟩
  · obtain ⟨hlt, hnot⟩ := h.filed i f hf
    exact ⟨hlt, fun hin => hnot (hperm.subset hin)⟩
  · rcases List.mem_cons.mp hin with heq | hold
    · obtain ⟨rfl, rfl⟩ := Prod.mk.inj heq
      refine ⟨?_, h.pending _ hpending, hnot_arriving, ?_, ?_⟩
      · have hid := h.good.pending call.id.value
          (List.mem_append_left _ (List.mem_map.mpr ⟨call, hmem, rfl⟩))
        simp only [TimerId.valid, ne_eq, decide_eq_true_eq]
        omega
      · intro id' deadline action hin
        rcases List.mem_append.mp hin with hin | hin
        · exact absurd (mem_filterMap_addNumber.mpr ⟨_, _, _, hin⟩) hnot_queued
        · cases List.mem_singleton.mp hin
          rfl
      · intro i f hf heq
        exact absurd (heq ▸ hpending) (h.filed i f hf).2
    · obtain ⟨hvalid, hlt, harrived, hqueued, hnamed⟩ := h.returned k id hold
      refine ⟨hvalid, hlt, fun hin => ?_, fun id' deadline action hin => ?_, hnamed⟩
      · exact harrived (((List.eraseIdx_sublist _ _).map _).subset hin)
      · rcases List.mem_append.mp hin with hin | hin
        · exact hqueued id' deadline action hin
        · cases List.mem_singleton.mp hin
          exact absurd hold (hnew id)
  · obtain ⟨hlt, hnot, hfiled⟩ := h.cancelled k hk
    exact ⟨hlt, fun hin => hnot (hperm.subset hin), hfiled⟩

theorem Obedient.remoteCancel (h : Obedient s) {id : TimerId}
    (hgood : Good ({ s with
      functors := s.functors ++ [.cancel id (s.covered id)] } : TimerLoop β)) :
    Obedient ({ s with
      functors := s.functors ++ [.cancel id (s.covered id)] } : TimerLoop β) := by
  have hpending : ({ s with
      functors := s.functors ++ [.cancel id (s.covered id)] } : TimerLoop β).pendingNumbers =
        s.pendingNumbers := by
    simp [pendingNumbers, TimerFunctor.addNumber]
  refine ⟨hgood, hpending ▸ h.nodup, hpending ▸ h.pending, hpending ▸ h.filed,
    fun k id' hmem => ?_, h.ordered.append_cancel fun k hk => mem_covered.mp hk, fun k hk => ?_, h.log⟩
  · obtain ⟨hvalid, hlt, harrived, hqueued, hnamed⟩ := h.returned k id' hmem
    refine ⟨hvalid, hlt, harrived, fun id'' deadline action hin => ?_, hnamed⟩
    rcases List.mem_append.mp hin with hin | hin
    · exact hqueued id'' deadline action hin
    · cases List.mem_singleton.mp hin
  · obtain ⟨hlt, hnot, hfiled⟩ := h.cancelled k hk
    exact ⟨hlt, hpending ▸ hnot, hfiled⟩

/-- The loop runs a queued addition. -/
theorem Obedient.runAdd (h : Obedient s) {env : AddEnv} {number : Nat} {id : TimerId}
    {deadline : Int} {action : β} {functors : List (TimerFunctor β)}
    (hhead : s.functors = .add number id deadline action :: functors)
    (hgood : Good ({ s with
      queue := (s.queue.addTimerInLoop deadline (number, action) id.value env).2
      clock := env.armNow
      functors := functors } : TimerLoop β)) :
    Obedient ({ s with
      queue := (s.queue.addTimerInLoop deadline (number, action) id.value env).2
      clock := env.armNow
      functors := functors } : TimerLoop β) := by
  have hsplit : s.pendingNumbers.Perm
      (number :: (s.arriving.map (·.number) ++ functors.filterMap TimerFunctor.addNumber)) := by
    simp only [pendingNumbers, hhead, List.filterMap_cons, TimerFunctor.addNumber]
    exact List.perm_middle
  obtain ⟨hnot, hnodup⟩ := List.nodup_cons.mp (hsplit.nodup_iff.mp h.nodup)
  have hsub : ∀ k, k ∈ s.arriving.map (·.number) ++ functors.filterMap TimerFunctor.addNumber →
      k ∈ s.pendingNumbers := fun k hk => hsplit.symm.subset (List.mem_cons_of_mem _ hk)
  have hnumber : number ∈ s.pendingNumbers := hsplit.symm.subset List.mem_cons_self
  have hid : id.value ∈ s.pendingIds := by simp [pendingIds, hhead, TimerFunctor.addId]
  have hfiled : ∀ i f,
      (s.queue.addTimerInLoop deadline (number, action) id.value env).2.filed i = some f →
        s.queue.filed i = some f ∨ f.timer.action.1 = number ∧ f.timer.externalId = id.value := by
    intro i f hf
    exact (h.filed_add (h.good.freshExternal hid) hf).imp_right fun hnew => ⟨hnew.1, hnew.2.1⟩
  refine ⟨hgood, hnodup, fun k hk => h.pending k (hsub k hk), fun i f hf => ?_,
    fun k id' hmem => ?_, ?_, fun k hk => ?_, h.log⟩
  · rcases hfiled i f hf with hold | ⟨hnew, -⟩
    · obtain ⟨hlt, hout⟩ := h.filed i f hold
      exact ⟨hlt, fun hin => hout (hsub _ hin)⟩
    · rw [hnew]
      exact ⟨h.pending number hnumber, hnot⟩
  · obtain ⟨hvalid, hlt, harrived, hqueued, hnamed⟩ := h.returned k id' hmem
    refine ⟨hvalid, hlt, harrived, fun id'' deadline' action' hin => ?_, fun i f hf hk => ?_⟩
    · exact hqueued id'' deadline' action' (hhead ▸ List.mem_cons_of_mem _ hin)
    · rcases hfiled i f hf with hold | ⟨hnew, hext⟩
      · exact hnamed i f hold hk
      · obtain rfl : number = k := hnew.symm.trans hk
        obtain rfl := hqueued id deadline action (hhead ▸ List.mem_cons_self)
        have hlarge := (h.good.pending _ hid).1
        exact .inr ⟨by omega, hext.symm⟩
  · have hordered := h.ordered
    rw [hhead] at hordered
    exact hordered
  · obtain ⟨hlt, hout, hgone⟩ := h.cancelled k hk
    refine ⟨hlt, fun hin => hout (hsub k hin), fun i f hf => ?_⟩
    rcases hfiled i f hf with hold | ⟨hnew, -⟩
    · exact hgone i f hold
    · rw [hnew]
      rintro rfl
      exact hout hnumber

/-- The loop runs a queued cancellation. -/
theorem Obedient.runCancel (h : Obedient s) {id : TimerId} {covered : List Nat}
    {functors : List (TimerFunctor β)} (hhead : s.functors = .cancel id covered :: functors) :
    Obedient ({ s with functors := functors }.cancelNow id covered) := by
  have hordered := h.ordered
  rw [hhead] at hordered
  have hpending : ({ s with functors := functors } : TimerLoop β).pendingNumbers =
      s.pendingNumbers := by
    rw [pendingNumbers, pendingNumbers, hhead]
    rfl
  have hgood : Good ({ s with functors := functors } : TimerLoop β) := by
    refine h.good.of_fewer h.good.sound rfl ?_ fun i f hf => ⟨f, hf, rfl⟩
    simp only [pendingIds, hhead]
    exact (List.Sublist.refl _).append ((List.sublist_cons_self _ _).filterMap _)
  have hrest : Obedient ({ s with functors := functors } : TimerLoop β) := by
    refine ⟨hgood, hpending ▸ h.nodup, hpending ▸ h.pending, hpending ▸ h.filed,
      fun k id' hmem => ?_, hordered.2, fun k hk => ?_, h.log⟩
    · obtain ⟨hvalid, hlt, harrived, hqueued, hnamed⟩ := h.returned k id' hmem
      refine ⟨hvalid, hlt, harrived, fun id'' deadline action hin => ?_, hnamed⟩
      exact hqueued id'' deadline action (hhead ▸ List.mem_cons_of_mem _ hin)
    · obtain ⟨hlt, hnot, hfiled⟩ := h.cancelled k hk
      exact ⟨hlt, hpending ▸ hnot, hfiled⟩
  exact hrest.cancelNow hordered.1

theorem Obedient.step (h : Obedient s) (hcond : CancelsSettled s l) (hstep : s.step l = some s') :
    Obedient s' := by
  have hgood := h.good.step hstep
  cases stepped_of_step hstep with
  | elapse => exact h.of_fewer hgood rfl rfl rfl rfl rfl (fun _ f hf => ⟨f, hf, rfl⟩) h.log
  | addTimer => exact h.addNow hgood
  | @cancel id huser =>
    refine h.cancelNow fun k hk => ⟨mem_covered.mp hk, fun hin => ?_⟩
    obtain ⟨id', deadline, action, hmem⟩ := mem_filterMap_addNumber.mp hin
    have heq := (h.returned k id (mem_covered.mp hk)).queued id' deadline action hmem
    exact hcond _ hmem (by rw [heq]; rfl)
  | remoteAddTimer => exact h.remoteAddTimer (fun _ => rfl) hgood
  | remoteQueue hcall => exact h.remoteQueue hcall hgood
  | remoteCancel => exact h.remoteCancel hgood
  | remoteCancelInvalid => exact h
  | runAdd hidle hsync harm hhead => exact h.runAdd hhead hgood
  | runCancel hidle hhead => exact h.runCancel hhead
  | read => exact h.of_fewer hgood rfl rfl rfl rfl rfl (fun _ f hf => ⟨f, hf, rfl⟩) h.log
  | finishRead =>
    refine h.of_fewer hgood rfl rfl rfl rfl rfl (fun i f hf => ⟨f, ?_, rfl⟩) h.log
    rw [← hf]
    show _ = s.queue.finishRead.filed i
    rw [finishRead_eq]
    rfl
  | advanceTick hcontrol =>
    have hsound := h.good.sound
    rw [hcontrol] at hsound
    obtain ⟨-, hsame, -⟩ := hsound.of_advanceTick
    exact h.of_fewer hgood rfl rfl rfl rfl rfl (fun i f hf => TimerRun.timer_of_sameTimers hsame hf)
      h.log
  | drained => exact h.of_fewer hgood rfl rfl rfl rfl rfl (fun _ f hf => ⟨f, hf, rfl⟩) h.log
  | replaced hcontrol hexpire =>
    have hsound := h.good.sound
    rw [hcontrol] at hsound
    obtain ⟨-, hsame, -⟩ := hsound.of_replaced hexpire
    exact h.of_fewer hgood rfl rfl rfl rfl rfl (fun i f hf => TimerRun.timer_of_sameTimers hsame hf)
      h.log
  | dueEmpty hcontrol hexpire =>
    have hsound := h.good.sound
    rw [hcontrol] at hsound
    obtain ⟨-, -, i, f, -, -, -, hsome, -⟩ := hsound.of_due hexpire
    cases hsome
  | @due b r number deadline action queue hcontrol hexpire =>
    have hsound := h.good.sound
    rw [hcontrol] at hsound
    obtain ⟨-, hclock, i, f, hf, -, -, haction, hfiled, -⟩ := hsound.of_due hexpire
    refine h.of_fewer hgood rfl rfl rfl rfl rfl (fun j g hg => ⟨g, ?_, rfl⟩) fun event hmem => ?_
    · rw [hfiled] at hg
      split at hg
      · cases hg
      · exact hg
    · rcases List.mem_append.mp hmem with hold | hnew
      · exact h.log event hold
      · obtain rfl := List.mem_singleton.mp hnew
        have hnumber : f.timer.action.1 = number := by rw [← Option.some.inj haction]
        refine decide_eq_false fun hin => ?_
        exact (h.cancelled number hin).filed i f hf hnumber
  | actionReturns => exact h.of_fewer hgood rfl rfl rfl rfl rfl (fun _ f hf => ⟨f, hf, rfl⟩) h.log

/-- No action is invoked after a cancellation of its timer has taken effect, in a run in which
`Cancel` is not called on the loop thread while the addition of its timer is queued. -/
theorem cancelled_never_invoked (epoch : Int) (steps : List (LoopStep β))
    (hcond : Transition.Meets step CancelsSettled (start epoch) steps)
    (hrun : (start epoch).run steps = some s) : ∀ event ∈ s.log, event.cancelled = false :=
  (Transition.invariant_run (I := Obedient) (fun _ _ _ h hc hs => h.step hc hs) (.start epoch) hcond
    hrun).log

/-- Two timers are added on another thread, which cancels one of them; the loop cancels neither. -/
theorem cancelled_never_invoked_remote :
    ∃ s : TimerLoop Unit,
      (start 0).run [.remoteAddTimer 1000000 (), .remoteAddTimer 1000000 (), .remoteQueue 1,
        .remoteQueue 0, .remoteCancel ⟨2 ^ 63 + 1, by decide⟩, .runFunctor ⟨0, 0, false, false⟩,
        .runFunctor ⟨0, 0, false, false⟩, .runFunctor ⟨0, 0, false, false⟩, .elapse 1000000,
        .read 1, .tick, .expire] = some s ∧
      s.cancelled = [0] ∧ s.log.map (·.number) = [1] ∧ ∀ event ∈ s.log, event.cancelled = false :=
  ⟨_, rfl, rfl, rfl, cancelled_never_invoked 0
    [.remoteAddTimer 1000000 (), .remoteAddTimer 1000000 (), .remoteQueue 1, .remoteQueue 0,
      .remoteCancel ⟨2 ^ 63 + 1, by decide⟩, .runFunctor ⟨0, 0, false, false⟩,
      .runFunctor ⟨0, 0, false, false⟩, .runFunctor ⟨0, 0, false, false⟩, .elapse 1000000, .read 1,
      .tick, .expire] (by decide) rfl⟩

/-- The loop thread cancels a timer whose addition is still queued. -/
theorem invoked_after_cancellation :
    ((start 0).run [.remoteAddTimer 1000000 (), .remoteQueue 0,
      .cancel ⟨2 ^ 63 + 1, by decide⟩, .runFunctor ⟨0, 0, false, false⟩, .elapse 1000000, .read 1,
      .tick, .expire]).map TimerLoop.log = some [⟨0, 1000000, (), 1000000, true⟩] ∧
      ¬ ∀ (steps : List (LoopStep Unit)) (s : TimerLoop Unit), (start 0).run steps = some s →
        ∀ event ∈ s.log, event.cancelled = false := by
  have hlog : ((start 0).run [.remoteAddTimer 1000000 (), .remoteQueue 0,
      .cancel ⟨2 ^ 63 + 1, by decide⟩, .runFunctor ⟨0, 0, false, false⟩, .elapse 1000000, .read 1,
      .tick, .expire]).map TimerLoop.log = some [⟨0, 1000000, (), 1000000, true⟩] := by decide
  refine ⟨hlog, fun h => ?_⟩
  obtain ⟨s, hrun, heq⟩ := Option.map_eq_some_iff.mp hlog
  have hfalse := h _ s hrun ⟨0, 1000000, (), 1000000, true⟩ (by simp [heq])
  cases hfalse

end TimerLoop

end NebulaRpc.Net
