import NebulaRpc.Net.TimerRepresentation

/-!
# Stale timer ids

The id of a timer of the loop thread is a slot and the generation in which the timer stands there;
the id of a timer of another thread is looked up in a map. Slots are used again at once, so that a
stale id mostly leads to a slot in use. Only `AllocateSlot` moves a generation on, and it takes
`2 ^ 32 - 1` allocations of a slot until a generation comes back; external ids are drawn in sequence.
-/

namespace NebulaRpc.Net

variable {α β : Type*}

namespace TimerQueue

variable {q q' q'' : TimerQueue α} {i j : Nat}

/-! ## Generations -/

/-- The slot keeps its generation and is not taken into use. -/
structure Keeps (j : Nat) (q q' : TimerQueue α) : Prop where
  generation : (q'.slots j).generation = (q.slots j).generation
  active : (q'.slots j).active = true → (q.slots j).active = true
  slotCount : q'.slotCount = q.slotCount

theorem Keeps.refl (j : Nat) (q : TimerQueue α) : Keeps j q q := ⟨rfl, fun h => h, rfl⟩

theorem Keeps.trans (h : Keeps j q q') (h' : Keeps j q' q'') : Keeps j q q'' :=
  ⟨h'.generation.trans h.generation, fun hactive => h.active (h'.active hactive),
    h'.slotCount.trans h.slotCount⟩

theorem Keeps.of_slots (h : Keeps j q q') (hslots : q''.slots = q'.slots)
    (hcount : q''.slotCount = q'.slotCount) : Keeps j q q'' := by
  refine ⟨?_, ?_, hcount.trans h.slotCount⟩
  · rw [hslots]; exact h.generation
  · rw [hslots]; exact h.active

theorem Keeps.setSlot (h : Keeps j q q') {slot : TimerSlot α}
    (hgen : slot.generation = (q'.slots i).generation)
    (hactive : slot.active = true → (q'.slots i).active = true) :
    Keeps j q (q'.setSlot i slot) := by
  refine h.trans ?_
  by_cases hj : j = i
  · subst hj
    refine ⟨?_, ?_, rfl⟩ <;> simpa [TimerQueue.setSlot]
  · refine ⟨?_, ?_, rfl⟩ <;> simp [TimerQueue.setSlot, hj]

theorem Keeps.setBucket (h : Keeps j q q') (level bucket : Nat) (b : TimerBucket) :
    Keeps j q (q'.setBucket level bucket b) := h.of_slots rfl rfl

theorem Keeps.releaseSlot (h : Keeps j q q') (i : Nat) : Keeps j q (q'.releaseSlot i) := by
  unfold TimerQueue.releaseSlot
  exact Keeps.of_slots (h.setSlot (by rfl) (by rintro ⟨⟩)) rfl rfl

theorem Keeps.linkTimerSlot (h : Keeps j q q') (i level bucket : Nat) :
    Keeps j q (q'.linkTimerSlot i level bucket) := by
  unfold TimerQueue.linkTimerSlot
  dsimp only
  apply Keeps.setBucket
  split
  · exact (h.setSlot (by rfl) (by exact fun h => h)).setSlot (by rfl) (by exact fun h => h)
  · exact (h.setSlot (by rfl) (by exact fun h => h)).setBucket _ _ _

theorem Keeps.unlinkTimerSlot (h : Keeps j q q') (i : Nat) :
    Keeps j q (q'.unlinkTimerSlot i) := by
  unfold TimerQueue.unlinkTimerSlot
  dsimp only
  refine Keeps.setSlot ?_ (by rfl) (by exact fun h => h)
  cases (q'.slots i).wheelPrev with
  | some p =>
    cases (q'.slots i).wheelNext with
    | some n =>
      refine Keeps.setSlot ?_ (by rfl) (by exact fun h => h)
      exact h.setSlot (by rfl) (by exact fun h => h)
    | none =>
      refine Keeps.setBucket ?_ _ _ _
      exact h.setSlot (by rfl) (by exact fun h => h)
  | none =>
    cases (q'.slots i).wheelNext with
    | some n =>
      refine Keeps.setSlot ?_ (by rfl) (by exact fun h => h)
      exact h.setBucket _ _ _
    | none =>
      refine Keeps.setBucket ?_ _ _ _
      exact h.setBucket _ _ _

theorem Keeps.placeTimerSlot (h : Keeps j q q') (i expiryTick : Nat) :
    Keeps j q (q'.placeTimerSlot i expiryTick) := by
  unfold TimerQueue.placeTimerSlot
  apply Keeps.linkTimerSlot
  exact h.setSlot (by rfl) (by exact fun h => h)

theorem Keeps.scheduleTimerSlot (h : Keeps j q q') (i : Nat) :
    Keeps j q (q'.scheduleTimerSlot i) := h.placeTimerSlot i _

theorem Keeps.removeTimerSlot (h : Keeps j q q') (i : Nat) :
    Keeps j q (q'.removeTimerSlot i) := by
  have hext : Keeps j q (if (q'.slots i).externalTimerId ≠ 0 then
      { q' with externalTimerSlots :=
          Function.update q'.externalTimerSlots (q'.slots i).externalTimerId none }
    else q') := by
    split
    · exact h.of_slots rfl rfl
    · exact h
  unfold TimerQueue.removeTimerSlot
  dsimp only
  split
  · exact h
  · generalize (if (q'.slots i).externalTimerId ≠ 0 then _ else q') = e at hext ⊢
    have hunlink : Keeps j q (if (q'.slots i).wheelLevel ≠ kInvalidWheelLevel then
        e.unlinkTimerSlot i else e) := by
      split
      · exact hext.unlinkTimerSlot i
      · exact hext
    apply Keeps.releaseSlot
    exact hunlink.of_slots rfl rfl

theorem Keeps.disarmTimerFd (h : Keeps j q q') : Keeps j q q'.disarmTimerFd := by
  unfold TimerQueue.disarmTimerFd
  split
  · exact h.of_slots rfl rfl
  · exact h

theorem keeps_cancelInLoop (q : TimerQueue α) (id : TimerId) : Keeps j q (q.cancelInLoop id) := by
  unfold cancelInLoop
  split
  · exact .refl j q
  · dsimp only
    split
    · exact ((Keeps.refl j q).removeTimerSlot _).disarmTimerFd
    · exact (Keeps.refl j q).removeTimerSlot _

theorem keeps_finishRead (q : TimerQueue α) : Keeps j q q.finishRead := by
  unfold finishRead
  split
  · exact (Keeps.refl j q).disarmTimerFd
  · exact .refl j q

/-! ## Turning the wheel keeps all generations -/

theorem Keeps.cascadeLoop (h : Keeps j q q') (level fuel : Nat) (next : Option Nat) :
    Keeps j q (TimerQueue.cascadeLoop level fuel next q') := by
  induction fuel generalizing next q' with
  | zero => cases next <;> exact h
  | succ fuel ih =>
    cases next with
    | none => exact h
    | some i =>
      unfold TimerQueue.cascadeLoop
      dsimp only
      split
      · exact ih (h.setSlot (by rfl) (by exact fun h => h)) _
      · split
        · exact ih ((h.unlinkTimerSlot i).linkTimerSlot _ _ _) _
        · exact ih ((h.unlinkTimerSlot i).placeTimerSlot _ _) _

theorem Keeps.cascadeLevel (h : Keeps j q q') (level : Nat) :
    Keeps j q (q'.cascadeLevel level) := h.cascadeLoop level _ _

theorem keeps_advanceTick (q : TimerQueue α) : Keeps j q q.advanceTick := by
  have hif : ∀ {q' : TimerQueue α} (level : Nat), Keeps j q q' →
      Keeps j q (if q'.currentTick % kWheelQuantumTicks level = 0 then q'.cascadeLevel level
        else q') := by
    intro q' level h
    split
    · exact h.cascadeLevel level
    · exact h
  exact hif 1 (hif 2 (hif 3 ((Keeps.refl j q).of_slots rfl rfl)))

theorem keeps_of_replaced {bucket : Nat} (h : q.expireStep bucket = .replaced q') : Keeps j q q' := by
  unfold expireStep at h
  split at h
  · cases h
  · dsimp only at h
    split at h
    · cases h
      exact ((Keeps.refl j q).unlinkTimerSlot _).placeTimerSlot _ _
    · cases h

theorem keeps_of_due {bucket : Nat} {deadline : Int} {action : Option α}
    (h : q.expireStep bucket = .due deadline action q') : Keeps j q q' := by
  unfold expireStep at h
  split at h
  · cases h
  · dsimp only at h
    split at h
    · cases h
    · cases h
      exact ((Keeps.refl j q).setSlot (by rfl) (by exact fun h => h)).removeTimerSlot _

/-! ## Allocations -/

/-- The slot that `AllocateSlot` takes. -/
def allocatedSlot (q : TimerQueue α) : Option Nat :=
  match q.freeSlotHead with
  | some i => some i
  | none => if q.slotCount ≥ kSlotIndexMask then none else some q.slotCount

/-- The generation behind a generation. -/
def nextGeneration (g : Nat) : Nat := if g = 2 ^ 32 - 1 then 1 else g + 1

/-- The slot is allocated, or it keeps its generation and is not taken into use. -/
structure MovesOn (j : Nat) (q q' : TimerQueue α) : Prop where
  slotCount : q.slotCount ≤ q'.slotCount
  generation : j < q.slotCount → q.allocatedSlot = some j →
    (q'.slots j).generation = nextGeneration (q.slots j).generation
  keeps : q.allocatedSlot ≠ some j → (q'.slots j).generation = (q.slots j).generation ∧
    ((q'.slots j).active = true → (q.slots j).active = true)

theorem MovesOn.trans (h : MovesOn j q q') (h' : Keeps j q' q'') : MovesOn j q q'' := by
  refine ⟨h'.slotCount ▸ h.slotCount, fun hlt hj => ?_, fun hj => ?_⟩
  · exact h'.generation.trans (h.generation hlt hj)
  · obtain ⟨hgen, hactive⟩ := h.keeps hj
    exact ⟨h'.generation.trans hgen, fun h => hactive (h'.active h)⟩

theorem allocateSlot_movesOn {deadline : Int} {a : α} {x : Nat}
    (h : q.allocateSlot deadline a x = some (i, q')) : MovesOn j q q' := by
  unfold allocateSlot at h
  dsimp only at h
  split at h
  · next k hhead =>
    cases h
    have hslot : q.allocatedSlot = some i := by simp [allocatedSlot, hhead]
    refine ⟨le_rfl, fun _ hj => ?_, fun hj => ?_⟩
    · obtain rfl : i = j := Option.some.inj (hslot.symm.trans hj)
      simp [setSlot, nextGeneration]
    · have hne : j ≠ i := fun heq => hj (heq ▸ hslot)
      simp [setSlot, hne]
  · next hhead =>
    split at h
    · cases h
    · next hroom =>
      cases h
      have hslot : q.allocatedSlot = some q.slotCount := by simp [allocatedSlot, hhead, hroom]
      refine ⟨Nat.le_succ _, fun hlt hj => ?_, fun hj => ?_⟩
      · obtain rfl : q.slotCount = j := Option.some.inj (hslot.symm.trans hj)
        exact absurd hlt (lt_irrefl _)
      · have hne : j ≠ q.slotCount := fun heq => hj (heq ▸ hslot)
        simp [setSlot, hne]

theorem fst_allocateSlot (q : TimerQueue α) (deadline : Int) (a : α) (x : Nat) :
    (q.allocateSlot deadline a x).map Prod.fst = q.allocatedSlot := by
  unfold allocateSlot allocatedSlot
  dsimp only
  cases q.freeSlotHead with
  | some i => rfl
  | none =>
    dsimp only
    split <;> rfl

theorem Keeps.emplaceExternal (h : Keeps j q q') (x i : Nat) :
    Keeps j q (q'.emplaceExternal x i) := by
  unfold TimerQueue.emplaceExternal
  split
  · exact h
  · exact h.of_slots rfl rfl

theorem Keeps.armTimerFd (h : Keeps j q q') (now : Int) : Keeps j q (q'.armTimerFd now) := by
  unfold TimerQueue.armTimerFd
  dsimp only
  split
  · exact h
  · exact h.of_slots rfl rfl

/-- What `AddTimerInLoop` does once it has allocated a slot. -/
theorem keeps_addTimerInLoop {deadline : Int} {a : α} {x : Nat} {env : AddEnv}
    (halloc : (q.synced env.syncNow).allocateSlot deadline a x = some (i, q')) :
    Keeps j q' (q.addTimerInLoop deadline a x env).2 := by
  have hemplaced : Keeps j q' (if x ≠ 0 then q'.emplaceExternal x i else q') := by
    split
    · exact (Keeps.refl j q').emplaceExternal x i
    · exact .refl j q'
  unfold synced at halloc
  unfold addTimerInLoop
  simp only [halloc]
  generalize (if x ≠ 0 then _ else q') = e at hemplaced ⊢
  let scheduled : TimerQueue α := { e.scheduleTimerSlot i with
    activeTimerCount := (e.scheduleTimerSlot i).activeTimerCount + 1 }
  have hscheduled : Keeps j q' scheduled := (hemplaced.scheduleTimerSlot i).of_slots rfl rfl
  have harmed : Keeps j q' (if scheduled.timerFdArmed then scheduled
      else scheduled.armTimerFd env.armNow) := by
    split
    · exact hscheduled
    · exact hscheduled.armTimerFd _
  split
  · exact (Keeps.refl j q').releaseSlot i
  · split
    · exact hscheduled.removeTimerSlot i
    · split
      · exact harmed
      · exact harmed

/-- `AddTimerInLoop` allocates one slot, and leaves the generations of the others alone. -/
theorem movesOn_addTimerInLoop (q : TimerQueue α) (deadline : Int) (a : α) (x : Nat) (env : AddEnv) :
    MovesOn j q (q.addTimerInLoop deadline a x env).2 := by
  have hsome := fst_allocateSlot (q.synced env.syncNow) deadline a x
  have hslots : (q.synced env.syncNow).slots = q.slots := by rw [synced_eq]
  have hcount : (q.synced env.syncNow).slotCount = q.slotCount := by rw [synced_eq]
  have hslot : (q.synced env.syncNow).allocatedSlot = q.allocatedSlot := by
    rw [synced_eq]
    rfl
  have hmoves : MovesOn j (q.synced env.syncNow) (q.addTimerInLoop deadline a x env).2 := by
    cases halloc : (q.synced env.syncNow).allocateSlot deadline a x with
    | none =>
      have hsame : (q.addTimerInLoop deadline a x env).2 = q.synced env.syncNow := by
        unfold synced at halloc ⊢
        simp only [addTimerInLoop, halloc]
      rw [halloc] at hsome
      rw [hsame]
      refine ⟨le_rfl, fun _ hj => ?_, fun _ => ⟨rfl, fun h => h⟩⟩
      cases hsome.trans hj
    | some taken =>
      obtain ⟨i, q'⟩ := taken
      exact (allocateSlot_movesOn halloc).trans (keeps_addTimerInLoop halloc)
  obtain ⟨hge, hgen, hkeeps⟩ := hmoves
  rw [hslots, hcount, hslot] at hgen
  rw [hslots, hslot] at hkeeps
  exact ⟨hcount ▸ hge, hgen, hkeeps⟩

/-- A timer that `AddTimerInLoop` brings in stands in the slot that it allocated. -/
theorem Coherent.allocatedSlot_eq {B : Nat × Nat → List Nat} (h : Coherent q B) {deadline : Int}
    {a : α} {x : Nat} (hx : FreshExternal q x) {env : AddEnv} {f : Filed α}
    (hf : (q.addTimerInLoop deadline a x env).2.filed j = some f) :
    q.filed j = some f ∨ q.allocatedSlot = some j := by
  by_contra hnot
  obtain ⟨hold, hslot⟩ := not_or.mp hnot
  have hactive := ((movesOn_addTimerInLoop q deadline a x env).keeps hslot).2
    (TimerSlot.filed_eq_some_iff.mp hf).1
  have hspec := h.addTimerInLoop deadline a hx env
  generalize q.addTimerInLoop deadline a x env = result at hspec hf
  obtain ⟨_ | id, q'⟩ := result
  · exact hold (hspec.filed j ▸ hf)
  · obtain ⟨i, g, hadd⟩ := hspec
    rw [hadd.filed] at hf
    split at hf
    · next heq =>
      subst heq
      rw [h.filed_eq_none_iff.mp hadd.vacant] at hactive
      cases hactive
    · exact hold hf

end TimerQueue

/-- The call and the external id of a queued addition. -/
def TimerFunctor.holder : TimerFunctor β → Option (Nat × Nat)
  | .add number id _ _ => some (number, id.value)
  | .cancel .. => none

namespace TimerLoop

open TimerQueue

variable {s s' : TimerLoop β} {l : QueueStep β}

/-- The calls whose timers are not yet in the queue, with their external ids. -/
def holders (s : TimerLoop β) : List (Nat × Nat) :=
  s.arriving.map (fun call => (call.number, call.id.value)) ++
    s.functors.filterMap TimerFunctor.holder

/-- The slot that a step allocates. -/
def allocatedSlot (s : TimerLoop β) : QueueStep β → Option Nat
  | .loop (.addTimer ..) | .escape .. => s.queue.allocatedSlot
  | .loop (.runFunctor _) =>
    match s.functors with
    | .add .. :: _ => s.queue.allocatedSlot
    | _ => none
  | _ => none

/-- How often the slot is allocated in a run. -/
def allocations (i : Nat) (s : TimerLoop β) (steps : List (QueueStep β)) : Nat :=
  Transition.count queueStep (fun s l => s.allocatedSlot l = some i) s steps

/-- What a step does to the generation of a slot. -/
structure Turns (j : Nat) (s : TimerLoop β) (l : QueueStep β) (s' : TimerLoop β) : Prop where
  slotCount : s.queue.slotCount ≤ s'.queue.slotCount
  generation : j < s.queue.slotCount → s.allocatedSlot l = some j →
    (s'.queue.slots j).generation = nextGeneration (s.queue.slots j).generation
  keeps : s.allocatedSlot l ≠ some j →
    (s'.queue.slots j).generation = (s.queue.slots j).generation

theorem Turns.of_keeps {j : Nat} (hslot : s.allocatedSlot l = none)
    (h : Keeps j s.queue s'.queue) : Turns j s l s' := by
  refine ⟨h.slotCount.ge, fun _ hj => ?_, fun _ => h.generation⟩
  cases hslot.symm.trans hj

theorem Turns.of_movesOn {j : Nat} (hslot : s.allocatedSlot l = s.queue.allocatedSlot)
    (h : MovesOn j s.queue s'.queue) : Turns j s l s' := by
  refine ⟨h.slotCount, fun hlt hj => h.generation hlt (hslot ▸ hj), fun hj => ?_⟩
  exact (h.keeps (hslot ▸ hj)).1

theorem keeps_cancelNow {j : Nat} (s : TimerLoop β) (id : TimerId) (covered : List Nat) :
    Keeps j s.queue (s.cancelNow id covered).queue := by
  unfold cancelNow
  dsimp only
  split
  · exact keeps_cancelInLoop s.queue id
  · exact .refl j s.queue

theorem turns_of_step {j : Nat} {l : LoopStep β} (hstep : s.step l = some s') :
    Turns j s (.loop l) s' := by
  cases stepped_of_step hstep with
  | addTimer => exact .of_movesOn rfl (movesOn_addTimerInLoop ..)
  | cancel => exact .of_keeps rfl (keeps_cancelNow _ _ _)
  | runAdd hidle hsync harm hhead =>
    apply Turns.of_movesOn
    · simp [allocatedSlot, hhead]
    · exact movesOn_addTimerInLoop ..
  | @runCancel _ id covered functors hidle hhead =>
    apply Turns.of_keeps
    · simp [allocatedSlot, hhead]
    · exact keeps_cancelNow { s with functors := functors } id covered
  | finishRead => exact .of_keeps rfl (keeps_finishRead s.queue)
  | advanceTick => exact .of_keeps rfl (keeps_advanceTick s.queue)
  | replaced _ hexpire => exact .of_keeps rfl (keeps_of_replaced hexpire)
  | dueEmpty _ hexpire => exact .of_keeps rfl (keeps_of_due hexpire)
  | due _ hexpire => exact .of_keeps rfl (keeps_of_due hexpire)
  | _ => exact .of_keeps rfl ((Keeps.refl j s.queue).of_slots rfl rfl)

theorem Turns.of_step {j : Nat} (hids : s.ExternalIdsLast l) (hstep : s.queueStep l = some s') :
    Turns j s l s' := by
  cases l with
  | loop l => exact turns_of_step (step_eq_of_queueStep hids ▸ hstep)
  | escape deadline action env =>
    obtain ⟨-, -, -, rfl⟩ := addNow_of_escape hstep
    exact .of_movesOn rfl (movesOn_addTimerInLoop ..)

/-! ## What a step does to timers and ids -/

/-- A timer of the later state was there before, or has just come into the slot that the step
allocates. -/
def NewFiled (s : TimerLoop β) (l : QueueStep β) (s' : TimerLoop β)
    (fresh : Filed (Nat × β) → Prop) : Prop :=
  ∀ j f, s'.queue.filed j = some f → (∃ g, s.queue.filed j = some g ∧ g.timer = f.timer) ∨
    s.allocatedSlot l = some j ∧ fresh f

/-- The steps by what they do to calls, ids and timers. -/
inductive Effect (s : TimerLoop β) (l : QueueStep β) (s' : TimerLoop β) : Prop
  /-- no call of `AddTimer` begins -/
  | quiet (hregistered : s'.registered = s.registered)
      (hnext : s'.queue.nextExternalTimerId = s.queue.nextExternalTimerId)
      (hholders : s'.holders ⊆ s.holders)
      (hreturned : ∀ k id, (k, id) ∈ s'.returned →
        (k, id) ∈ s.returned ∨ (k, id.value) ∈ s.holders)
      (hfiled : NewFiled s l s' fun f => (f.timer.action.1, f.timer.externalId) ∈ s.holders)
  /-- a call on the loop thread -/
  | own (hregistered : s'.registered = s.registered + 1)
      (hnext : s'.queue.nextExternalTimerId = s.queue.nextExternalTimerId)
      (hholders : s'.holders = s.holders)
      (hreturned : ∀ k id, (k, id) ∈ s'.returned → (k, id) ∈ s.returned ∨ k = s.registered ∧
        ∃ j f, s'.queue.filed j = some f ∧ f.timer.action.1 = k ∧ f.timer.slotId = id)
      (hfiled : NewFiled s l s' fun f =>
        f.timer.action.1 = s.registered ∧ f.timer.externalId = 0)
  /-- a call on another thread -/
  | drawn (hregistered : s'.registered = s.registered + 1)
      (hnext : s'.queue.nextExternalTimerId = s.queue.nextExternalTimerId + 1)
      (hholders : s'.holders ⊆ (s.registered, 2 ^ 63 + s.queue.nextExternalTimerId) :: s.holders)
      (hreturned : s'.returned = s.returned)
      (hfiled : s'.queue.filed = s.queue.filed)

theorem NewFiled.of_old {fresh : Filed (Nat × β) → Prop} (h : ∀ j f, s'.queue.filed j = some f →
    ∃ g, s.queue.filed j = some g ∧ g.timer = f.timer) : NewFiled s l s' fresh :=
  fun j f hf => .inl (h j f hf)

/-- Steps of the queue that bring no timer into it. -/
theorem Effect.of_fewer (hregistered : s'.registered = s.registered)
    (hnext : s'.queue.nextExternalTimerId = s.queue.nextExternalTimerId)
    (hholders : s'.holders = s.holders) (hreturned : s'.returned = s.returned)
    (hfiled : ∀ j f, s'.queue.filed j = some f → ∃ g, s.queue.filed j = some g ∧ g.timer = f.timer) :
    Effect s l s' := by
  refine .quiet hregistered hnext ?_ ?_ (.of_old hfiled)
  · simp [hholders]
  · intro k id hmem
    exact .inl (hreturned ▸ hmem)

theorem Good.newFiled (h : Good s) {deadline : Int} {a : Nat × β} {x : Nat} {env : AddEnv}
    (hx : s.queue.FreshExternal x) (hslot : s.allocatedSlot l = s.queue.allocatedSlot)
    (hqueue : s'.queue = (s.queue.addTimerInLoop deadline a x env).2) :
    NewFiled s l s' fun f => f.timer.action = a ∧ f.timer.externalId = x := by
  obtain ⟨B, hco⟩ := h.sound.coherent
  intro j f hf
  rw [hqueue] at hf
  obtain hold | hnew := hco.allocatedSlot_eq hx hf
  · exact .inl ⟨f, hold, rfl⟩
  · obtain hold | ⟨hext, haction, -⟩ := h.filed_add hx hf
    · exact .inl ⟨f, hold, rfl⟩
    · exact .inr ⟨hslot ▸ hnew, haction, hext⟩

theorem NewFiled.mono {fresh fresh' : Filed (Nat × β) → Prop} (h : NewFiled s l s' fresh)
    (himp : ∀ f, fresh f → fresh' f) : NewFiled s l s' fresh' := by
  intro j f hf
  exact (h j f hf).imp_right fun hnew => ⟨hnew.1, himp f hnew.2⟩

theorem filed_cancelNow {b : Option Nat} (h : s.queue.Sound b) (id : TimerId) (covered : List Nat) :
    ∀ j f, (s.cancelNow id covered).queue.filed j = some f → s.queue.filed j = some f := by
  intro j f hf
  unfold cancelNow at hf
  dsimp only at hf
  split at hf
  · obtain ⟨B, hco⟩ := h.coherent
    obtain ⟨B', hcut⟩ := hco.cancelInLoop h.idle id
    rw [hcut.filed, Option.filter_eq_some_iff] at hf
    exact hf.1
  · exact hf

theorem next_cancelNow {b : Option Nat} (h : s.queue.Sound b) (id : TimerId) (covered : List Nat) :
    (s.cancelNow id covered).queue.nextExternalTimerId = s.queue.nextExternalTimerId := by
  unfold cancelNow
  dsimp only
  split
  · obtain ⟨B, hco⟩ := h.coherent
    obtain ⟨B', hcut⟩ := hco.cancelInLoop h.idle id
    exact hcut.nextExternalTimerId
  · rfl

/-- The timer behind the id that an `AddTimer` on the loop thread returns. -/
theorem Good.exists_of_addTimer (h : Good s) {deadline : Int} {a : Nat × β} {env : AddEnv}
    {id : TimerId} (hid : (s.queue.addTimerInLoop deadline a 0 env).1 = some id) :
    ∃ j f, (s.queue.addTimerInLoop deadline a 0 env).2.filed j = some f ∧ f.timer.action = a ∧
      f.timer.slotId = id := by
  obtain ⟨B, hco⟩ := h.sound.coherent
  have hspec := hco.addTimerInLoop deadline a (.inl rfl) env
  generalize s.queue.addTimerInLoop deadline a 0 env = result at hspec hid ⊢
  obtain ⟨_ | id', q'⟩ := result
  · cases hid
  · obtain rfl : id' = id := Option.some.inj hid
    obtain ⟨i, f, hadd⟩ := hspec
    refine ⟨i, f, by rw [hadd.filed, if_pos rfl], hadd.action_eq, ?_⟩
    rw [← hadd.id_eq, Timer.id, hadd.externalId_eq, if_neg (not_not.mpr rfl)]

theorem Good.effect_addNow (h : Good s) {deadline : Int} {action : β} {env : AddEnv}
    (hslot : s.allocatedSlot l = s.queue.allocatedSlot) :
    Effect s l (s.addNow deadline action env) := by
  have hx : s.queue.FreshExternal 0 := .inl rfl
  refine .own rfl (h.next_add deadline _ hx env) rfl ?_ ?_
  · intro k id hmem
    obtain hnew | hold := List.mem_append.mp hmem
    · simp only [List.mem_map, Option.mem_toList, Prod.mk.injEq] at hnew
      obtain ⟨id, hid, rfl, rfl⟩ := hnew
      obtain ⟨j, f, hf, haction, hslotId⟩ := h.exists_of_addTimer hid
      exact .inr ⟨rfl, j, f, hf, by rw [haction], hslotId⟩
    · exact .inl hold
  · apply (h.newFiled hx hslot rfl).mono
    rintro f ⟨haction, hext⟩
    exact ⟨by rw [haction], hext⟩

theorem Good.effect_step (h : Good s) {l : LoopStep β} (hstep : s.step l = some s') :
    Effect s (.loop l) s' := by
  have hsound := h.sound
  cases stepped_of_step hstep with
  | addTimer => exact h.effect_addNow rfl
  | cancel =>
    exact .of_fewer rfl (next_cancelNow hsound _ _) rfl rfl fun j f hf =>
      ⟨f, filed_cancelNow hsound _ _ j f hf, rfl⟩
  | remoteAddTimer hroom =>
    refine .drawn rfl rfl ?_ rfl rfl
    simp [holders, value_makeExternalTimerId hroom]
  | @remoteQueue index call hcall =>
    have hmem := List.mem_of_getElem? hcall
    refine .quiet rfl rfl ?_ ?_ (.of_old fun j f hf => ⟨f, hf, rfl⟩)
    · intro p hp
      simp only [holders, List.filterMap_append, List.mem_append] at hp ⊢
      obtain hp | hp | hp := hp
      · exact .inl (((List.eraseIdx_sublist _ _).map _).subset hp)
      · exact .inr hp
      · obtain rfl : p = (call.number, call.id.value) := by
          simpa [TimerFunctor.holder] using hp
        exact .inl (List.mem_map_of_mem hmem)
    · intro k id hin
      obtain heq | hold := List.mem_cons.mp hin
      · cases heq
        exact .inr (List.mem_append_left _ (List.mem_map.mpr ⟨call, hmem, rfl⟩))
      · exact .inl hold
  | remoteCancel =>
    refine .of_fewer rfl rfl ?_ rfl fun j f hf => ⟨f, hf, rfl⟩
    simp [holders, TimerFunctor.holder]
  | @runAdd env number id deadline action functors hidle hsync harm hhead =>
    have hmem : (number, id.value) ∈ s.holders := by simp [holders, hhead, TimerFunctor.holder]
    have hpending : id.value ∈ s.pendingIds := by simp [pendingIds, hhead, TimerFunctor.addId]
    have hx := h.freshExternal hpending
    have hslot : s.allocatedSlot (.loop (.runFunctor env)) = s.queue.allocatedSlot := by
      simp [allocatedSlot, hhead]
    refine .quiet rfl (h.next_add deadline _ hx env) ?_ (fun _ _ => .inl) ?_
    · simp [holders, hhead, TimerFunctor.holder]
    · apply (h.newFiled hx hslot rfl).mono
      rintro f ⟨haction, hext⟩
      rw [haction, hext]
      exact hmem
  | @runCancel env id covered functors hidle hhead =>
    refine .of_fewer rfl (next_cancelNow (s := { s with functors := functors }) hsound _ _) ?_ rfl
      fun j f hf => ⟨f, filed_cancelNow (s := { s with functors := functors }) hsound _ _ j f hf, rfl⟩
    simp only [holders, hhead, List.filterMap_cons, TimerFunctor.holder]
    rfl
  | finishRead =>
    have heq := finishRead_eq s.queue
    refine .of_fewer rfl ?_ rfl rfl fun j f hf => ⟨f, ?_, rfl⟩
    · show s.queue.finishRead.nextExternalTimerId = _
      rw [heq]
    · rw [← hf]
      show _ = s.queue.finishRead.filed j
      rw [heq]
      rfl
  | advanceTick hcontrol =>
    rw [hcontrol] at hsound
    obtain ⟨-, hsame, -⟩ := hsound.of_advanceTick
    exact .of_fewer rfl hsame.clock.nextExternalTimerId rfl rfl fun j f hf =>
      TimerRun.timer_of_sameTimers hsame hf
  | replaced hcontrol hexpire =>
    rw [hcontrol] at hsound
    obtain ⟨-, hsame, -⟩ := hsound.of_replaced hexpire
    exact .of_fewer rfl hsame.clock.nextExternalTimerId rfl rfl fun j f hf =>
      TimerRun.timer_of_sameTimers hsame hf
  | dueEmpty hcontrol hexpire =>
    rw [hcontrol] at hsound
    obtain ⟨-, -, i, f, -, -, -, hsome, -⟩ := hsound.of_due hexpire
    cases hsome
  | due hcontrol hexpire =>
    rw [hcontrol] at hsound
    obtain ⟨-, hclock, i, f, -, -, -, -, hfiled, -⟩ := hsound.of_due hexpire
    refine .of_fewer rfl hclock.nextExternalTimerId rfl rfl fun j g hg => ⟨g, ?_, rfl⟩
    rw [hfiled] at hg
    split at hg
    · cases hg
    · exact hg
  | _ => exact .of_fewer rfl rfl rfl rfl fun j f hf => ⟨f, hf, rfl⟩

theorem Intact.effect (h : Intact s) (hids : s.ExternalIdsLast l)
    (hstep : s.queueStep l = some s') : Effect s l s' := by
  cases l with
  | loop l => exact h.good.effect_step (step_eq_of_queueStep hids ▸ hstep)
  | escape deadline action env =>
    obtain ⟨-, -, -, rfl⟩ := addNow_of_escape hstep
    have heffect : Effect s (.escape deadline action env) (s.addNow deadline action env) :=
      h.good.effect_addNow rfl
    cases heffect with
    | quiet h₁ h₂ h₃ h₄ h₅ => exact .quiet h₁ h₂ h₃ h₄ h₅
    | own h₁ h₂ h₃ h₄ h₅ => exact .own h₁ h₂ h₃ h₄ h₅
    | drawn h₁ h₂ h₃ h₄ h₅ => exact .drawn h₁ h₂ h₃ h₄ h₅

/-! ## External ids -/

theorem Good.slotId_range (h : Good s) {j : Nat} {f : Filed (Nat × β)}
    (hf : s.queue.filed j = some f) : f.timer.slotId.valid = true ∧ f.timer.slotId.value < 2 ^ 63 := by
  obtain ⟨B, hco⟩ := h.sound.coherent
  obtain ⟨hactive, -, -, -, hid, -⟩ := TimerSlot.filed_eq_some_iff.mp hf
  have hvalue := value_makeSlotTimerId (hco.stored.succ_lt hactive) (hco.stored.generation_lt j)
  refine ⟨?_, hid ▸ hco.stored.value_slotTimerIdOf_lt hactive⟩
  simp only [TimerId.valid, hid, hvalue, ne_eq, decide_eq_true_eq]
  omega

/-- Which external id was drawn for which call; a call on the loop thread draws none. -/
structure Issued (drawn : Nat → Nat) (s : TimerLoop β) : Prop where
  range : ∀ k, drawn k ≠ 0 → k < s.registered ∧ 2 ^ 63 ≤ drawn k ∧
    drawn k < 2 ^ 63 + s.queue.nextExternalTimerId
  injective : ∀ k k', drawn k ≠ 0 → drawn k = drawn k' → k = k'
  holders : ∀ k x, (k, x) ∈ s.holders → drawn k = x ∧ x ≠ 0
  filed : ∀ j f, s.queue.filed j = some f →
    f.timer.action.1 < s.registered ∧ drawn f.timer.action.1 = f.timer.externalId
  returned : ∀ k id, (k, id) ∈ s.returned → k < s.registered ∧ id.valid = true ∧
    if drawn k = 0 then id.value < 2 ^ 63 else id.value = drawn k

theorem Issued.start (epoch : Int) : Issued (fun _ => 0) (start epoch : TimerLoop β) := by
  refine ⟨by simp, by simp, ?_, ?_, by simp [TimerLoop.start]⟩
  · simp [TimerLoop.start, TimerLoop.holders]
  · intro j f hf
    simp [TimerLoop.start, TimerQueue.filed, TimerSlot.filed] at hf

theorem Issued.lt_of_holders {drawn : Nat → Nat} (h : Issued drawn s) {k x : Nat}
    (hmem : (k, x) ∈ s.holders) : k < s.registered := by
  obtain ⟨hdrawn, hx⟩ := h.holders k x hmem
  exact (h.range k (hdrawn ▸ hx)).1

theorem Issued.step {drawn : Nat → Nat} (h : Issued drawn s) (heffect : Effect s l s')
    (hgood : Good s') : ∃ drawn', Issued drawn' s' := by
  have hzero : drawn s.registered = 0 := by
    by_contra hne
    exact lt_irrefl _ (h.range _ hne).1
  cases heffect with
  | quiet hregistered hnext hholders hreturned hfiled =>
    refine ⟨drawn, ?_, h.injective, fun k x hmem => h.holders k x (hholders hmem), ?_, ?_⟩
    · rw [hregistered, hnext]
      exact h.range
    · intro j f hf
      rw [hregistered]
      obtain ⟨g, hg, heq⟩ | ⟨-, hnew⟩ := hfiled j f hf
      · exact heq ▸ h.filed j g hg
      · exact ⟨h.lt_of_holders hnew, (h.holders _ _ hnew).1⟩
    · intro k id hmem
      rw [hregistered]
      obtain hold | hnew := hreturned k id hmem
      · exact h.returned k id hold
      · obtain ⟨hdrawn, hne⟩ := h.holders _ _ hnew
        refine ⟨h.lt_of_holders hnew, by simpa [TimerId.valid] using hne, ?_⟩
        rw [if_neg (hdrawn ▸ hne), hdrawn]
  | own hregistered hnext hholders hreturned hfiled =>
    refine ⟨drawn, ?_, h.injective, ?_, ?_, ?_⟩
    · intro k hne
      rw [hregistered, hnext]
      have := h.range k hne
      omega
    · rw [hholders]
      exact h.holders
    · intro j f hf
      rw [hregistered]
      obtain ⟨g, hg, heq⟩ | ⟨-, hnumber, hext⟩ := hfiled j f hf
      · obtain ⟨hlt, hdrawn⟩ := h.filed j g hg
        exact heq ▸ ⟨hlt.trans (Nat.lt_succ_self _), hdrawn⟩
      · rw [hnumber, hext]
        exact ⟨Nat.lt_succ_self _, hzero⟩
    · intro k id hmem
      rw [hregistered]
      obtain hold | ⟨rfl, j, f, hf, hnumber, rfl⟩ := hreturned k id hmem
      · obtain ⟨hlt, hrest⟩ := h.returned k id hold
        exact ⟨hlt.trans (Nat.lt_succ_self _), hrest⟩
      · obtain ⟨hvalid, hlt⟩ := hgood.slotId_range hf
        rw [if_pos hzero]
        exact ⟨Nat.lt_succ_self _, hvalid, hlt⟩
  | drawn hregistered hnext hholders hreturned hfiled =>
    have hself : Function.update drawn s.registered (2 ^ 63 + s.queue.nextExternalTimerId)
        s.registered = 2 ^ 63 + s.queue.nextExternalTimerId := Function.update_self ..
    have hother : ∀ k, k ≠ s.registered → Function.update drawn s.registered
        (2 ^ 63 + s.queue.nextExternalTimerId) k = drawn k := fun k hk =>
      Function.update_of_ne hk _ _
    generalize Function.update drawn s.registered (2 ^ 63 + s.queue.nextExternalTimerId) = drawn'
      at hself hother
    have hcases : ∀ k, drawn' k ≠ 0 → k < s.registered ∧ drawn' k = drawn k ∨
        k = s.registered ∧ drawn' k = 2 ^ 63 + s.queue.nextExternalTimerId := by
      intro k hne
      by_cases hk : k = s.registered
      · exact .inr ⟨hk, hk ▸ hself⟩
      · have heq := hother k hk
        exact .inl ⟨(h.range k (heq ▸ hne)).1, heq⟩
    refine ⟨drawn', ?_, ?_, ?_, ?_, ?_⟩
    · intro k hne
      rw [hregistered, hnext]
      obtain ⟨hlt, heq⟩ | ⟨rfl, heq⟩ := hcases k hne
      · have := h.range k (heq ▸ hne)
        omega
      · omega
    · intro k k' hne heq
      obtain ⟨-, hk⟩ | ⟨rfl, hk⟩ := hcases k hne
      · have hrange := h.range k (hk ▸ hne)
        obtain ⟨-, hk'⟩ | ⟨rfl, hk'⟩ := hcases k' (heq ▸ hne)
        · exact h.injective k k' (hk ▸ hne) (hk.symm.trans (heq.trans hk'))
        · omega
      · obtain ⟨hlt, hk'⟩ | ⟨rfl, hk'⟩ := hcases k' (heq ▸ hne)
        · have hrange := h.range k' (hk' ▸ heq ▸ hne)
          omega
        · rfl
    · intro k x hmem
      obtain heq | hold := List.mem_cons.mp (hholders hmem)
      · cases heq
        exact ⟨hself, by omega⟩
      · rw [hother k (h.lt_of_holders hold).ne]
        exact h.holders k x hold
    · intro j f hf
      obtain ⟨hlt, hdrawn⟩ := h.filed j f (hfiled ▸ hf)
      rw [hregistered, hother _ hlt.ne]
      exact ⟨hlt.trans (Nat.lt_succ_self _), hdrawn⟩
    · intro k id hmem
      obtain ⟨hlt, hrest⟩ := h.returned k id (hreturned ▸ hmem)
      rw [hregistered, hother k hlt.ne]
      exact ⟨hlt.trans (Nat.lt_succ_self _), hrest⟩

/-- A timer in the queue has an external id exactly if it is the one for which the id was drawn. -/
theorem Issued.named_iff {drawn : Nat → Nat} (h : Issued drawn s) (hgood : Good s) {k : Nat}
    {id : TimerId} (hmem : (k, id) ∈ s.returned) (hexternal : drawn k ≠ 0) {j : Nat}
    {f : Filed (Nat × β)} (hf : s.queue.filed j = some f) :
    f.timer.Named id ↔ f.timer.action.1 = k := by
  obtain ⟨-, -, hid⟩ := h.returned k id hmem
  rw [if_neg hexternal] at hid
  have hrange := h.range k hexternal
  have hdrawn := (h.filed j f hf).2
  constructor
  · rintro (heq | ⟨-, heq⟩)
    · have hslot := (hgood.slotId_range hf).2
      rw [← heq] at hslot
      omega
    · exact (h.injective k _ hexternal (by rw [hdrawn, ← heq, hid])).symm
  · rintro rfl
    exact .inr ⟨hdrawn ▸ hexternal, hid.trans hdrawn⟩

/-! ## Slot ids -/

/-- The generation of a slot after `n` allocations; zero is skipped. -/
def generationAfter (g n : Nat) : Nat := (g - 1 + n) % (2 ^ 32 - 1) + 1

theorem generationAfter_zero {g : Nat} (hpos : 0 < g) (hlt : g < 2 ^ 32) : generationAfter g 0 = g := by
  unfold generationAfter
  omega

theorem nextGeneration_generationAfter (g n : Nat) :
    nextGeneration (generationAfter g n) = generationAfter g (n + 1) := by
  unfold nextGeneration generationAfter
  split <;> omega

/-- A generation comes back after `2 ^ 32 - 1` allocations and not before. -/
theorem eq_zero_of_generationAfter {g n : Nat} (hpos : 0 < g) (hlt : g < 2 ^ 32)
    (hn : n < 2 ^ 32 - 1) (heq : generationAfter g n = g) : n = 0 := by
  unfold generationAfter at heq
  omega

/-- The timer of the call `k` has been put into the slot `i` in the generation `g`, and the slot has
been allocated `n` times since. -/
structure Held (k i g n : Nat) (s : TimerLoop β) : Prop where
  slot_lt : i < s.queue.slotCount
  generation : (s.queue.slots i).generation = generationAfter g n
  occupant : n = 0 → ∀ f, s.queue.filed i = some f → f.timer.action.1 = k
  registered : k < s.registered
  holders : ∀ x, (k, x) ∉ s.holders
  filed : ∀ j f, s.queue.filed j = some f → f.timer.action.1 = k →
    f.timer.slotId = makeSlotTimerId i g

theorem Held.step {k i g n : Nat} (h : Held k i g n s) (heffect : Effect s l s')
    (hturns : Turns i s l s') :
    Held k i g (n + (decide (s.allocatedSlot l = some i)).toNat) s' := by
  have hgeneration : (s'.queue.slots i).generation =
      generationAfter g (n + (decide (s.allocatedSlot l = some i)).toNat) := by
    by_cases hslot : s.allocatedSlot l = some i
    · rw [hturns.generation h.slot_lt hslot, h.generation, nextGeneration_generationAfter]
      simp [hslot]
    · rw [hturns.keeps hslot, h.generation]
      simp [hslot]
  have hoccupant : ∀ fresh, NewFiled s l s' fresh →
      n + (decide (s.allocatedSlot l = some i)).toNat = 0 →
        ∀ f, s'.queue.filed i = some f → f.timer.action.1 = k := by
    intro fresh hfiled hzero f hf
    obtain ⟨g, hg, heq⟩ | ⟨hslot, -⟩ := hfiled i f hf
    · exact heq ▸ h.occupant (by omega) g hg
    · simp [hslot] at hzero
  have hlt := h.slot_lt.trans_le hturns.slotCount
  cases heffect with
  | quiet hregistered hnext hholders hreturned hfiled =>
    refine ⟨hlt, hgeneration, hoccupant _ hfiled, hregistered ▸ h.registered,
      fun x hmem => h.holders x (hholders hmem), fun j f hf hk => ?_⟩
    obtain ⟨g, hg, heq⟩ | ⟨-, hnew⟩ := hfiled j f hf
    · exact heq ▸ h.filed j g hg (heq ▸ hk)
    · exact absurd (hk ▸ hnew) (h.holders _)
  | own hregistered hnext hholders hreturned hfiled =>
    refine ⟨hlt, hgeneration, hoccupant _ hfiled, ?_, hholders ▸ h.holders, fun j f hf hk => ?_⟩
    · rw [hregistered]
      exact h.registered.trans (Nat.lt_succ_self _)
    · obtain ⟨g, hg, heq⟩ | ⟨-, hnumber, -⟩ := hfiled j f hf
      · exact heq ▸ h.filed j g hg (heq ▸ hk)
      · exact absurd (hk.symm.trans hnumber) h.registered.ne
  | drawn hregistered hnext hholders hreturned hfiled =>
    have hold : NewFiled s l s' fun _ => False := .of_old fun j f hf => ⟨f, hfiled ▸ hf, rfl⟩
    refine ⟨hlt, hgeneration, hoccupant _ hold, ?_, fun x hmem => ?_, hfiled ▸ h.filed⟩
    · rw [hregistered]
      exact h.registered.trans (Nat.lt_succ_self _)
    · obtain heq | hmem := List.mem_cons.mp (hholders hmem)
      · cases heq
        exact lt_irrefl _ h.registered
      · exact h.holders x hmem

/-- As long as the generation has not come back, the id of the slot names the timer it was returned
for and no other. -/
theorem Held.named_iff {k i g n : Nat} (h : Held k i g n s) (hgood : Good s) (hi : i + 1 < 2 ^ 31)
    (hpos : 0 < g) (hg : g < 2 ^ 32) (hn : n < 2 ^ 32 - 1) {j : Nat} {f : Filed (Nat × β)}
    (hf : s.queue.filed j = some f) :
    f.timer.Named (makeSlotTimerId i g) ↔ f.timer.action.1 = k := by
  refine ⟨?_, fun hk => .inl (h.filed j f hf hk).symm⟩
  obtain ⟨B, hco⟩ := hgood.sound.coherent
  obtain ⟨hactive, -, -, -, hslotId, hext, -⟩ := TimerSlot.filed_eq_some_iff.mp hf
  have hvalue := value_makeSlotTimerId hi hg
  rintro (heq | ⟨hne, heq⟩)
  · have hj := hco.stored.succ_lt hactive
    have hgen := hco.stored.generation_lt j
    rw [hslotId] at heq
    have hsame := congrArg TimerId.value heq
    rw [hvalue, value_makeSlotTimerId hj hgen] at hsame
    obtain rfl : j = i := by omega
    have hback : generationAfter g n = g := by
      rw [← h.generation]
      omega
    exact h.occupant (eq_zero_of_generationAfter hpos hg hn hback) f hf
  · have hmasked := (hco.stored.masked j hactive (hext ▸ hne)).1
    omega

/-! ## Runs -/

/-- The state is in order, and every external id belongs to one call. -/
structure Recorded (s : TimerLoop β) : Prop where
  intact : Intact s
  issued : ∃ drawn, Issued drawn s

theorem Recorded.start (epoch : Int) : Recorded (start epoch : TimerLoop β) :=
  ⟨.start epoch, _, .start epoch⟩

theorem Recorded.step (h : Recorded s) (hids : s.ExternalIdsLast l)
    (hstep : s.queueStep l = some s') : Recorded s' := by
  have hintact := h.intact.step hids hstep
  obtain ⟨drawn, hissued⟩ := h.issued
  exact ⟨hintact, hissued.step (h.intact.effect hids hstep) hintact.good⟩

theorem returned_subset {l : LoopStep β} (hstep : s.step l = some s') :
    s.returned ⊆ s'.returned := by
  cases stepped_of_step hstep with
  | addTimer => exact List.subset_append_right _ _
  | remoteQueue => exact List.subset_cons_self _ _
  | _ => exact List.Subset.refl _

theorem returned_subset_of_queueStep (hids : s.ExternalIdsLast l)
    (hstep : s.queueStep l = some s') : s.returned ⊆ s'.returned := by
  cases l with
  | loop l => exact returned_subset (step_eq_of_queueStep hids ▸ hstep)
  | escape deadline action env =>
    obtain ⟨-, -, hadd, rfl⟩ := addNow_of_escape hstep
    have hsub := returned_subset hadd
    exact hsub

/-- A call that returns has its timer in a slot, or its external id. -/
theorem Recorded.held_of_returned (h : Recorded s) (hids : s.ExternalIdsLast l)
    (hstep : s.queueStep l = some s') {k : Nat} {id : TimerId} (hbefore : (k, id) ∉ s.returned)
    (hafter : (k, id) ∈ s'.returned) :
    2 ^ 63 ≤ id.value ∨ ∃ i g, decodeSlotTimerId id = some (i, g) ∧ Held k i g 0 s' := by
  have hintact := h.intact.step hids hstep
  obtain ⟨drawn, hissued⟩ := h.issued
  cases h.intact.effect hids hstep with
  | quiet hregistered hnext hholders hreturned hfiled =>
    obtain ⟨hdrawn, hne⟩ := hissued.holders _ _ ((hreturned k id hafter).resolve_left hbefore)
    have hrange := hissued.range k (hdrawn ▸ hne)
    rw [hdrawn] at hrange
    exact .inl hrange.2.1
  | own hregistered hnext hholders hreturned hfiled =>
    obtain ⟨rfl, i, f, hf, hnumber, rfl⟩ := (hreturned k id hafter).resolve_left hbefore
    obtain ⟨B, hco⟩ := hintact.good.sound.coherent
    obtain ⟨hactive, -, -, -, hslotId, -⟩ := TimerSlot.filed_eq_some_iff.mp hf
    have hpos := hco.stored.generation_pos i hactive
    have hlt := hco.stored.generation_lt i
    -- A timer with the new number stands in the slot that the call has allocated.
    have hnew : ∀ j g, s'.queue.filed j = some g → g.timer.action.1 = s.registered →
        s.allocatedSlot l = some j := by
      intro j g hg hk
      obtain ⟨g₀, hg₀, heq⟩ | ⟨hslot, -⟩ := hfiled j g hg
      · exact absurd (heq ▸ hk) (hissued.filed j g₀ hg₀).1.ne
      · exact hslot
    refine .inr ⟨i, (s'.queue.slots i).generation, ?_, ?_⟩
    · rw [decodeSlotTimerId_eq_some_iff]
      exact ⟨hco.stored.succ_lt hactive, hpos, hlt, hslotId⟩
    · refine ⟨hco.stored.lt_slotCount i hactive, (generationAfter_zero hpos hlt).symm, ?_, ?_, ?_,
        fun j g hg hk => ?_⟩
      · intro _ g hg
        obtain rfl : f = g := Option.some.inj (hf.symm.trans hg)
        exact hnumber
      · rw [hregistered]
        exact Nat.lt_succ_self _
      · intro x hmem
        exact lt_irrefl _ (hissued.lt_of_holders (hholders ▸ hmem))
      · obtain rfl : i = j := Option.some.inj ((hnew i f hf hnumber).symm.trans (hnew j g hg hk))
        obtain rfl : f = g := Option.some.inj (hf.symm.trans hg)
        exact hslotId
  | drawn hregistered hnext hholders hreturned hfiled =>
    exact absurd (hreturned ▸ hafter) hbefore

/-- The id that `AddTimer` returned for a timer names it, and is valid. -/
theorem Good.named_id (h : Good s) {i : Nat} {f : Filed (Nat × β)} (hf : s.queue.filed i = some f) :
    f.timer.Named f.timer.id ∧ f.timer.id.valid = true := by
  obtain ⟨B, hco⟩ := h.sound.coherent
  obtain ⟨hactive, -, -, -, -, hext, -⟩ := TimerSlot.filed_eq_some_iff.mp hf
  unfold Timer.Named Timer.id
  split
  · next hne =>
    have hmasked := hco.stored.masked i hactive (hext ▸ hne)
    have hvalue : (TimerId.ofNat f.timer.externalId).value = f.timer.externalId :=
      Nat.mod_eq_of_lt (hext ▸ hmasked.2)
    exact ⟨.inr ⟨hne, hvalue⟩, by simpa [TimerId.valid, hvalue] using hne⟩
  · exact ⟨.inl rfl, (h.slotId_range hf).1⟩

/-- A `TimerId` that has been returned cancels the timer of that call, if it is still there, and
nothing else, however often its slot has been used again, as long as the slot has been allocated
fewer than `2 ^ 32 - 1` times since and the sequence of external ids has not run through. The ids of
the timers in the queue are valid and distinct, since slot and generation can be read off them. -/
theorem cancel_stale_id (epoch : Int) (before after : List (QueueStep β)) {s₀ s₁ : TimerLoop β}
    {k : Nat} {id : TimerId}
    (hids : Transition.Meets queueStep ExternalIdsLast (start epoch : TimerLoop β)
      (before ++ l :: after))
    (hrun₀ : (start epoch : TimerLoop β).runQueue before = some s₀) (hcall : s₀.queueStep l = some s₁)
    (hbefore : (k, id) ∉ s₀.returned) (hreturned : (k, id) ∈ s₁.returned)
    (hrun : s₁.runQueue after = some s)
    (hslot : ∀ i g, decodeSlotTimerId id = some (i, g) → allocations i s₁ after < 2 ^ 32 - 1) :
    (id.valid = true ∧ ∀ j, (s.queue.cancelInLoop id).filed j =
        (s.queue.filed j).filter fun f => f.timer.action.1 ≠ k) ∧
      (∀ i f, s.queue.filed i = some f → f.timer.id.valid = true) ∧
        (∀ i j f g, s.queue.filed i = some f → s.queue.filed j = some g →
          f.timer.id = g.timer.id → i = j) ∧
          ∀ i g, i < 2 ^ 31 - 1 → 0 < g → g < 2 ^ 32 →
            decodeSlotTimerId (makeSlotTimerId i g) = some (i, g) := by
  obtain ⟨hids₀, hids₁⟩ := hids.of_append hrun₀
  have hrecorded₀ : Recorded s₀ :=
    Transition.invariant_run (I := Recorded) (fun _ _ _ h hids hstep => h.step hids hstep)
      (.start epoch) hids₀ hrun₀
  have hrecorded₁ := hrecorded₀.step hids₁.1 hcall
  have hids₂ := hids₁.2 s₁ hcall
  obtain ⟨hrecorded, hmem⟩ : Recorded s ∧ (k, id) ∈ s.returned := by
    apply Transition.invariant_run (I := fun s : TimerLoop β => Recorded s ∧ (k, id) ∈ s.returned) _
      ⟨hrecorded₁, hreturned⟩ hids₂ hrun
    rintro s l s' ⟨h, hmem⟩ hids hstep
    exact ⟨h.step hids hstep, returned_subset_of_queueStep hids hstep hmem⟩
  have hgood := hrecorded.intact.good
  obtain ⟨drawn, hissued⟩ := hrecorded.issued
  have hnamed : ∀ j f, s.queue.filed j = some f → (f.timer.Named id ↔ f.timer.action.1 = k) := by
    intro j f hf
    obtain hlarge | ⟨i, g, hdecode, hheld⟩ :=
      hrecorded₀.held_of_returned hids₁.1 hcall hbefore hreturned
    · apply hissued.named_iff hgood hmem _ hf
      intro hzero
      have hsmall := (hissued.returned k id hmem).2.2
      rw [if_pos hzero] at hsmall
      omega
    · obtain ⟨hi, hpos, hlt, rfl⟩ := decodeSlotTimerId_eq_some_iff.mp hdecode
      have hcount := Transition.invariant_count (p := fun s l => s.allocatedSlot l = some i)
        (I := fun n s => Recorded s ∧ Held k i g n s) (by
          rintro n s l s' ⟨h, hheld⟩ hids hstep
          exact ⟨h.step hids hstep,
            hheld.step (h.intact.effect hids hstep) (.of_step hids hstep)⟩)
        ⟨hrecorded₁, hheld⟩ hids₂ hrun
      rw [Nat.zero_add] at hcount
      exact hcount.2.named_iff hgood hi hpos hlt (hslot i g hdecode) hf
  obtain ⟨B, hco⟩ := hgood.sound.coherent
  obtain ⟨B', hcut⟩ := hco.cancelInLoop hgood.sound.idle id
  refine ⟨⟨(hissued.returned k id hmem).2.1, fun j => ?_⟩, fun i f hf => (hgood.named_id hf).2, ?_,
    fun i g hi hpos hlt => ?_⟩
  · rw [hcut.filed]
    cases hf : s.queue.filed j with
    | none => rfl
    | some f => simp [Option.filter, hnamed j f hf]
  · intro i j f g hf hg hid
    exact hco.slot_unique hf hg (hgood.named_id hf).1 (hid ▸ (hgood.named_id hg).1)
  · exact decodeSlotTimerId_eq_some_iff.mpr ⟨by omega, hpos, hlt, rfl⟩

/-- The slot has been used again when the first id is cancelled once more. -/
theorem cancel_stale_id_reused : ∃ s₁ s : TimerLoop Unit,
    (start 0).queueStep (.loop (.addTimer 5000000 () ⟨0, 0, false, false⟩)) = some s₁ ∧
      s₁.runQueue [.loop (.cancel (makeSlotTimerId 0 1)),
        .loop (.addTimer 5000000 () ⟨0, 0, false, false⟩)] = some s ∧
        s.queue.activeTimerCount = 1 ∧
          ∀ j, (s.queue.cancelInLoop (makeSlotTimerId 0 1)).filed j =
            (s.queue.filed j).filter fun f => f.timer.action.1 ≠ 0 := by
  refine ⟨_, _, rfl, rfl, rfl, ?_⟩
  refine (cancel_stale_id (k := 0)
    (l := .loop (.addTimer 5000000 () ⟨0, 0, false, false⟩)) 0 [] [.loop (.cancel (makeSlotTimerId 0 1)),
    .loop (.addTimer 5000000 () ⟨0, 0, false, false⟩)] (by decide) rfl rfl (by decide) (by decide) rfl
    ?_).1.2
  intro i g hdecode
  obtain ⟨rfl, rfl⟩ : 0 = i ∧ 1 = g := by
    have hfirst : decodeSlotTimerId (makeSlotTimerId 0 1) = some (0, 1) := by decide
    simpa [hfirst] using hdecode
  decide

/-! ## When the sequence of external ids has run through -/

/-- The call that draws the first external id again cancels the timer of the first call. -/
theorem cancels_other_of_wrap : ¬ ∀ (epoch : Int) (before after : List (QueueStep Unit))
    (l : QueueStep Unit) (s₀ s₁ s : TimerLoop Unit) (k : Nat) (id : TimerId),
      (start epoch).runQueue before = some s₀ → s₀.queueStep l = some s₁ →
        (k, id) ∉ s₀.returned → (k, id) ∈ s₁.returned → s₁.runQueue after = some s →
          (∀ i g, decodeSlotTimerId id = some (i, g) → allocations i s₁ after < 2 ^ 32 - 1) →
            after.countP draws < 2 ^ 63 →
              ∀ j, (s.queue.cancelInLoop id).filed j =
                (s.queue.filed j).filter fun f => f.timer.action.1 ≠ k := by
  intro hall
  obtain ⟨steps, arriving, hrun⟩ := exists_run_exhausted
  obtain ⟨s₁, s₂, s, hlast⟩ := exists_addedAtOnce (exhausted arriving) rfl rfl 0 ()
  have hid : (exhausted arriving).queue.makeExternalTimerId.1 = .ofNat (2 ^ 63 + 1) :=
    show (exhausted []).queue.makeExternalTimerId.1 = _ by decide
  have hrun₁ : (start 0).runQueue (steps ++ [.loop (.remoteAddTimer 0 ())]) = some s₁ := by
    rw [runQueue, Transition.run_append]
    refine Option.bind_eq_some_iff.mpr ⟨_, hrun, ?_⟩
    simp only [Transition.run, hlast.draw, Option.bind_some]
  have hrun₃ : s₂.runQueue [.loop (.runFunctor ⟨0, 0, false, false⟩)] = some s :=
    Transition.run_cons_eq_some_iff.mpr ⟨s, hlast.run, rfl⟩
  have hbefore : (2 ^ 63, .ofNat (2 ^ 63 + 1)) ∉ s₁.returned := by
    rw [hlast.returned₁]
    exact show _ ∉ (exhausted []).returned by decide
  have hafter : (2 ^ 63, .ofNat (2 ^ 63 + 1)) ∈ s₂.returned := by
    rw [hlast.returned₂, hid]
    exact List.mem_cons_self
  have hcancel := hall 0 _ _ _ s₁ s₂ s (2 ^ 63) (.ofNat (2 ^ 63 + 1)) hrun₁ hlast.queue hbefore hafter
    hrun₃ (by
      intro i g hdecode
      have hnone : decodeSlotTimerId (.ofNat (2 ^ 63 + 1)) = none := by decide
      cases hnone.symm.trans hdecode) (by simp [draws]) 0
  rw [queue_of_exhausted hlast] at hcancel
  have hno := congrArg Option.isSome hcancel
  revert hno
  decide

end TimerLoop

end NebulaRpc.Net
