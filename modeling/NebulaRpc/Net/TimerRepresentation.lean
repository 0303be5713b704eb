import NebulaRpc.Net.TimerLoop

/-!
# The representation of the timer queue

What the slots, the free list, the buckets, the counter, the map of external ids and the armed flag
have to do with each other between any two steps of the loop. The sequence of external ids may run
through here, and an action may let the exception of `ArmTimerFd` pass, which leaves `HandleRead` in
the middle of a bucket.
-/

namespace NebulaRpc.Net

variable {β : Type*}

namespace TimerQueue

variable {α : Type*} {q : TimerQueue α}

/-- The free list runs through the slots `free`, and the list of each bucket through the slots
`bucket p`; every slot is on exactly one of these lists. -/
structure Represented (q : TimerQueue α) (free : List Nat) (bucket : Nat × Nat → List Nat) :
    Prop where
  freeList : FreeList (fun i => (q.slots i).nextFree) q.freeSlotHead free
  bucketList : ∀ p, Intrusive.IsList (fun i => (q.slots i).wheelPrev)
    (fun i => (q.slots i).wheelNext) (q.wheel p).head (q.wheel p).tail (bucket p)
  inactive : ∀ i < q.slotCount, (q.slots i).active = false →
    free.count i = 1 ∧ ∀ p, (bucket p).count i = 0
  active : ∀ i < q.slotCount, (q.slots i).active = true →
    free.count i = 0 ∧ (q.slots i).wheelLevel < 4 ∧ (q.slots i).bucketIndex < kWheelSize ∧
      ∀ p, (bucket p).count i =
        if p = ((q.slots i).wheelLevel, (q.slots i).bucketIndex) then 1 else 0
  free_lt : ∀ i ∈ free, i < q.slotCount
  bucket_lt : ∀ p, ∀ i ∈ bucket p, i < q.slotCount
  count : q.activeTimerCount =
    ((Finset.range q.slotCount).filter fun i => (q.slots i).active = true).card
  external : ∀ x i, q.externalTimerSlots x = some i ↔
    i < q.slotCount ∧ (q.slots i).active = true ∧ x ≠ 0 ∧ (q.slots i).externalTimerId = x

/-- Every timer stands in one of the buckets of the wheel. -/
def InWheel (q : TimerQueue α) : Prop :=
  ∀ i f, q.filed i = some f → f.place.1 < 4 ∧ f.place.2 < kWheelSize

theorem Placed.lt {c e L b r : Nat} (h : Placed c e L b r) : L < 4 ∧ b < kWheelSize := by
  unfold kWheelSize
  cases h <;> omega

theorem Sound.inWheel {b : Option Nat} (h : Sound b q) (hb : ∀ b', b = some b' → b' < kWheelSize) :
    InWheel q := by
  intro i f hf
  cases b with
  | none => exact (h.resting i f hf).lt
  | some b' =>
    obtain ⟨-, hplace⟩ | hplaced := h.resting i f hf
    · rw [hplace]
      exact ⟨Nat.zero_lt_succ 3, hb b' rfl⟩
    · exact hplaced.lt

theorem Coherent.represented {B : Nat × Nat → List Nat} (h : Coherent q B) (hwheel : InWheel q) :
    ∃ free, Represented q free B := by
  obtain ⟨free, hnodup, hlist, hmem⟩ := h.stored.free
  have hB : ∀ p i, (B p).count i = if ∃ f, q.filed i = some f ∧ f.place = p then 1 else 0 := by
    intro p i
    rw [(h.linked.list p).nodup.count]
    simp only [h.mem_iff]
  refine ⟨free, hlist, h.linked.list, ?_, ?_, ?_, ?_, h.stored.count, ?_⟩
  · intro i hi hinactive
    refine ⟨List.count_eq_one_of_mem hnodup ((hmem i).mpr ⟨hi, hinactive⟩), fun p => ?_⟩
    rw [hB, filed_eq_none hinactive]
    simp
  · intro i hi hactive
    obtain ⟨f, hf⟩ := h.exists_filed hactive
    have hplace := (TimerSlot.filed_eq_some_iff.mp hf).2.2.1
    obtain ⟨hlevel, hbucket⟩ := hwheel i f hf
    have heq : f.place = ((q.slots i).wheelLevel, (q.slots i).bucketIndex) := by
      unfold TimerSlot.place at hplace
      split at hplace
      · cases hplace
      · exact (Option.some.inj hplace).symm
    rw [heq] at hlevel hbucket
    refine ⟨List.count_eq_zero.mpr fun hfree => ?_, hlevel, hbucket, fun p => ?_⟩
    · rw [((hmem i).mp hfree).2] at hactive
      cases hactive
    · rw [hB, hf]
      simp [heq, eq_comm]
  · exact fun i hi => ((hmem i).mp hi).1
  · intro p i hi
    obtain ⟨f, hf, -⟩ := (h.mem_iff p).mp hi
    exact h.stored.lt_slotCount i (TimerSlot.filed_eq_some_iff.mp hf).1
  · intro x i
    rw [h.stored.external]
    constructor
    · rintro ⟨hx, hactive, hext⟩
      exact ⟨h.stored.lt_slotCount i hactive, hactive, hx, hext⟩
    · rintro ⟨-, hactive, hx, hext⟩
      exact ⟨hx, hactive, hext⟩

/-! ## The armed flag -/

/-- Without timers the timerfd is disarmed. -/
def DisarmedEmpty (q : TimerQueue α) : Prop := q.activeTimerCount = 0 → q.timerFdArmed = false

theorem timerFdArmed_disarmTimerFd (q : TimerQueue α) : q.disarmTimerFd.timerFdArmed = false := by
  unfold disarmTimerFd
  split
  · rfl
  · next h => simpa using h

theorem DisarmedEmpty.cancelInLoop (h : DisarmedEmpty q) (id : TimerId) :
    DisarmedEmpty (q.cancelInLoop id) := by
  unfold TimerQueue.cancelInLoop
  split
  · exact h
  · dsimp only
    split
    · exact fun _ => timerFdArmed_disarmTimerFd _
    · next hcount => exact fun hzero => absurd hzero hcount

theorem disarmedEmpty_finishRead (q : TimerQueue α) : DisarmedEmpty q.finishRead := by
  unfold TimerQueue.finishRead
  split
  · exact fun _ => timerFdArmed_disarmTimerFd _
  · next hcount => exact fun hzero => absurd hzero hcount

theorem DisarmedEmpty.addTimerInLoop (h : DisarmedEmpty q) {b : Option Nat} (hsound : Sound b q)
    (deadline : Int) (a : α) {x : Nat} (hx : FreshExternal q x) (env : AddEnv) :
    DisarmedEmpty (q.addTimerInLoop deadline a x env).2 := by
  obtain ⟨B, hco⟩ := hsound.coherent
  have hspec := hco.addTimerInLoop deadline a hx env
  generalize q.addTimerInLoop deadline a x env = result at hspec
  obtain ⟨_ | id, q'⟩ := result
  · intro hzero
    rw [hspec.armed]
    exact h (hspec.count ▸ hzero)
  · obtain ⟨i, f, hadd⟩ := hspec
    intro hzero
    exact absurd (hadd.count ▸ hzero) (Nat.succ_ne_zero _)

/-- An `AddTimerInLoop` that throws adds and removes no timer. -/
theorem Sound.filed_of_throws {b : Option Nat} (h : Sound b q) {deadline : Int} {a : α} {x : Nat}
    (hx : FreshExternal q x) {env : AddEnv}
    (hthrows : (q.addTimerInLoop deadline a x env).1 = none) :
    (q.addTimerInLoop deadline a x env).2.filed = q.filed := by
  obtain ⟨B, hco⟩ := h.coherent
  have hspec := hco.addTimerInLoop deadline a hx env
  generalize q.addTimerInLoop deadline a x env = result at hspec hthrows
  obtain ⟨_ | id, q'⟩ := result
  · exact funext hspec.filed
  · cases hthrows

end TimerQueue

/-! ## Runs -/

/-- A step of the loop, or an `AddTimer` in an action whose `ArmTimerFd` throws out of the action
and of `HandleRead`. -/
inductive QueueStep (β : Type*) where
  | loop (l : LoopStep β)
  | escape (deadline : Int) (action : β) (env : TimerQueue.AddEnv)

namespace TimerLoop

/-- An action calls `AddTimer` with the timerfd disarmed, and what that throws leaves `HandleRead`. -/
def escape (s : TimerLoop β) (deadline : Int) (action : β) (env : TimerQueue.AddEnv) :
    Option (TimerLoop β) :=
  match s.control with
  | .acting _ _ =>
    let (id, _) := s.queue.addTimerInLoop deadline (s.registered, action) 0 env
    if s.onTime env ∧ s.queue.timerFdArmed = false ∧ id = none then
      some { s.addNow deadline action env with control := .idle }
    else none
  | _ => none

/-- As `step`, but the sequence of external ids goes on when it has run through. -/
def queueStep (s : TimerLoop β) : QueueStep β → Option (TimerLoop β)
  | .loop (.remoteAddTimer deadline action) =>
    let (id, queue) := s.queue.makeExternalTimerId
    some { s with
      queue := queue
      registered := s.registered + 1
      arriving := s.arriving ++ [⟨s.registered, id, deadline, action⟩] }
  | .loop l => s.step l
  | .escape deadline action env => s.escape deadline action env

/-- The step draws an external id. -/
def draws : QueueStep β → Bool
  | .loop (.remoteAddTimer ..) => true
  | _ => false

/-- Fewer than `2 ^ 63` external ids are drawn. -/
def ExternalIdsLast (s : TimerLoop β) (l : QueueStep β) : Prop :=
  draws l = true → s.queue.nextExternalTimerId < 2 ^ 63

instance (s : TimerLoop β) (l : QueueStep β) : Decidable (s.ExternalIdsLast l) :=
  inferInstanceAs (Decidable (_ → _))

variable {s s' : TimerLoop β}

theorem step_eq_of_queueStep {l : LoopStep β} (hids : s.ExternalIdsLast (.loop l)) :
    s.queueStep (.loop l) = s.step l := by
  cases l with
  | remoteAddTimer deadline action =>
    have hroom := hids rfl
    simp only [queueStep, step, if_pos hroom]
  | _ => rfl

/-- What holds of the loop between any two steps. -/
structure Intact (s : TimerLoop β) : Prop where
  good : Good s
  bucket : ∀ b, s.control.bucket = some b → b < kWheelSize
  disarmed : s.control = .idle → s.queue.DisarmedEmpty

theorem Intact.start (epoch : Int) : Intact (start epoch : TimerLoop β) where
  good := .start epoch
  bucket := by rintro b ⟨⟩
  disarmed := fun _ _ => rfl

theorem disarmedEmpty_cancelNow (h : s.queue.DisarmedEmpty) (id : TimerId) (covered : List Nat) :
    (s.cancelNow id covered).queue.DisarmedEmpty := by
  unfold cancelNow
  dsimp only
  split
  · exact h.cancelInLoop id
  · exact h

theorem Intact.loop (h : Intact s) {l : LoopStep β} (hstep : s.step l = some s') : Intact s' := by
  refine ⟨h.good.step hstep, ?_, ?_⟩
  · have hb := h.bucket
    cases stepped_of_step hstep with
    | finishRead => rintro b ⟨⟩
    | advanceTick =>
      rintro b ⟨⟩
      exact Nat.mod_lt _ (by decide)
    | drained => rintro b ⟨⟩
    | due hcontrol | actionReturns hcontrol =>
      rintro _ ⟨⟩
      exact hb _ (by rw [hcontrol]; rfl)
    | read => rintro b ⟨⟩
    | _ => exact hb
  · have hd := h.disarmed
    cases stepped_of_step hstep with
    | addTimer => exact fun hidle => (hd hidle).addTimerInLoop h.good.sound _ _ (.inl rfl) _
    | cancel => exact fun hidle => disarmedEmpty_cancelNow (hd hidle) _ _
    | @runAdd env number id deadline action functors hidle _ _ hhead =>
      have hmem : id.value ∈ s.pendingIds := by simp [pendingIds, hhead, TimerFunctor.addId]
      exact fun _ => (hd hidle).addTimerInLoop h.good.sound _ _ (h.good.freshExternal hmem) _
    | @runCancel _ id covered functors hidle =>
      exact fun _ => disarmedEmpty_cancelNow (s := { s with functors := functors }) (hd hidle) _ _
    | finishRead => exact fun _ => TimerQueue.disarmedEmpty_finishRead _
    | read => rintro ⟨⟩
    | advanceTick => rintro ⟨⟩
    | drained => rintro ⟨⟩
    | replaced hcontrol => exact fun hidle => absurd (hcontrol.symm.trans hidle) (by simp)
    | dueEmpty hcontrol => exact fun hidle => absurd (hcontrol.symm.trans hidle) (by simp)
    | due => rintro ⟨⟩
    | actionReturns => rintro ⟨⟩
    | _ => exact hd

/-- An action that is left by an exception has added nothing, and the timerfd was disarmed. -/
theorem addNow_of_escape {deadline : Int} {action : β} {env : TimerQueue.AddEnv}
    (hstep : s.escape deadline action env = some s') :
    s.queue.timerFdArmed = false ∧
      (s.queue.addTimerInLoop deadline (s.registered, action) 0 env).1 = none ∧
        s.step (.addTimer deadline action env) = some (s.addNow deadline action env) ∧
          s' = { s.addNow deadline action env with control := .idle } := by
  unfold TimerLoop.escape at hstep
  split at hstep
  · next b r hcontrol =>
    simp only [Option.ite_none_right_eq_some, Option.some.injEq] at hstep
    obtain ⟨⟨htime, harmed, hthrows⟩, rfl⟩ := hstep
    refine ⟨harmed, hthrows, ?_, rfl⟩
    simp [step, hcontrol, Control.userCode, htime]
  · cases hstep

theorem Intact.escape (h : Intact s) {deadline : Int} {action : β} {env : TimerQueue.AddEnv}
    (hstep : s.escape deadline action env = some s') : Intact s' := by
  obtain ⟨harmed, hthrows, hadd, rfl⟩ := addNow_of_escape hstep
  have hgood : Good (s.addNow deadline action env) := h.good.step hadd
  have hfiled : (s.addNow deadline action env).queue.filed = s.queue.filed :=
    h.good.sound.filed_of_throws (.inl rfl) hthrows
  -- The timerfd was disarmed, so there are no timers that could be out of place.
  have hempty : ∀ i f, (s.addNow deadline action env).queue.filed i ≠ some f := by
    intro i f hf
    rw [hfiled] at hf
    have := h.good.sound.armed hf
    grind
  have hsound : (s.addNow deadline action env).queue.Sound none :=
    ⟨hgood.sound.coherent, hgood.sound.idle, fun i f hf => absurd hf (hempty i f)⟩
  refine ⟨?_, by rintro b ⟨⟩, fun _ => ?_⟩
  · exact hgood.of_fewer hsound rfl (.refl _) fun i f hf => ⟨f, hf, rfl⟩
  · have hdisarmed : s.queue.DisarmedEmpty := fun _ => harmed
    exact hdisarmed.addTimerInLoop h.good.sound deadline _ (.inl rfl) env

theorem Intact.step (h : Intact s) {l : QueueStep β} (hids : s.ExternalIdsLast l)
    (hstep : s.queueStep l = some s') : Intact s' := by
  cases l with
  | loop l => exact h.loop (step_eq_of_queueStep hids ▸ hstep)
  | escape deadline action env => exact h.escape hstep

/-- The state behind a list of steps. -/
def runQueue (s : TimerLoop β) (steps : List (QueueStep β)) : Option (TimerLoop β) :=
  Transition.run queueStep s steps

theorem Intact.represented (h : Intact s) : ∃ free bucket, s.queue.Represented free bucket := by
  obtain ⟨B, hco⟩ := h.good.sound.coherent
  obtain ⟨free, hrep⟩ := hco.represented (h.good.sound.inWheel h.bucket)
  exact ⟨free, B, hrep⟩

theorem Intact.armed_iff (h : Intact s) (hidle : s.control = .idle) :
    s.queue.timerFdArmed = true ↔ 0 < s.queue.activeTimerCount := by
  have hdisarmed := h.disarmed hidle
  have harmed := h.good.sound.idle
  unfold TimerQueue.DisarmedEmpty at hdisarmed
  unfold TimerQueue.IdleDisarmed at harmed
  grind

/-- As long as the sequence of external ids has not run through, the representation is in order
between any two steps, outside of `HandleRead` the timerfd is armed exactly if there are timers, and
an addition that throws leaves the timers as they were. -/
theorem representation_of_run (epoch : Int) (steps : List (QueueStep β))
    (hids : Transition.Meets queueStep ExternalIdsLast (start epoch : TimerLoop β) steps)
    (hrun : (start epoch : TimerLoop β).runQueue steps = some s) :
    (∃ free bucket, s.queue.Represented free bucket) ∧
      (s.control = .idle → (s.queue.timerFdArmed = true ↔ 0 < s.queue.activeTimerCount)) ∧
      ∀ deadline action env x, (x = 0 ∨ x ∈ s.pendingIds) →
        (s.queue.addTimerInLoop deadline action x env).1 = none →
          (s.queue.addTimerInLoop deadline action x env).2.filed = s.queue.filed := by
  have h : Intact s := by
    apply Transition.invariant_run (I := Intact) _ (Intact.start epoch) hids hrun
    exact fun s l s' h hids hstep => h.step hids hstep
  refine ⟨h.represented, h.armed_iff, ?_⟩
  intro deadline action env x hx hthrows
  apply h.good.sound.filed_of_throws _ hthrows
  obtain rfl | hmem := hx
  · exact .inl rfl
  · have hlt := h.good.pending x hmem
    have hnext := h.good.next_le
    have hid : (⟨x, by omega⟩ : TimerId).value ∈ s.pendingIds := hmem
    exact h.good.freshExternal hid

/-- The last timer is cancelled by the action of another, which then fails to add a third. -/
def escapingRun : List (QueueStep Unit) :=
  [.loop (.addTimer 1000000 () ⟨0, 0, false, false⟩),
    .loop (.addTimer 5000000 () ⟨0, 0, false, false⟩), .loop (.elapse 1000000), .loop (.read 1),
    .loop .tick, .loop .expire, .loop (.cancel (.ofNat (2 ^ 31 + 2))),
    .escape 9000000 () ⟨1000000, 1000000, false, true⟩]

theorem representation_of_run_escaping : ∃ s : TimerLoop Unit,
    (start 0).runQueue escapingRun = some s ∧ s.control = .idle ∧ s.queue.timerFdArmed = false ∧
      (∃ free bucket, s.queue.Represented free bucket) ∧
        (s.queue.timerFdArmed = true ↔ 0 < s.queue.activeTimerCount) ∧
          (s.queue.addTimerInLoop 0 (0, ()) 0 ⟨0, 0, false, true⟩).2.filed = s.queue.filed := by
  refine ⟨_, rfl, rfl, rfl, ?_⟩
  have h := representation_of_run 0 escapingRun (by decide) rfl
  exact ⟨h.1, h.2.1 rfl, h.2.2 0 (0, ()) ⟨0, 0, false, true⟩ 0 (.inl rfl) rfl⟩

/-! ## When the sequence of external ids has run through -/

theorem runQueue_replicate (n : Nat) (s : TimerLoop β) (deadline : Int) (action : β) :
    ∃ calls, s.runQueue (.replicate n (.loop (.remoteAddTimer deadline action))) = some { s with
      queue := { s.queue with nextExternalTimerId := s.queue.nextExternalTimerId + n }
      registered := s.registered + n
      arriving := s.arriving ++ calls } := by
  induction n generalizing s with
  | zero => exact ⟨[], by simp [runQueue]⟩
  | succ n ih =>
    obtain ⟨s₁, hs₁⟩ : ∃ s₁, s.queueStep (.loop (.remoteAddTimer deadline action)) = some s₁ :=
      ⟨_, rfl⟩
    obtain ⟨calls, hrun⟩ := ih s₁
    cases hs₁
    refine ⟨⟨s.registered, s.queue.makeExternalTimerId.1, deadline, action⟩ :: calls, ?_⟩
    rw [List.replicate_succ]
    refine Transition.run_cons_eq_some_iff.mpr ⟨_, rfl, hrun.trans ?_⟩
    simp [TimerQueue.makeExternalTimerId, Nat.add_assoc, Nat.add_comm 1]

/-- Another thread adds a timer, and its functor is run at once. -/
structure AddedAtOnce (deadline : Int) (action : β) (s s₁ s₂ s' : TimerLoop β) : Prop where
  draw : s.queueStep (.loop (.remoteAddTimer deadline action)) = some s₁
  queue : s₁.queueStep (.loop (.remoteQueue s.arriving.length)) = some s₂
  run : s₂.queueStep (.loop (.runFunctor ⟨s.clock, s.clock, false, false⟩)) = some s'
  returned₁ : s₁.returned = s.returned
  returned₂ : s₂.returned = (s.registered, s.queue.makeExternalTimerId.1) :: s.returned
  state : s' = { s with
    queue := (s.queue.makeExternalTimerId.2.addTimerInLoop deadline (s.registered, action)
      s.queue.makeExternalTimerId.1.value ⟨s.clock, s.clock, false, false⟩).2
    registered := s.registered + 1
    returned := (s.registered, s.queue.makeExternalTimerId.1) :: s.returned }

theorem exists_addedAtOnce (s : TimerLoop β) (hidle : s.control = .idle)
    (hfunctors : s.functors = []) (deadline : Int) (action : β) :
    ∃ s₁ s₂ s', AddedAtOnce deadline action s s₁ s₂ s' := by
  refine ⟨{ s with
    queue := s.queue.makeExternalTimerId.2
    registered := s.registered + 1
    arriving := s.arriving ++ [⟨s.registered, s.queue.makeExternalTimerId.1, deadline, action⟩] }, {
      s with
    queue := s.queue.makeExternalTimerId.2
    registered := s.registered + 1
    functors := [.add s.registered s.queue.makeExternalTimerId.1 deadline action]
    returned := (s.registered, s.queue.makeExternalTimerId.1) :: s.returned }, _, rfl, ?_, ?_, rfl,
    rfl, rfl⟩
  · simp [queueStep, step, hfunctors, List.eraseIdx_append_of_length_le]
  · simp [queueStep, step, hidle, onTime, hfunctors]

theorem AddedAtOnce.runQueue {deadline : Int} {action : β} {s s₁ s₂ s' : TimerLoop β}
    (h : AddedAtOnce deadline action s s₁ s₂ s') :
    s.runQueue [.loop (.remoteAddTimer deadline action), .loop (.remoteQueue s.arriving.length),
      .loop (.runFunctor ⟨s.clock, s.clock, false, false⟩)] = some s' := by
  simp only [TimerLoop.runQueue, Transition.run, h.draw, h.queue, h.run, Option.bind_some]

/-- The first call of another thread has added its timer, and all external ids have been drawn. -/
def exhausted (arriving : List (Arriving Unit)) : TimerLoop Unit where
  queue := { (({ nextExternalTimerId := 2 } : TimerQueue (Nat × Unit)).addTimerInLoop 0 (0, ())
    (2 ^ 63 + 1) ⟨0, 0, false, false⟩).2 with nextExternalTimerId := 2 ^ 63 + 1 }
  registered := 2 ^ 63
  arriving := arriving
  returned := [(0, .ofNat (2 ^ 63 + 1))]

theorem exists_run_exhausted : ∃ steps arriving,
    (start 0 : TimerLoop Unit).runQueue steps = some (exhausted arriving) := by
  obtain ⟨_, _, s, hfirst⟩ := exists_addedAtOnce (start 0 : TimerLoop Unit) rfl rfl 0 ()
  obtain ⟨calls, hrun⟩ := runQueue_replicate (2 ^ 63 - 1) s 0 ()
  have hid : (start 0 : TimerLoop Unit).queue.makeExternalTimerId.1 = .ofNat (2 ^ 63 + 1) := by
    decide
  have hstate := hfirst.state
  rw [hid] at hstate
  refine ⟨[.loop (.remoteAddTimer 0 ()), .loop (.remoteQueue 0),
    .loop (.runFunctor ⟨0, 0, false, false⟩)] ++ .replicate (2 ^ 63 - 1) (.loop (.remoteAddTimer 0 ())),
    calls, ?_⟩
  rw [TimerLoop.runQueue, Transition.run_append]
  refine Option.bind_eq_some_iff.mpr ⟨s, hfirst.runQueue, hrun.trans ?_⟩
  rw [hstate]
  rfl

/-- The next call draws the id of the first. -/
theorem queue_of_exhausted {arriving : List (Arriving Unit)} {s₁ s₂ s : TimerLoop Unit}
    (h : AddedAtOnce 0 () (exhausted arriving) s₁ s₂ s) :
    s.queue = ((exhausted []).queue.makeExternalTimerId.2.addTimerInLoop 0 (2 ^ 63, ())
      (2 ^ 63 + 1) ⟨0, 0, false, false⟩).2 := by
  have hqueue : (exhausted arriving).queue = (exhausted []).queue := rfl
  have hid : (exhausted []).queue.makeExternalTimerId.1.value = 2 ^ 63 + 1 := by decide
  have hnumber : (exhausted arriving).registered = 2 ^ 63 := rfl
  have hclock : (exhausted arriving).clock = 0 := rfl
  rw [h.state, hqueue, hid, hnumber, hclock]

/-- The timer of the first external id is still there when the id is drawn again. -/
theorem not_represented_of_wrap : ¬ ∀ (epoch : Int) (steps : List (QueueStep Unit))
    (s : TimerLoop Unit), (start epoch).runQueue steps = some s →
      ∃ free bucket, s.queue.Represented free bucket := by
  intro hall
  obtain ⟨steps, arriving, hrun⟩ := exists_run_exhausted
  obtain ⟨_, _, s, hlast⟩ := exists_addedAtOnce (exhausted arriving) rfl rfl 0 ()
  obtain ⟨free, bucket, hrep⟩ := hall 0 (steps ++ _) s (by
    rw [runQueue, Transition.run_append]
    exact Option.bind_eq_some_iff.mpr ⟨_, hrun, hlast.runQueue⟩)
  have hmap : ∀ i < 2, s.queue.externalTimerSlots (2 ^ 63 + 1) = some i := by
    intro i hi
    rw [hrep.external, queue_of_exhausted hlast]
    interval_cases i <;> decide
  have h₀ := hmap 0 (by decide)
  rw [hmap 1 (by decide)] at h₀
  cases h₀

end TimerLoop

end NebulaRpc.Net
