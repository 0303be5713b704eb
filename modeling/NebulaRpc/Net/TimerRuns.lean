import NebulaRpc.Net.TimerWheel

/-!
# Runs of the timer queue

Sequences of `AddTimerInLoop`, `CancelInLoop` and `AdvanceWheel` whose actions do not call back into
the queue. `TimerRun.step` numbers the timers as they are registered and records every invocation
with its tick; the number is carried in the action, which the queue never looks at. Each timer is
invoked once, at its tick, unless it is cancelled before.
-/

namespace NebulaRpc.Net

variable {α β : Type*}

namespace TimerQueue

variable {q q' : TimerQueue α} {B B' : Nat × Nat → List Nat} {i : Nat}

/-! ## `ExpireCurrentBucket` without callbacks -/

/-- The loop of `ExpireCurrentBucket` with the actions it invokes. -/
def expireLoop (bucket : Nat) : Nat → TimerQueue α → List α × TimerQueue α
  | 0, q => ([], q)
  | fuel + 1, q =>
    match q.expireStep bucket with
    | .done => ([], q)
    | .replaced q => expireLoop bucket fuel q
    | .due _ action q =>
      let (actions, q) := expireLoop bucket fuel q
      (action.toList ++ actions, q)

/-- All timers of the current bucket are due (`expireCurrentBucket_spec`), so that the loop takes
one iteration for each of them. -/
def expireCurrentBucket (q : TimerQueue α) : List α × TimerQueue α :=
  expireLoop (q.currentTick % kWheelSize) q.slotCount q

/-- `AdvanceWheel`, with the actions invoked and the ticks at which they are. -/
def advanceWheel : Nat → TimerQueue α → List (Nat × α) × TimerQueue α
  | 0, q => ([], q)
  | expirations + 1, q =>
    let q := q.advanceTick
    let tick := q.currentTick
    let (actions, q) := q.expireCurrentBucket
    let (log, q) := advanceWheel expirations q
    (actions.map (tick, ·) ++ log, q)

/-- What draining the bucket `b` does when all of its timers are due. -/
structure Drained (q : TimerQueue α) (B : Nat × Nat → List Nat) (b : Nat) (actions : List α)
    (q' : TimerQueue α) (B' : Nat × Nat → List Nat) : Prop where
  coherent : Coherent q' B'
  clock : SameClock q q'
  idle : IdleDisarmed q → IdleDisarmed q'
  filed : ∀ j, q'.filed j = if j ∈ B (0, b) then none else q.filed j
  bucket : ∀ p, B' p = if p = (0, b) then [] else B p
  actions_eq : actions = (B (0, b)).filterMap fun i => (q.filed i).map (·.timer.action)

theorem Emptied.bucket (h : Coherent q B) {p : Nat × Nat} {rest : List Nat}
    (hB : B p = i :: rest) (p' : Nat × Nat) :
    pull B i p' = if p' = p then rest else B p' := by
  unfold pull
  split
  · next hp => subst hp; rw [hB, List.erase_cons_head]
  · next hp => exact List.erase_of_not_mem (h.notMem_of_ne (by simp [hB]) hp)

theorem Coherent.expireLoop (h : Coherent q B) {b fuel : Nat} (hfuel : (B (0, b)).length ≤ fuel)
    (hdue : ∀ i ∈ B (0, b), ∀ f, q.filed i = some f → q.dueTick f ≤ q.currentTick) :
    ∃ B', Drained q B b (q.expireLoop b fuel).1 (q.expireLoop b fuel).2 B' := by
  induction fuel generalizing q B with
  | zero =>
    have hempty : B (0, b) = [] := List.length_eq_zero_iff.mp (Nat.le_zero.mp hfuel)
    refine ⟨B, h, .refl q, fun hidle => hidle, ?_, ?_, ?_⟩
    · simp [hempty, TimerQueue.expireLoop]
    · intro p
      split
      · next hp => rw [hp, hempty]
      · rfl
    · simp [hempty, TimerQueue.expireLoop]
  | succ fuel ih =>
    have hstep := h.expireStep b
    unfold TimerQueue.expireLoop
    cases hex : q.expireStep b with
    | done =>
      rw [hex] at hstep
      refine ⟨B, h, .refl q, fun hidle => hidle, ?_, ?_, ?_⟩
      · simp [hstep]
      · intro p
        split
        · next hp => rw [hp, hstep]
        · rfl
      · simp [hstep]
    | replaced q' =>
      rw [hex] at hstep
      obtain ⟨i, rest, f, hB, hf, hlate, -⟩ := hstep
      exact absurd (hdue i (by simp [hB]) f hf) (by omega)
    | due deadline action q' =>
      rw [hex] at hstep
      obtain ⟨i, rest, f, hB, hf, -, -, rfl, hem⟩ := hstep
      have hbucket := Emptied.bucket h hB
      have hnotMem : i ∉ rest := by
        have hnodup := (h.linked.list (0, b)).nodup
        rw [hB] at hnodup
        exact (List.nodup_cons.mp hnodup).1
      have hrest : pull B i (0, b) = rest := by rw [hbucket, if_pos rfl]
      have hsame : ∀ j ∈ rest, q'.filed j = q.filed j := by
        intro j hj
        have hji : j ≠ i := fun e => hnotMem (e ▸ hj)
        rw [hem.filed, if_neg hji]
      obtain ⟨B', hdr⟩ := ih hem.coherent (by simpa [hrest, hB] using hfuel) (by
        intro j hj g hg
        rw [hrest] at hj
        rw [hsame j hj] at hg
        rw [hem.clock.currentTick, dueTick, hem.clock.deadlineTick]
        exact hdue j (by simp [hB, hj]) g hg)
      refine ⟨B', hdr.coherent, hem.clock.trans hdr.clock, ?_, ?_, ?_, ?_⟩
      · intro hidle
        refine hdr.idle fun hdis => ?_
        rw [hem.clock.timerFdArmed] at hdis
        rw [hem.count, hidle hdis]
      · intro j
        rw [hdr.filed, hrest, hem.filed, hB]
        by_cases hji : j = i
        · subst hji; simp
        · simp [hji]
      · intro p
        rw [hdr.bucket, hbucket]
        split <;> rfl
      · show [f.timer.action] ++ (TimerQueue.expireLoop b fuel q').1 = _
        rw [hB, hdr.actions_eq, hrest]
        simp only [List.filterMap_cons, hf, Option.map_some, List.singleton_append,
          List.cons.injEq, true_and]
        exact List.filterMap_congr fun j hj => by rw [hsame j hj]

/-- What the queue does in one tick. -/
structure Ticked (q : TimerQueue α) (B₁ : Nat × Nat → List Nat) (actions : List α)
    (q' : TimerQueue α) (B' : Nat × Nat → List Nat) : Prop where
  turned : Coherent q.advanceTick B₁
  same : SameTimers q.nextTick q.advanceTick
  staged : Staged 0 q.advanceTick
  drained : Drained q.advanceTick B₁ (q.advanceTick.currentTick % kWheelSize) actions q' B'
  settled : Settled q'

/-- Exactly the timers that are due stand in the bucket of the tick. -/
theorem Staged.mem_bucket_iff (hst : Staged 0 q) (h : Coherent q B) {f : Filed α}
    (hf : q.filed i = some f) :
    i ∈ B (0, q.currentTick % kWheelSize) ↔ q.dueTick f ≤ q.currentTick := by
  have hready := ready_of_stage (hst i f hf)
  rw [h.mem_iff]
  unfold Ready at hready
  constructor
  · rintro ⟨g, hg, hplace⟩
    obtain rfl : f = g := by simpa using hf.symm.trans hg
    by_contra hlate
    rw [if_neg hlate, hplace] at hready
    simp only [kWheelSize] at hready
    generalize hb : q.currentTick % 10 = b at hready
    cases hready with
    | near _ hlt hnear => omega
    | overdue => omega
  · intro hdue
    rw [if_pos hdue] at hready
    exact ⟨f, hf, Prod.ext hready.1 hready.2⟩

/-- Behind a turn of the wheel the bucket of the tick is drained. -/
theorem Staged.tick {B₁ : Nat × Nat → List Nat} (hst : Staged 0 q.advanceTick)
    (hco : Coherent q.advanceTick B₁) (hsame : SameTimers q.nextTick q.advanceTick) :
    ∃ B', Ticked q B₁ q.advanceTick.expireCurrentBucket.1 q.advanceTick.expireCurrentBucket.2
      B' := by
  obtain ⟨B', hdr⟩ := hco.expireLoop (b := q.advanceTick.currentTick % kWheelSize)
    (hco.length_bucket_le _) (by
      intro i hi f hf
      exact (hst.mem_bucket_iff hco hf).mp hi)
  refine ⟨B', hco, hsame, hst, hdr, ?_⟩
  have hclock : (q.advanceTick.expireCurrentBucket.2).currentTick = q.advanceTick.currentTick :=
    hdr.clock.currentTick
  intro i f hf
  have hf' := hf
  rw [show q.advanceTick.expireCurrentBucket.2.filed i = _ from hdr.filed i] at hf'
  split at hf'
  · cases hf'
  · next hnot =>
    have hready := ready_of_stage (hst i f hf')
    unfold Ready at hready
    rw [if_neg (fun hdue => hnot ((hst.mem_bucket_iff hco hf').mpr hdue))] at hready
    rw [hclock, dueTick, show q.advanceTick.expireCurrentBucket.2.deadlineTick _ = _ from
      hdr.clock.deadlineTick _]
    exact hready

theorem Coherent.tick (h : Coherent q B) (hset : Settled q) :
    ∃ B₁ B', Ticked q B₁ q.advanceTick.expireCurrentBucket.1 q.advanceTick.expireCurrentBucket.2
      B' := by
  obtain ⟨B₁, hco, hsame, hst⟩ := h.advanceTick hset
  exact ⟨B₁, hst.tick hco hsame⟩

/-! ## The invariant -/

/-- The state between two operations, while the bucket `b` is being drained or outside of that. -/
structure Sound (b : Option Nat) (q : TimerQueue α) : Prop where
  coherent : ∃ B, Coherent q B
  idle : IdleDisarmed q
  resting : Resting b q

section Sound

variable {b : Option Nat}

theorem Sound.empty (b : Option Nat) : Sound b ({} : TimerQueue α) where
  coherent := ⟨_, .empty⟩
  idle := fun _ => rfl
  resting := by
    have hsettled : Settled ({} : TimerQueue α) := by
      intro i f hf
      simp [filed, TimerSlot.filed] at hf
    cases b with
    | none => exact hsettled
    | some b => exact hsettled.draining b

theorem Sound.armed (h : Sound b q) {f : Filed α} (hf : q.filed i = some f) :
    q.timerFdArmed = true := by
  obtain ⟨B, hco⟩ := h.coherent
  by_contra hdis
  have hcount := h.idle (by simpa using hdis)
  have hinactive := hco.stored.count_eq_zero_iff.mp hcount i
  rw [filed_eq_none hinactive] at hf
  cases hf

/-- No timer is in the queue when `AddTimerInLoop` has to catch up with the clock. -/
theorem Sound.currentTick_synced (h : Sound b q) {f : Filed α} (hf : q.filed i = some f)
    (now : Int) : (q.synced now).currentTick = q.currentTick := by
  rw [synced, if_pos (h.armed hf)]

theorem Sound.cancelInLoop (h : Sound b q) (id : TimerId) : Sound b (q.cancelInLoop id) := by
  obtain ⟨B, hco⟩ := h.coherent
  obtain ⟨B', hcut⟩ := hco.cancelInLoop h.idle id
  refine ⟨⟨B', hcut.coherent⟩, hcut.idle, h.resting.of_placed fun i f hf => .inl ?_⟩
  rw [hcut.filed, Option.filter_eq_some_iff] at hf
  refine ⟨hf.1, hcut.currentTick, ?_⟩
  rw [dueTick, TimerQueue.deadlineTick, hcut.wheelEpoch]
  rfl

theorem Sound.addTimerInLoop (h : Sound b q) (deadline : Int) (a : α) {x : Nat}
    (hx : FreshExternal q x) (env : AddEnv) :
    Sound b (q.addTimerInLoop deadline a x env).2 := by
  obtain ⟨B, hco⟩ := h.coherent
  have hspec := hco.addTimerInLoop deadline a hx env
  generalize q.addTimerInLoop deadline a x env = result at hspec
  obtain ⟨_ | id, q'⟩ := result
  · refine ⟨⟨B, hspec.coherent⟩, fun hdis => ?_, h.resting.of_placed fun i f hf => .inl ?_⟩
    · rw [hspec.count]
      exact h.idle (hspec.armed ▸ hdis)
    · rw [hspec.filed] at hf
      refine ⟨hf, hspec.currentTick.trans (h.currentTick_synced hf _), ?_⟩
      rw [dueTick, TimerQueue.deadlineTick, hspec.wheelEpoch]
      rfl
  · obtain ⟨i, f, hadd⟩ := hspec
    have hdue : ∀ g : Filed α, q'.dueTick g = q.dueTick g := by
      intro g
      rw [dueTick, TimerQueue.deadlineTick, hadd.wheelEpoch]
      rfl
    refine ⟨⟨_, hadd.coherent⟩, fun hdis => ?_, h.resting.of_placed fun j g hg => ?_⟩
    · rw [hadd.armed] at hdis
      cases hdis
    · rw [hadd.filed] at hg
      split at hg
      · obtain rfl : f = g := by simpa using hg
        right
        rw [hdue, dueTick, hadd.place_eq, hadd.rounds_eq, hadd.deadline_eq]
        exact placed_expiryFor _ _
      · exact .inl ⟨hg, hadd.currentTick.trans (h.currentTick_synced hg _), hdue g⟩

theorem finishRead_eq (q : TimerQueue α) :
    q.finishRead = { q with
      timerFd := q.finishRead.timerFd, timerFdArmed := q.finishRead.timerFdArmed } := by
  unfold finishRead disarmTimerFd
  split_ifs <;> rfl

theorem Sound.finishRead (h : Sound b q) : Sound b q.finishRead := by
  obtain ⟨B, hco⟩ := h.coherent
  have heq := finishRead_eq q
  refine ⟨⟨B, heq ▸ hco.congr rfl rfl rfl rfl rfl rfl⟩, ?_, ?_⟩
  · intro hdis
    by_cases hzero : q.activeTimerCount = 0
    · rw [heq]; exact hzero
    · rw [TimerQueue.finishRead, if_neg hzero] at hdis ⊢
      exact h.idle hdis
  · rw [heq]
    exact h.resting.of_placed fun i f hf => .inl ⟨hf, rfl, rfl⟩

/-- The bucket has been drained. -/
theorem Sound.of_done {b : Nat} (h : Sound (some b) q) (hdone : q.expireStep b = .done) :
    Sound none q := by
  obtain ⟨B, hco⟩ := h.coherent
  have hspec := hco.expireStep b
  rw [hdone] at hspec
  exact ⟨h.coherent, h.idle, Draining.settled h.resting hco hspec⟩

/-- A timer that is not due is moved. -/
theorem Sound.of_replaced {b : Nat} (h : Sound (some b) q)
    (hreplaced : q.expireStep b = .replaced q') :
    Sound (some b) q' ∧ SameTimers q q' ∧
      ∃ i f, q.filed i = some f ∧ f.place = (0, b) ∧ q.currentTick < q.dueTick f := by
  obtain ⟨B, hco⟩ := h.coherent
  have hspec := hco.expireStep b
  rw [hreplaced] at hspec
  obtain ⟨i, rest, f, hB, hf, hlate, hre⟩ := hspec
  have hplace : f.place = (0, b) := by
    obtain ⟨f', hf', hplace⟩ := (hco.mem_iff (0, b)).mp (by simp [hB] : i ∈ B (0, b))
    obtain rfl : f = f' := by simpa using hf.symm.trans hf'
    exact hplace
  refine ⟨⟨⟨_, hre.coherent⟩, ?_, h.resting.of_placed ?_⟩, ⟨hre.clock, hre.count, ?_⟩, i, f, hf,
    hplace, hlate⟩
  · intro hdis
    rw [hre.count]
    exact h.idle (hre.clock.timerFdArmed ▸ hdis)
  · intro j g hg
    have hdue : q'.dueTick g = q.dueTick g := hre.clock.deadlineTick _
    rw [hre.filed] at hg
    split at hg
    · right
      rw [hf] at hg
      obtain rfl : _ = g := by simpa using hg
      rw [hre.clock.currentTick, hdue]
      exact placed_placeFor hlate
    · exact .inl ⟨hg, hre.clock.currentTick, hdue⟩
  · intro j
    rw [hre.filed]
    split
    · next hj =>
      rw [hj, hf]
      rfl
    · rfl

/-- A timer that is due is taken out. -/
theorem Sound.of_due {b : Nat} {deadline : Int} {action : Option α} (h : Sound (some b) q)
    (hdue : q.expireStep b = .due deadline action q') :
    Sound (some b) q' ∧ SameClock q q' ∧
      ∃ i f, q.filed i = some f ∧ q.dueTick f ≤ q.currentTick ∧ deadline = f.timer.deadline ∧
        action = some f.timer.action ∧ (∀ j, q'.filed j = if j = i then none else q.filed j) ∧
        q'.activeTimerCount + 1 = q.activeTimerCount := by
  obtain ⟨B, hco⟩ := h.coherent
  have hspec := hco.expireStep b
  rw [hdue] at hspec
  obtain ⟨i, rest, f, hB, hf, hle, hdead, haction, hem⟩ := hspec
  have hpos : 0 < q.activeTimerCount := by
    refine Nat.pos_of_ne_zero fun hzero => ?_
    have hinactive := hco.stored.count_eq_zero_iff.mp hzero i
    rw [filed_eq_none hinactive] at hf
    cases hf
  have hcount := hem.count
  refine ⟨⟨⟨_, hem.coherent⟩, ?_, h.resting.of_placed ?_⟩, hem.clock, i, f, hf, hle, hdead,
    haction, hem.filed, by omega⟩
  · intro hdis
    have := h.idle (hem.clock.timerFdArmed ▸ hdis)
    omega
  · intro j g hg
    rw [hem.filed] at hg
    split at hg
    · cases hg
    · exact .inl ⟨hg, hem.clock.currentTick, hem.clock.deadlineTick _⟩

/-- The wheel has been turned and the bucket of the new tick is to be drained; all of its timers
are due. -/
theorem Sound.of_advanceTick (h : Sound none q) :
    Sound (some (q.advanceTick.currentTick % kWheelSize)) q.advanceTick ∧
      SameTimers q.nextTick q.advanceTick ∧
      ∀ i f, q.advanceTick.filed i = some f →
        f.place = (0, q.advanceTick.currentTick % kWheelSize) →
          q.advanceTick.dueTick f ≤ q.advanceTick.currentTick := by
  obtain ⟨B, hco⟩ := h.coherent
  obtain ⟨B₁, hco₁, hsame, hst⟩ := hco.advanceTick h.resting
  refine ⟨⟨⟨B₁, hco₁⟩, fun hdis => ?_, hst.draining⟩, hsame, fun i f hf hplace => ?_⟩
  · rw [hsame.count]
    exact h.idle (hsame.clock.timerFdArmed ▸ hdis)
  · exact (hst.mem_bucket_iff hco₁ hf).mp ((hco₁.mem_iff _).mpr ⟨f, hf, hplace⟩)

end Sound

theorem Sound.advanceTick (h : Sound none q) : Sound none q.advanceTick.expireCurrentBucket.2 := by
  obtain ⟨B, hco⟩ := h.coherent
  obtain ⟨B₁, B', ht⟩ := hco.tick h.resting
  refine ⟨⟨B', ht.drained.coherent⟩, ht.drained.idle fun hdis => ?_, ht.settled⟩
  rw [ht.same.count]
  exact h.idle (ht.same.clock.timerFdArmed ▸ hdis)

theorem Sound.advanceWheel (h : Sound none q) (n : Nat) : Sound none (q.advanceWheel n).2 := by
  induction n generalizing q with
  | zero => exact h
  | succ n ih => exact ih h.advanceTick

theorem Sound.currentTick_advanceWheel (h : Sound none q) (n : Nat) :
    (q.advanceWheel n).2.currentTick = q.currentTick + n ∧
      (q.advanceWheel n).2.wheelEpoch = q.wheelEpoch := by
  induction n generalizing q with
  | zero => exact ⟨rfl, rfl⟩
  | succ n ih =>
    obtain ⟨B, hco⟩ := h.coherent
    obtain ⟨B₁, B', ht⟩ := hco.tick h.resting
    obtain ⟨htick, hepoch⟩ := ih h.advanceTick
    have h₁ : q.advanceTick.expireCurrentBucket.2.currentTick = q.currentTick + 1 :=
      ht.drained.clock.currentTick.trans ht.same.clock.currentTick
    have h₂ : q.advanceTick.expireCurrentBucket.2.wheelEpoch = q.wheelEpoch :=
      ht.drained.clock.wheelEpoch.trans ht.same.clock.wheelEpoch
    refine ⟨?_, hepoch.trans h₂⟩
    show (q.advanceTick.expireCurrentBucket.2.advanceWheel n).2.currentTick = _
    rw [htick, h₁]
    omega

end TimerQueue

/-! ## Runs -/

/-- A call of the loop thread; `finishRead` is what `HandleRead` does behind `AdvanceWheel`. -/
inductive TimerOp (β : Type*) where
  | addTimer (deadline : Int) (action : β) (externalTimerId : Nat) (env : TimerQueue.AddEnv)
  | cancel (id : TimerId)
  | advanceWheel (expirations : Nat)
  | finishRead

/-- The queue, the number of registrations so far and the invocations: tick, number, action. -/
structure TimerRun (β : Type*) where
  queue : TimerQueue (Nat × β) := {}
  registered : Nat := 0
  log : List (Nat × Nat × β) := []

namespace TimerRun

def step (r : TimerRun β) : TimerOp β → TimerRun β
  | .addTimer deadline action x env =>
    { r with
      queue := (r.queue.addTimerInLoop deadline (r.registered, action) x env).2
      registered := r.registered + 1 }
  | .cancel id => { r with queue := r.queue.cancelInLoop id }
  | .advanceWheel expirations =>
    { r with
      queue := (r.queue.advanceWheel expirations).2
      log := r.log ++ (r.queue.advanceWheel expirations).1 }
  | .finishRead => { r with queue := r.queue.finishRead }

def run (r : TimerRun β) (ops : List (TimerOp β)) : TimerRun β := ops.foldl step r

/-- External ids come from `MakeExternalTimerId`, which gives each of them out once. -/
def Allows (r : TimerRun β) : TimerOp β → Prop
  | .addTimer _ _ x _ => r.queue.FreshExternal x
  | _ => True

def Admissible (r : TimerRun β) : List (TimerOp β) → Prop
  | [] => True
  | op :: ops => r.Allows op ∧ Admissible (r.step op) ops

/-- The invocations of the timer registered as number `k`. -/
def invocations (k : Nat) (log : List (Nat × Nat × β)) : List (Nat × Nat × β) :=
  log.filter fun event => event.2.1 = k

theorem run_append (r : TimerRun β) (ops ops' : List (TimerOp β)) :
    r.run (ops ++ ops') = (r.run ops).run ops' :=
  List.foldl_append

theorem admissible_append {r : TimerRun β} {ops ops' : List (TimerOp β)} :
    r.Admissible (ops ++ ops') ↔ r.Admissible ops ∧ (r.run ops).Admissible ops' := by
  induction ops generalizing r with
  | nil => simp [Admissible, run]
  | cons op ops ih =>
    rw [List.cons_append, Admissible, Admissible, ih, and_assoc]
    rfl

@[simp]
theorem invocations_append (k : Nat) (log log' : List (Nat × Nat × β)) :
    invocations k (log ++ log') = invocations k log ++ invocations k log' :=
  List.filter_append ..

/-! ## One timer in a queue of numbered timers -/

variable {q : TimerQueue (Nat × β)} {k : Nat} {x : Timer (Nat × β)}

/-- The timer with the number `k` is not in the queue. -/
def Gone (q : TimerQueue (Nat × β)) (k : Nat) : Prop :=
  ∀ j g, q.filed j = some g → g.timer.action.1 ≠ k

/-- The timer is in the queue, and no other has its number. -/
def Live (q : TimerQueue (Nat × β)) (x : Timer (Nat × β)) : Prop :=
  ∃ i f, q.filed i = some f ∧ f.timer = x ∧
    ∀ j g, q.filed j = some g → g.timer.action.1 = x.action.1 → j = i

/-- The tick at which a timer in the queue is to be invoked. -/
def fireTick (q : TimerQueue (Nat × β)) (x : Timer (Nat × β)) : Nat :=
  max (q.deadlineTick x.deadline) (q.currentTick + 1)

/-- The one element of a list without repetitions that passes the test. -/
theorem filter_filterMap_eq {ι γ : Type*} [DecidableEq ι] {g : ι → Option γ} {p : γ → Bool}
    {i : ι} {a : γ} {xs : List ι} (hnodup : xs.Nodup) (hi : g i = some a) (hp : p a = true)
    (huniq : ∀ j b, g j = some b → p b = true → j = i) :
    (xs.filterMap g).filter p = if i ∈ xs then [a] else [] := by
  induction xs with
  | nil => rfl
  | cons j xs ih =>
    obtain ⟨hj, hnodup⟩ := List.nodup_cons.mp hnodup
    specialize ih hnodup
    by_cases hji : j = i
    · subst hji
      rw [if_neg hj] at ih
      simp [hi, hp, ih]
    · cases hg : g j with
      | none => simp [hg, ih, Ne.symm hji]
      | some b =>
        have hb : p b = false := by
          by_contra hb
          exact hji (huniq j b hg (by simpa using hb))
        simp [hg, hb, ih, Ne.symm hji]

theorem filter_filterMap_eq_nil {ι γ : Type*} {g : ι → Option γ} {p : γ → Bool} {xs : List ι}
    (h : ∀ j b, g j = some b → p b = false) : (xs.filterMap g).filter p = [] := by
  rw [List.filter_eq_nil_iff]
  intro b hb
  obtain ⟨j, -, hj⟩ := List.mem_filterMap.mp hb
  simp [h j b hj]

theorem invocations_map (k tick : Nat) (actions : List (Nat × β)) :
    invocations k (actions.map (tick, ·)) = (actions.filter fun a => a.1 = k).map (tick, ·) := by
  simp [invocations, List.filter_map, Function.comp_def]

section Tick

variable {B₁ B' : Nat × Nat → List Nat} {actions : List (Nat × β)} {q' : TimerQueue (Nat × β)}

/-- A slot holds the same timer before and after the wheel has been turned. -/
theorem timer_of_sameTimers {q q' : TimerQueue (Nat × β)} (h : TimerQueue.SameTimers q q') {j : Nat}
    {g : Filed (Nat × β)} (hg : q'.filed j = some g) :
    ∃ f, q.filed j = some f ∧ f.timer = g.timer := by
  have hj := h.timer j
  rw [hg, Option.map_some] at hj
  exact Option.map_eq_some_iff.mp hj.symm

theorem Gone.sameTimers {q q' : TimerQueue (Nat × β)} (hgone : Gone q k)
    (h : TimerQueue.SameTimers q q') : Gone q' k := by
  intro j g hg
  obtain ⟨f, hf, htimer⟩ := timer_of_sameTimers h hg
  exact htimer ▸ hgone j f hf

theorem Live.sameTimers {q q' : TimerQueue (Nat × β)} (hlive : Live q x)
    (h : TimerQueue.SameTimers q q') : Live q' x := by
  obtain ⟨i, f, hf, rfl, huniq⟩ := hlive
  have hi := h.timer i
  rw [hf, Option.map_some] at hi
  obtain ⟨f', hf', htimer⟩ := Option.map_eq_some_iff.mp hi
  refine ⟨i, f', hf', htimer, fun j g hg hk => ?_⟩
  obtain ⟨g', hg', htimer'⟩ := timer_of_sameTimers h hg
  exact huniq j g' hg' (htimer' ▸ hk)

theorem Gone.tick (hgone : Gone q k) (ht : TimerQueue.Ticked q B₁ actions q' B') :
    (actions.filter fun a => a.1 = k) = [] ∧ Gone q' k := by
  have hgone₁ : Gone q.advanceTick k := Gone.sameTimers (q := q.nextTick) hgone ht.same
  refine ⟨?_, fun j g hg => ?_⟩
  · rw [ht.drained.actions_eq]
    refine filter_filterMap_eq_nil fun j a ha => ?_
    obtain ⟨g, hg, rfl⟩ := Option.map_eq_some_iff.mp ha
    simpa using hgone₁ j g hg
  · rw [ht.drained.filed] at hg
    split at hg
    · cases hg
    · exact hgone₁ j g hg

/-- In one tick a timer is invoked if it is due and stays in the queue otherwise. -/
theorem Live.tick (hlive : Live q x) (ht : TimerQueue.Ticked q B₁ actions q' B') :
    if q.deadlineTick x.deadline ≤ q.currentTick + 1 then
      (actions.filter fun a => a.1 = x.action.1) = [x.action] ∧ Gone q' x.action.1
    else (actions.filter fun a => a.1 = x.action.1) = [] ∧ Live q' x := by
  have hlive₁ : Live q.advanceTick x := Live.sameTimers (q := q.nextTick) hlive ht.same
  obtain ⟨i, f, hf, rfl, huniq⟩ := hlive₁
  have htick : q.advanceTick.currentTick = q.currentTick + 1 := ht.same.clock.currentTick
  have hdue : q.advanceTick.dueTick f = q.deadlineTick f.timer.deadline :=
    ht.same.clock.deadlineTick _
  have hmem := ht.staged.mem_bucket_iff ht.turned hf
  rw [htick, hdue] at hmem
  have hfilter := filter_filterMap_eq (g := fun j =>
      (q.advanceTick.filed j).map (·.timer.action)) (p := fun a => a.1 = f.timer.action.1)
    (ht.turned.linked.list (0, (q.currentTick + 1) % kWheelSize)).nodup (by rw [hf]; rfl) (by simp)
    (by
      intro j a ha hk
      obtain ⟨g, hg, rfl⟩ := Option.map_eq_some_iff.mp ha
      exact huniq j g hg (by simpa using hk))
  have hactions := ht.drained.actions_eq
  rw [htick] at hactions
  have hfiled := ht.drained.filed
  rw [htick] at hfiled
  split
  · next hle =>
    rw [if_pos (hmem.mpr hle)] at hfilter
    refine ⟨hactions ▸ hfilter, fun j g hg hk => ?_⟩
    rw [hfiled] at hg
    split at hg
    · cases hg
    · next hnot => exact hnot (huniq j g hg hk ▸ hmem.mpr hle)
  · next hlt =>
    have hnot := fun hi => hlt (hmem.mp hi)
    rw [if_neg hnot] at hfilter
    refine ⟨hactions ▸ hfilter, i, f, by rw [hfiled, if_neg hnot, hf], rfl, fun j g hg hk => ?_⟩
    rw [hfiled] at hg
    split at hg
    · cases hg
    · exact huniq j g hg hk

end Tick

section Wheel

open TimerQueue

theorem advanceWheel_succ (q : TimerQueue (Nat × β)) (n : Nat) :
    q.advanceWheel (n + 1) =
      (q.advanceTick.expireCurrentBucket.1.map (q.advanceTick.currentTick, ·) ++
          (q.advanceTick.expireCurrentBucket.2.advanceWheel n).1,
        (q.advanceTick.expireCurrentBucket.2.advanceWheel n).2) :=
  rfl

theorem Gone.advanceWheel (hsound : Sound none q) (hgone : Gone q k) (n : Nat) :
    invocations k (q.advanceWheel n).1 = [] ∧ Gone (q.advanceWheel n).2 k := by
  induction n generalizing q with
  | zero => exact ⟨rfl, hgone⟩
  | succ n ih =>
    obtain ⟨B, hco⟩ := hsound.coherent
    obtain ⟨B₁, B', ht⟩ := hco.tick hsound.resting
    obtain ⟨hnone, hgone'⟩ := hgone.tick ht
    obtain ⟨hrest, hgone''⟩ := ih hsound.advanceTick hgone'
    refine ⟨?_, hgone''⟩
    rw [advanceWheel_succ, invocations_append, invocations_map, hnone, hrest]
    rfl

/-- `AdvanceWheel` invokes a timer of the queue at its tick, if it gets that far. -/
theorem Live.advanceWheel (hsound : Sound none q) (hlive : Live q x) (n : Nat) :
    if fireTick q x ≤ q.currentTick + n then
      invocations x.action.1 (q.advanceWheel n).1 = [(fireTick q x, x.action)] ∧
        Gone (q.advanceWheel n).2 x.action.1
    else invocations x.action.1 (q.advanceWheel n).1 = [] ∧ Live (q.advanceWheel n).2 x ∧
      fireTick (q.advanceWheel n).2 x = fireTick q x := by
  induction n generalizing q with
  | zero =>
    rw [if_neg (by unfold fireTick; omega)]
    exact ⟨rfl, hlive, rfl⟩
  | succ n ih =>
    obtain ⟨B, hco⟩ := hsound.coherent
    obtain ⟨B₁, B', ht⟩ := hco.tick hsound.resting
    have hstep := hlive.tick ht
    have htick : q.advanceTick.currentTick = q.currentTick + 1 := ht.same.clock.currentTick
    have htick' : q.advanceTick.expireCurrentBucket.2.currentTick = q.currentTick + 1 :=
      ht.drained.clock.currentTick.trans htick
    have hdead : q.advanceTick.expireCurrentBucket.2.deadlineTick x.deadline =
        q.deadlineTick x.deadline :=
      (ht.drained.clock.deadlineTick _).trans (ht.same.clock.deadlineTick _)
    rw [advanceWheel_succ, invocations_append, invocations_map, htick]
    by_cases hdue : q.deadlineTick x.deadline ≤ q.currentTick + 1
    · -- invoked in this tick
      rw [if_pos hdue] at hstep
      obtain ⟨hnone, hgone⟩ := Gone.advanceWheel hsound.advanceTick hstep.2 n
      have hfire : fireTick q x = q.currentTick + 1 := by unfold fireTick; omega
      rw [if_pos (by omega), hstep.1, hnone, hfire]
      exact ⟨rfl, hgone⟩
    · rw [if_neg hdue] at hstep
      have hsame : fireTick q.advanceTick.expireCurrentBucket.2 x = fireTick q x := by
        unfold fireTick
        rw [hdead, htick']
        omega
      have hih := ih hsound.advanceTick hstep.2
      rw [hsame, htick', show q.currentTick + 1 + n = q.currentTick + (n + 1) by omega] at hih
      rw [hstep.1]
      exact hih

end Wheel

/-! ## One timer in a run -/

variable {r : TimerRun β}

/-- Everything is in order, and no number is used before it is given out. -/
structure Inv (r : TimerRun β) : Prop where
  sound : r.queue.Sound none
  fresh : ∀ k, r.registered ≤ k → Gone r.queue k ∧ invocations k r.log = []

theorem Inv.empty : Inv ({} : TimerRun β) where
  sound := .empty none
  fresh := by
    refine fun k _ => ⟨fun i f hf => ?_, rfl⟩
    simp [TimerQueue.filed, TimerSlot.filed] at hf

/-- A timer in the queue after an operation was there before, unless it has just been added. -/
theorem filed_addTimer (hinv : Inv r) {deadline : Int} {a : β} {x : Nat} {env : TimerQueue.AddEnv}
    (hx : r.queue.FreshExternal x) {j : Nat} {g : Filed (Nat × β)}
    (hg : (r.step (.addTimer deadline a x env)).queue.filed j = some g) :
    r.queue.filed j = some g ∨ r.queue.filed j = none ∧ g.timer.action = (r.registered, a) := by
  obtain ⟨B, hco⟩ := hinv.sound.coherent
  have hspec := hco.addTimerInLoop deadline (r.registered, a) hx env
  simp only [step] at hg
  generalize r.queue.addTimerInLoop deadline (r.registered, a) x env = result at hspec hg
  obtain ⟨_ | id, q'⟩ := result
  · rw [hspec.filed] at hg
    exact .inl hg
  · obtain ⟨i, f, hadd⟩ := hspec
    rw [hadd.filed] at hg
    split at hg
    · next hj =>
      obtain rfl : f = g := by simpa using hg
      exact .inr ⟨hj ▸ hadd.vacant, hadd.action_eq⟩
    · exact .inl hg

theorem filed_addTimer_of_filed (hinv : Inv r) {deadline : Int} {a : β} {x : Nat}
    {env : TimerQueue.AddEnv} (hx : r.queue.FreshExternal x) {j : Nat} {g : Filed (Nat × β)}
    (hg : r.queue.filed j = some g) :
    (r.step (.addTimer deadline a x env)).queue.filed j = some g := by
  obtain ⟨B, hco⟩ := hinv.sound.coherent
  have hspec := hco.addTimerInLoop deadline (r.registered, a) hx env
  simp only [step]
  generalize r.queue.addTimerInLoop deadline (r.registered, a) x env = result at hspec
  obtain ⟨_ | id, q'⟩ := result
  · rw [hspec.filed, hg]
  · obtain ⟨i, f, hadd⟩ := hspec
    rw [hadd.filed]
    split
    · next hj =>
      rw [hj, hadd.vacant] at hg
      cases hg
    · exact hg

/-- The number that an operation gives out. -/
def Registers (r : TimerRun β) (k : Nat) : TimerOp β → Prop
  | .addTimer .. => k = r.registered
  | _ => False

/-- A timer that is gone stays gone. -/
theorem Gone.step (hinv : Inv r) {op : TimerOp β} (hallow : r.Allows op)
    (hgone : Gone r.queue k) (hnew : ¬ r.Registers k op) :
    Gone (r.step op).queue k ∧ invocations k (r.step op).log = invocations k r.log := by
  cases op with
  | addTimer deadline a x env =>
    refine ⟨fun j g hg => ?_, rfl⟩
    obtain hold | ⟨-, haction⟩ := filed_addTimer hinv hallow hg
    · exact hgone j g hold
    · rw [haction]
      exact fun hk => hnew hk.symm
  | cancel id =>
    obtain ⟨B, hco⟩ := hinv.sound.coherent
    obtain ⟨B', hcut⟩ := hco.cancelInLoop hinv.sound.idle id
    refine ⟨fun j g hg => ?_, rfl⟩
    simp only [TimerRun.step] at hg
    rw [hcut.filed, Option.filter_eq_some_iff] at hg
    exact hgone j g hg.1
  | advanceWheel n =>
    obtain ⟨hnone, hgone'⟩ := hgone.advanceWheel hinv.sound n
    refine ⟨hgone', ?_⟩
    simp only [TimerRun.step, invocations_append, hnone, List.append_nil]
  | finishRead =>
    refine ⟨?_, rfl⟩
    simp only [TimerRun.step]
    rw [TimerQueue.finishRead_eq]
    exact hgone

theorem Inv.step (hinv : Inv r) {op : TimerOp β} (hallow : r.Allows op) : Inv (r.step op) := by
  have hmono : r.registered ≤ (r.step op).registered ∧
      ∀ k, (r.step op).registered ≤ k → ¬ r.Registers k op := by
    cases op with
    | addTimer => exact ⟨Nat.le_succ _, fun k hk heq => Nat.not_succ_le_self k (heq ▸ hk)⟩
    | cancel => exact ⟨le_rfl, fun _ _ => id⟩
    | advanceWheel => exact ⟨le_rfl, fun _ _ => id⟩
    | finishRead => exact ⟨le_rfl, fun _ _ => id⟩
  refine ⟨?_, fun k hk => ?_⟩
  · cases op with
    | addTimer deadline a x env => exact hinv.sound.addTimerInLoop _ _ hallow _
    | cancel id => exact hinv.sound.cancelInLoop id
    | advanceWheel n => exact hinv.sound.advanceWheel n
    | finishRead => exact hinv.sound.finishRead
  · obtain ⟨hgone, hnone⟩ := hinv.fresh k (hmono.1.trans hk)
    obtain ⟨hgone', hsame⟩ := hgone.step hinv hallow (hmono.2 k hk)
    exact ⟨hgone', hsame.trans hnone⟩

theorem Inv.run (hinv : Inv r) {ops : List (TimerOp β)} (hadm : r.Admissible ops) :
    Inv (r.run ops) := by
  induction ops generalizing r with
  | nil => exact hinv
  | cons op ops ih => exact ih (hinv.step hadm.1) hadm.2

theorem registered_step_ge (r : TimerRun β) (op : TimerOp β) :
    r.registered ≤ (r.step op).registered := by
  cases op <;> simp [step]

theorem currentTick_step_ge (hinv : Inv r) {op : TimerOp β} (hallow : r.Allows op) :
    r.queue.currentTick ≤ (r.step op).queue.currentTick := by
  obtain ⟨B, hco⟩ := hinv.sound.coherent
  cases op with
  | addTimer deadline a x env =>
    have hspec := hco.addTimerInLoop deadline (r.registered, a) hallow env
    simp only [step]
    generalize r.queue.addTimerInLoop deadline (r.registered, a) x env = result at hspec
    obtain ⟨_ | id, q'⟩ := result
    · rw [hspec.currentTick]; exact TimerQueue.currentTick_synced_ge ..
    · obtain ⟨i, f, hadd⟩ := hspec
      rw [hadd.currentTick]; exact TimerQueue.currentTick_synced_ge ..
  | cancel id =>
    obtain ⟨B', hcut⟩ := hco.cancelInLoop hinv.sound.idle id
    exact hcut.currentTick.ge
  | advanceWheel n =>
    simp only [step, (hinv.sound.currentTick_advanceWheel n).1]
    omega
  | finishRead =>
    simp only [step]
    rw [TimerQueue.finishRead_eq]

theorem currentTick_run_ge (hinv : Inv r) {ops : List (TimerOp β)} (hadm : r.Admissible ops) :
    r.queue.currentTick ≤ (r.run ops).queue.currentTick := by
  induction ops generalizing r with
  | nil => exact le_rfl
  | cons op ops ih =>
    exact (currentTick_step_ge hinv hadm.1).trans (ih (hinv.step hadm.1) hadm.2)

theorem Gone.run (hinv : Inv r) {ops : List (TimerOp β)} (hadm : r.Admissible ops)
    (hgone : Gone r.queue k) (hk : k < r.registered) :
    invocations k (r.run ops).log = invocations k r.log := by
  induction ops generalizing r with
  | nil => rfl
  | cons op ops ih =>
    have hnew : ¬ r.Registers k op := by
      cases op with
      | addTimer => exact fun heq => absurd heq hk.ne
      | _ => exact id
    obtain ⟨hgone', hsame⟩ := hgone.step hinv hadm.1 hnew
    exact (ih (hinv.step hadm.1) hadm.2 hgone' (hk.trans_le (registered_step_ge r op))).trans hsame

/-- A timer that is neither cancelled nor invoked by an operation stays, and so does its tick. -/
theorem Live.step (hinv : Inv r) {op : TimerOp β} (hallow : r.Allows op)
    (hlive : Live r.queue x) (hold : x.action.1 < r.registered)
    (hcancel : ∀ id, op = .cancel id → ¬ x.Named id)
    (hadvance : ∀ n, op = .advanceWheel n → r.queue.currentTick + n < fireTick r.queue x) :
    Live (r.step op).queue x ∧ fireTick (r.step op).queue x = fireTick r.queue x ∧
      invocations x.action.1 (r.step op).log = invocations x.action.1 r.log := by
  obtain ⟨B, hco⟩ := hinv.sound.coherent
  obtain ⟨i, f, hf, hfx, huniq⟩ := id hlive
  cases op with
  | addTimer deadline a y env =>
    have hfire : fireTick (r.step (.addTimer deadline a y env)).queue x = fireTick r.queue x := by
      have hsync : (r.queue.synced env.syncNow).currentTick = r.queue.currentTick := by
        rw [TimerQueue.synced, if_pos (hinv.sound.armed hf)]
      have hspec := hco.addTimerInLoop deadline (r.registered, a) hallow env
      simp only [TimerRun.step]
      generalize r.queue.addTimerInLoop deadline (r.registered, a) y env = result at hspec
      obtain ⟨_ | id, q'⟩ := result
      · rw [fireTick, hspec.currentTick, hsync, TimerQueue.deadlineTick, hspec.wheelEpoch]; rfl
      · obtain ⟨i, f, hadd⟩ := hspec
        rw [fireTick, hadd.currentTick, hsync, TimerQueue.deadlineTick, hadd.wheelEpoch]; rfl
    refine ⟨⟨i, f, filed_addTimer_of_filed hinv hallow hf, hfx, fun j g hg hk => ?_⟩, hfire, rfl⟩
    obtain hj | ⟨-, haction⟩ := filed_addTimer hinv hallow hg
    · exact huniq j g hj hk
    · rw [haction] at hk
      exact absurd hk (by simpa using hold.ne')
  | cancel id =>
    obtain ⟨B', hcut⟩ := hco.cancelInLoop hinv.sound.idle id
    have hno := hcancel id rfl
    refine ⟨⟨i, f, ?_, hfx, fun j g hg hk => ?_⟩, ?_, rfl⟩
    · simp only [TimerRun.step]
      rw [hcut.filed, hf, Option.filter_eq_some_iff]
      exact ⟨rfl, by rw [hfx]; simpa using hno⟩
    · simp only [TimerRun.step] at hg
      rw [hcut.filed, Option.filter_eq_some_iff] at hg
      exact huniq j g hg.1 hk
    · simp only [TimerRun.step, fireTick, TimerQueue.deadlineTick, hcut.wheelEpoch,
        hcut.currentTick]
  | advanceWheel n =>
    have hwheel := hlive.advanceWheel hinv.sound n
    rw [if_neg (by have := hadvance n rfl; omega)] at hwheel
    obtain ⟨hnone, hlive', hfire⟩ := hwheel
    refine ⟨hlive', hfire, ?_⟩
    simp only [TimerRun.step, invocations_append, hnone, List.append_nil]
  | finishRead =>
    simp only [TimerRun.step]
    rw [TimerQueue.finishRead_eq]
    exact ⟨hlive, rfl, trivial⟩

/-- One of the operations cancels the timer before the tick at which it is to be invoked. -/
def CancelledBefore (r : TimerRun β) (named : TimerId → Prop) (tick : Nat)
    (ops : List (TimerOp β)) : Prop :=
  ∃ before id after, ops = before ++ .cancel id :: after ∧ named id ∧
    (r.run before).queue.currentTick < tick

theorem cancelledBefore_cons {named : TimerId → Prop} {tick : Nat} {op : TimerOp β}
    {ops : List (TimerOp β)} (hop : ∀ id, op = .cancel id → ¬ named id) :
    CancelledBefore r named tick (op :: ops) ↔ CancelledBefore (r.step op) named tick ops := by
  constructor
  · rintro ⟨before, id, after, heq, hnamed, htick⟩
    cases before with
    | nil =>
      obtain ⟨rfl, -⟩ : op = .cancel id ∧ ops = after := by simpa using heq
      exact absurd hnamed (hop id rfl)
    | cons op' before =>
      obtain ⟨rfl, rfl⟩ : op = op' ∧ ops = before ++ .cancel id :: after := by simpa using heq
      exact ⟨before, id, after, rfl, hnamed, htick⟩
  · rintro ⟨before, id, after, rfl, hnamed, htick⟩
    exact ⟨op :: before, id, after, rfl, hnamed, htick⟩

/-- From any state on, a timer in the queue is invoked once, at its tick, or cancelled before. -/
theorem Live.run (hinv : Inv r) {ops : List (TimerOp β)} (hadm : r.Admissible ops)
    (hlive : Live r.queue x) (hold : x.action.1 < r.registered) :
    (CancelledBefore r x.Named (fireTick r.queue x) ops →
      invocations x.action.1 (r.run ops).log = invocations x.action.1 r.log) ∧
    (¬ CancelledBefore r x.Named (fireTick r.queue x) ops →
      if fireTick r.queue x ≤ (r.run ops).queue.currentTick then
        invocations x.action.1 (r.run ops).log =
          invocations x.action.1 r.log ++ [(fireTick r.queue x, x.action)]
      else invocations x.action.1 (r.run ops).log = invocations x.action.1 r.log ∧
        Live (r.run ops).queue x) := by
  have hpending : r.queue.currentTick < fireTick r.queue x := by unfold fireTick; omega
  induction ops generalizing r with
  | nil =>
    refine ⟨fun _ => rfl, fun _ => ?_⟩
    rw [if_neg (by simpa [TimerRun.run] using hpending)]
    exact ⟨rfl, hlive⟩
  | cons op ops ih =>
    have hold' := hold.trans_le (registered_step_ge r op)
    by_cases hcancel : ∃ id, op = .cancel id ∧ x.Named id
    · -- the timer is cancelled
      obtain ⟨id, rfl, hnamed⟩ := hcancel
      obtain ⟨B, hco⟩ := hinv.sound.coherent
      obtain ⟨B', hcut⟩ := hco.cancelInLoop hinv.sound.idle id
      obtain ⟨i, f, hf, rfl, huniq⟩ := hlive
      have hgone : Gone (r.step (.cancel id)).queue f.timer.action.1 := by
        intro j g hg hk
        simp only [TimerRun.step] at hg
        rw [hcut.filed, Option.filter_eq_some_iff] at hg
        obtain rfl := huniq j g hg.1 hk
        obtain rfl : f = g := by simpa using hf.symm.trans hg.1
        exact absurd hnamed (by simpa using hg.2)
      have hrun := hgone.run (hinv.step hadm.1) hadm.2 hold'
      refine ⟨fun _ => hrun, fun hnot => absurd ⟨[], id, ops, rfl, hnamed, hpending⟩ hnot⟩
    · have hcancel' : ∀ id, op = .cancel id → ¬ x.Named id := fun id h₁ h₂ => hcancel ⟨id, h₁, h₂⟩
      by_cases hadvance : ∃ n, op = .advanceWheel n ∧ fireTick r.queue x ≤ r.queue.currentTick + n
      · -- the wheel passes the tick of the timer
        obtain ⟨n, rfl, hreach⟩ := hadvance
        have hwheel := hlive.advanceWheel hinv.sound n
        rw [if_pos hreach] at hwheel
        obtain ⟨hone, hgone⟩ := hwheel
        have htick : (r.step (.advanceWheel n)).queue.currentTick = r.queue.currentTick + n :=
          (hinv.sound.currentTick_advanceWheel n).1
        have hrun := Gone.run (hinv.step hadm.1) hadm.2 hgone hold'
        have hlog : invocations x.action.1 (r.step (.advanceWheel n)).log =
            invocations x.action.1 r.log ++ [(fireTick r.queue x, x.action)] := by
          simp only [TimerRun.step, invocations_append, hone]
        have hlater := currentTick_run_ge (hinv.step hadm.1) hadm.2
        refine ⟨?_, fun _ => ?_⟩
        · rw [cancelledBefore_cons hcancel']
          rintro ⟨before, id, after, rfl, -, hbefore⟩
          have hadm' := (admissible_append.mp hadm.2).1
          have := currentTick_run_ge (hinv.step hadm.1) hadm'
          omega
        · show if _ ≤ ((r.step (.advanceWheel n)).run ops).queue.currentTick then
            invocations x.action.1 ((r.step (.advanceWheel n)).run ops).log = _ else _
          rw [if_pos (by omega), hrun, hlog]
      · have hadvance' : ∀ n, op = .advanceWheel n →
            r.queue.currentTick + n < fireTick r.queue x := by
          intro n hn
          by_contra hle
          exact hadvance ⟨n, hn, by omega⟩
        obtain ⟨hlive', hfire, hlog⟩ := hlive.step hinv hadm.1 hold hcancel' hadvance'
        have hih := ih (hinv.step hadm.1) hadm.2 hlive' hold' (by unfold fireTick; omega)
        rw [hfire, hlog] at hih
        rw [cancelledBefore_cons hcancel']
        exact hih

/-- The timer that a successful `AddTimerInLoop` has put into the queue. -/
theorem live_addTimer (hinv : Inv r) {deadline : Int} {a : β} {y : Nat} {env : TimerQueue.AddEnv}
    (hy : r.queue.FreshExternal y) {id : TimerId} {q₁ : TimerQueue (Nat × β)}
    (hadd : r.queue.addTimerInLoop deadline (r.registered, a) y env = (some id, q₁)) :
    ∃ x, Live q₁ x ∧ x.action = (r.registered, a) ∧
      fireTick q₁ x = max (r.queue.deadlineTick deadline)
        ((r.queue.synced env.syncNow).currentTick + 1) ∧
      ∀ id', x.Named id' ↔ id' = id ∨ y ≠ 0 ∧ q₁.findTimerSlot id' = q₁.findTimerSlot id := by
  obtain ⟨B, hco⟩ := hinv.sound.coherent
  have hspec := hco.addTimerInLoop deadline (r.registered, a) hy env
  rw [hadd] at hspec
  obtain ⟨i, f, hf⟩ := hspec
  have hfi : q₁.filed i = some f := by rw [hf.filed, if_pos rfl]
  have hself : f.timer.Named id := by
    have hid := hf.id_eq
    rw [Timer.id, hf.externalId_eq] at hid
    by_cases h0 : y = 0
    · rw [if_neg (by simpa using h0)] at hid
      exact .inl hid.symm
    · rw [if_pos h0] at hid
      refine .inr ⟨hf.externalId_eq ▸ h0, ?_⟩
      have hlt : y < 2 ^ 64 := (hy.resolve_left h0).2.1
      rw [hf.externalId_eq, ← hid]
      exact Nat.mod_eq_of_lt hlt
  have hfind := (hf.coherent.findTimerSlot_eq_some_iff id).mpr ⟨f, hfi, hself⟩
  refine ⟨f.timer, ⟨i, f, hfi, rfl, fun j g hg hk => ?_⟩, hf.action_eq, ?_, fun id' => ?_⟩
  · rw [hf.filed] at hg
    split at hg
    · next hj => exact hj
    · have hno := (hinv.fresh r.registered le_rfl).1 j g hg
      rw [hf.action_eq] at hk
      exact absurd hk hno
  · rw [fireTick, hf.currentTick, hf.deadline_eq, TimerQueue.deadlineTick, hf.wheelEpoch]
    rfl
  · rw [hfind, hf.coherent.findTimerSlot_eq_some_iff]
    constructor
    · intro hnamed
      by_cases h0 : y = 0
      · have hid := hf.id_eq
        rw [Timer.id, hf.externalId_eq, if_neg (by simpa using h0)] at hid
        refine .inl (hnamed.elim (fun h => h.trans hid) fun h => ?_)
        exact absurd (hf.externalId_eq.trans h0) h.1
      · exact .inr ⟨h0, f, hfi, hnamed⟩
    · rintro (rfl | ⟨-, g, hg, hnamed⟩)
      · exact hself
      · obtain rfl : f = g := by simpa using hfi.symm.trans hg
        exact hnamed

/-- Each timer is invoked exactly once, at the tick of its deadline or at the next one if that has
passed, unless a `CancelInLoop` with its id runs before. A timer of another thread bears the
external id it came with; the bare id of its slot leads to it as well. -/
theorem invoked_once_unless_cancelled (before after : List (TimerOp β)) (deadline : Int) (a : β)
    (x : Nat) (env : TimerQueue.AddEnv) (id : TimerId) (q₁ : TimerQueue (Nat × β))
    (hadm : Admissible {} (before ++ .addTimer deadline a x env :: after))
    (hadd : (run {} before).queue.addTimerInLoop deadline ((run {} before).registered, a) x env =
      (some id, q₁)) :
    let r₀ := run {} before
    let r₁ := r₀.step (.addTimer deadline a x env)
    let r := run {} (before ++ .addTimer deadline a x env :: after)
    let t := (r₀.queue.synced env.syncNow).currentTick
    let tick := max (r₀.queue.deadlineTick deadline) (t + 1)
    let names := fun id' => id' = id ∨ x ≠ 0 ∧ q₁.findTimerSlot id' = q₁.findTimerSlot id
    (CancelledBefore r₁ names tick after → invocations r₀.registered r.log = []) ∧
    (¬ CancelledBefore r₁ names tick after →
      invocations r₀.registered r.log =
        if tick ≤ r.queue.currentTick then [(tick, r₀.registered, a)] else []) := by
  intro r₀ r₁ r t tick names
  obtain ⟨hbefore, hallow, hafter⟩ := admissible_append.mp hadm
  have hinv₀ : Inv r₀ := Inv.empty.run hbefore
  obtain ⟨y, hlive, haction, hfire, hnames⟩ := live_addTimer hinv₀ hallow hadd
  have hq₁ : r₁.queue = q₁ := congrArg Prod.snd hadd
  have hr : r = r₁.run after := run_append _ _ _
  have hnone : invocations r₀.registered r₁.log = [] := (hinv₀.fresh _ le_rfl).2
  have hrun := Live.run (x := y) (hinv₀.step hallow) hafter
    (by show Live r₁.queue y; rw [hq₁]; exact hlive)
    (by rw [haction]; exact Nat.lt_succ_self _)
  have hsame : y.Named = names := funext fun id' => propext (hnames id')
  rw [haction] at hrun
  change (CancelledBefore r₁ y.Named (fireTick r₁.queue y) after → _) ∧
    (¬ CancelledBefore r₁ y.Named (fireTick r₁.queue y) after → _) at hrun
  rw [hq₁, hfire, hsame] at hrun
  change (_ → invocations _ (r₁.run after).log = invocations _ r₁.log) ∧
    (_ → if tick ≤ (r₁.run after).queue.currentTick then
      invocations _ (r₁.run after).log = invocations _ r₁.log ++ _
      else invocations _ (r₁.run after).log = invocations _ r₁.log ∧ _) at hrun
  rw [hnone, List.nil_append] at hrun
  rw [hr]
  refine ⟨hrun.1, fun hnot => ?_⟩
  have hlog := hrun.2 hnot
  split at hlog
  · next hreach => rw [if_pos hreach, hlog]
  · next hreach => rw [if_neg hreach, hlog.1]

/-- A timer twelve milliseconds away passes through the second level. -/
theorem invoked_once_unless_cancelled_twelve :
    invocations 0 (run ({} : TimerRun Unit) [.addTimer 12000000 () 0 ⟨0, 0, false, false⟩,
      .advanceWheel 15]).log = [(12, 0, ())] := by
  have h := (invoked_once_unless_cancelled [] [.advanceWheel 15] 12000000 () 0 ⟨0, 0, false, false⟩
    ⟨2 ^ 31 + 1, by decide⟩
    (TimerQueue.addTimerInLoop {} 12000000 (0, ()) 0 ⟨0, 0, false, false⟩).2
    ⟨.inl rfl, trivial, trivial⟩ rfl).2 (by
      rintro ⟨before, id, rest, heq, -⟩
      rcases before with _ | ⟨op, _ | ⟨op', before⟩⟩ <;> simp at heq)
  rw [if_pos (by decide)] at h
  exact h

end TimerRun

end NebulaRpc.Net
