import NebulaRpc.Net.TimerLoop

/-!
# Draining a bucket

`ExpireCurrentBucket` reads the head of its bucket again after every action. A timer that is not due
is placed anew and would come back when its place is the bucket that is being drained. This needs an
action that cancels the last timer, which stops the timerfd, and then adds one: the wheel catches up
with the clock and is no longer at the tick whose bucket is being drained.
-/

namespace NebulaRpc.Net

variable {β : Type*}

/-- One iteration of `ExpireCurrentBucket`. -/
def LoopStep.isExpire : LoopStep β → Bool
  | .expire => true
  | _ => false

/-- A call of `AddTimer` on the loop thread. -/
def LoopStep.isAddTimer : LoopStep β → Bool
  | .addTimer .. => true
  | _ => false

namespace TimerLoop

open TimerQueue

variable {s s' : TimerLoop β} {l : LoopStep β}

/-- A timer is not put into the bucket that is being drained. -/
def PlacesOutside (s : TimerLoop β) : LoopStep β → Prop
  | .addTimer deadline _ env =>
    let tick := (s.queue.synced env.syncNow).currentTick
    ∀ b ∈ s.control.bucket, placeFor tick (expiryFor tick (s.queue.deadlineTick deadline)) ≠ (0, b)
  | _ => True

instance (s : TimerLoop β) : (l : LoopStep β) → Decidable (PlacesOutside s l)
  | .addTimer .. => inferInstanceAs (Decidable (∀ b ∈ s.control.bucket, _))
  | .elapse _ | .cancel _ | .remoteAddTimer .. | .remoteQueue _ | .remoteCancel _ | .runFunctor ..
  | .read .. | .tick | .expire .. | .actionReturns => inferInstanceAs (Decidable True)

/-- All timers in the bucket that is being drained are due. -/
structure Punctual (s : TimerLoop β) : Prop where
  good : Good s
  due : ∀ b ∈ s.control.bucket, ∀ i f, s.queue.filed i = some f → f.place = (0, b) →
    s.queue.dueTick f ≤ s.queue.currentTick

theorem Punctual.start (epoch : Int) : Punctual (start epoch : TimerLoop β) :=
  ⟨.start epoch, by simp [TimerLoop.start, Control.bucket]⟩

theorem Punctual.of_undrained (hgood : Good s) (hnone : s.control.bucket = none) : Punctual s :=
  ⟨hgood, by simp [hnone]⟩

/-- Steps that bring no timer into the bucket and leave the tick as it is. -/
theorem Punctual.of_fewer (h : Punctual s) (hgood : Good s')
    (hcontrol : s'.control.bucket = s.control.bucket)
    (hepoch : s'.queue.wheelEpoch = s.queue.wheelEpoch)
    (htick : s'.queue.currentTick = s.queue.currentTick)
    (hfiled : ∀ i f, s'.queue.filed i = some f → s.queue.filed i = some f) : Punctual s' := by
  refine ⟨hgood, fun b hb i f hf hplace => ?_⟩
  have hdue := h.due b (hcontrol ▸ hb) i f (hfiled i f hf) hplace
  rw [dueTick, TimerQueue.deadlineTick, hepoch, htick]
  exact hdue

theorem Punctual.cancelNow (h : Punctual s) (id : TimerId) (covered : List Nat) :
    Punctual (s.cancelNow id covered) := by
  have hgood := h.good.cancelNow id covered
  by_cases hvalid : id.valid = true
  · obtain ⟨B, hco⟩ := h.good.sound.coherent
    obtain ⟨B', hcut⟩ := hco.cancelInLoop h.good.sound.idle id
    simp only [TimerLoop.cancelNow, if_pos hvalid] at hgood ⊢
    refine h.of_fewer hgood rfl hcut.wheelEpoch hcut.currentTick fun i f hf => ?_
    rw [hcut.filed, Option.filter_eq_some_iff] at hf
    exact hf.1
  · simp only [TimerLoop.cancelNow, if_neg hvalid] at hgood ⊢
    exact h.of_fewer hgood rfl rfl rfl fun _ _ hf => hf

theorem Punctual.addNow (h : Punctual s) {deadline : Int} {action : β} {env : AddEnv}
    (hcond : PlacesOutside s (.addTimer deadline action env))
    (hgood : Good (s.addNow deadline action env)) : Punctual (s.addNow deadline action env) := by
  refine ⟨hgood, fun b hb i f hf hplace => ?_⟩
  obtain ⟨B, hco⟩ := h.good.sound.coherent
  have hspec := hco.addTimerInLoop deadline (s.registered, action) (.inl rfl) env
  have hout := hcond b hb
  -- a timer that was there before keeps the wheel from catching up
  have hold : ∀ q' : TimerQueue (Nat × β), q'.wheelEpoch = s.queue.wheelEpoch →
      q'.currentTick = (s.queue.synced env.syncNow).currentTick → s.queue.filed i = some f →
        q'.dueTick f ≤ q'.currentTick := by
    intro q' hepoch htick hf
    have hdue := h.due b hb i f hf hplace
    rw [dueTick, TimerQueue.deadlineTick, hepoch, htick, h.good.sound.currentTick_synced hf]
    exact hdue
  simp only [TimerLoop.addNow] at hf ⊢
  generalize s.queue.addTimerInLoop deadline (s.registered, action) 0 env = result at hspec hf ⊢
  obtain ⟨_ | id, q'⟩ := result
  · rw [hspec.filed] at hf
    exact hold q' hspec.wheelEpoch hspec.currentTick hf
  · obtain ⟨j, g, hadd⟩ := hspec
    rw [hadd.filed] at hf
    split at hf
    · obtain rfl : g = f := by simpa using hf
      rw [hadd.place_eq, hadd.currentTick] at hplace
      exact absurd hplace hout
    · exact hold q' hadd.wheelEpoch hadd.currentTick hf

/-- No timer is placed anew. -/
theorem Punctual.not_replaced (h : Punctual s) {b r : Nat} {queue : TimerQueue (Nat × β)}
    (hcontrol : s.control = .draining b r) : s.queue.expireStep b ≠ .replaced queue := by
  intro hexpire
  have hsound := h.good.sound
  rw [hcontrol] at hsound
  obtain ⟨-, -, i, f, hf, hplace, hlate⟩ := hsound.of_replaced hexpire
  exact absurd (h.due _ (by rw [hcontrol]; rfl) i f hf hplace) (Nat.not_le.mpr hlate)

theorem Punctual.step (h : Punctual s) (hcond : PlacesOutside s l) (hstep : s.step l = some s') :
    Punctual s' := by
  have hgood := h.good.step hstep
  cases stepped_of_step hstep with
  | elapse => exact h.of_fewer hgood rfl rfl rfl fun _ _ hf => hf
  | addTimer => exact h.addNow hcond hgood
  | cancel => exact h.cancelNow _ _
  | remoteAddTimer => exact h.of_fewer hgood rfl rfl rfl fun _ _ hf => hf
  | remoteQueue => exact h.of_fewer hgood rfl rfl rfl fun _ _ hf => hf
  | remoteCancel => exact h.of_fewer hgood rfl rfl rfl fun _ _ hf => hf
  | remoteCancelInvalid => exact h
  | runAdd hidle => exact .of_undrained hgood (by rw [hidle]; rfl)
  | runCancel hidle => exact .of_undrained hgood (by simp [TimerLoop.cancelNow, hidle, Control.bucket])
  | read => exact .of_undrained hgood rfl
  | finishRead => exact .of_undrained hgood rfl
  | advanceTick hcontrol =>
    have hsound := h.good.sound
    rw [hcontrol] at hsound
    obtain ⟨-, -, hdue⟩ := hsound.of_advanceTick
    refine ⟨hgood, fun b hb i f hf hplace => ?_⟩
    obtain rfl : _ = b := Option.some.inj hb
    exact hdue i f hf hplace
  | drained => exact .of_undrained hgood rfl
  | replaced hcontrol hexpire => exact absurd hexpire (h.not_replaced hcontrol)
  | dueEmpty hcontrol hexpire =>
    have hsound := h.good.sound
    rw [hcontrol] at hsound
    obtain ⟨-, -, i, f, -, -, -, hsome, -⟩ := hsound.of_due hexpire
    cases hsome
  | due hcontrol hexpire =>
    have hsound := h.good.sound
    rw [hcontrol] at hsound
    obtain ⟨-, hclock, i, f, -, -, -, -, hfiled, -⟩ := hsound.of_due hexpire
    refine h.of_fewer hgood (by rw [hcontrol]; rfl) hclock.wheelEpoch hclock.currentTick ?_
    intro j g hg
    rw [hfiled] at hg
    split at hg
    · cases hg
    · exact hg
  | actionReturns hcontrol =>
    exact h.of_fewer hgood (by rw [hcontrol]; rfl) rfl rfl fun _ _ hf => hf

/-- The iterations that are still to come when no timer is added. -/
def iterationsLeft (s : TimerLoop β) : Nat :=
  s.queue.activeTimerCount + s.control.bucket.isSome.toNat

theorem iterationsLeft_addNow (h : Good s) (deadline : Int) (action : β) (env : AddEnv) :
    (s.addNow deadline action env).iterationsLeft ≤ s.iterationsLeft + 1 := by
  obtain ⟨B, hco⟩ := h.sound.coherent
  have hspec := hco.addTimerInLoop deadline (s.registered, action) (.inl rfl) env
  simp only [iterationsLeft, TimerLoop.addNow]
  generalize s.queue.addTimerInLoop deadline (s.registered, action) 0 env = result at hspec
  obtain ⟨_ | id, q'⟩ := result
  · rw [hspec.count]
    omega
  · obtain ⟨j, g, hadd⟩ := hspec
    rw [hadd.count]
    omega

theorem iterationsLeft_cancelNow (h : Good s) (id : TimerId) (covered : List Nat) :
    (s.cancelNow id covered).iterationsLeft ≤ s.iterationsLeft := by
  obtain ⟨B, hco⟩ := h.sound.coherent
  obtain ⟨B', hcut⟩ := hco.cancelInLoop h.sound.idle id
  simp only [iterationsLeft, TimerLoop.cancelNow]
  split
  · have := hcut.count
    omega
  · exact le_rfl

/-- The drain goes on, or the loop of `AdvanceWheel` does. -/
theorem iterationsLeft_step (h : Punctual s) (hbusy : s.control ≠ .idle) (hl : l ≠ .tick)
    (hstep : s.step l = some s') :
    s'.control ≠ .idle ∧
      l.isExpire.toNat + s'.iterationsLeft ≤ s.iterationsLeft + l.isAddTimer.toNat := by
  cases stepped_of_step hstep with
  | elapse => exact ⟨hbusy, by simp [LoopStep.isExpire, iterationsLeft]⟩
  | addTimer =>
    refine ⟨hbusy, ?_⟩
    simpa [LoopStep.isExpire, LoopStep.isAddTimer] using iterationsLeft_addNow h.good _ _ _
  | cancel =>
    refine ⟨hbusy, ?_⟩
    simpa [LoopStep.isExpire, LoopStep.isAddTimer] using iterationsLeft_cancelNow h.good _ _
  | remoteAddTimer =>
    exact ⟨hbusy, by simp [LoopStep.isExpire, iterationsLeft, makeExternalTimerId]⟩
  | remoteQueue => exact ⟨hbusy, by simp [LoopStep.isExpire, iterationsLeft]⟩
  | remoteCancel => exact ⟨hbusy, by simp [LoopStep.isExpire, iterationsLeft]⟩
  | remoteCancelInvalid => exact ⟨hbusy, by simp [LoopStep.isExpire]⟩
  | runAdd hidle => exact absurd hidle hbusy
  | runCancel hidle => exact absurd hidle hbusy
  | read hidle => exact absurd hidle hbusy
  | finishRead => exact absurd rfl hl
  | advanceTick => exact absurd rfl hl
  | drained hcontrol =>
    refine ⟨by simp, ?_⟩
    simp [LoopStep.isExpire, iterationsLeft, hcontrol, Control.bucket]
    omega
  | replaced hcontrol hexpire => exact absurd hexpire (h.not_replaced hcontrol)
  | dueEmpty hcontrol hexpire =>
    have hsound := h.good.sound
    rw [hcontrol] at hsound
    obtain ⟨-, -, i, f, -, -, -, hsome, -⟩ := hsound.of_due hexpire
    cases hsome
  | due hcontrol hexpire =>
    have hsound := h.good.sound
    rw [hcontrol] at hsound
    obtain ⟨-, -, i, f, -, -, -, -, -, hcount⟩ := hsound.of_due hexpire
    refine ⟨by simp, ?_⟩
    simp [LoopStep.isExpire, iterationsLeft, hcontrol, Control.bucket]
    omega
  | actionReturns hcontrol =>
    refine ⟨by simp, ?_⟩
    simp [LoopStep.isExpire, iterationsLeft, hcontrol, Control.bucket]

theorem Punctual.run {epoch : Int} {steps : List (LoopStep β)}
    (hcond : Transition.Meets TimerLoop.step PlacesOutside (TimerLoop.start epoch) steps)
    (hrun : (TimerLoop.start epoch).run steps = some s) : Punctual s :=
  Transition.invariant_run (I := Punctual) (fun _ _ _ h hc hs => h.step hc hs) (.start epoch) hcond
    hrun

/-- From any reachable state in which a bucket is being drained, the drain performs at most one
iteration for each timer that is in the queue or added, and one to find the bucket empty; and no
timer is placed anew. -/
theorem drain_terminates (epoch : Int) (before steps : List (LoopStep β)) {b : Nat}
    (hcond : Transition.Meets step PlacesOutside (start epoch) (before ++ steps))
    (hbefore : (start epoch).run before = some s) (hdrain : s.control.bucket = some b)
    (hsteps : LoopStep.tick ∉ steps) (hrun : s.run steps = some s') :
    steps.countP LoopStep.isExpire ≤
        s.queue.activeTimerCount + steps.countP LoopStep.isAddTimer + 1 ∧
      ∀ c r queue, s'.control = .draining c r → s'.queue.expireStep c ≠ .replaced queue := by
  obtain ⟨hcond₁, hcond₂⟩ := hcond.of_append hbefore
  have hpunctual : Punctual s := .run hcond₁ hbefore
  have hbusy : s.control ≠ .idle := by
    intro hidle
    rw [hidle] at hdrain
    cases hdrain
  have hcount := Transition.countP_run_le (I := fun s => Punctual s ∧ s.control ≠ .idle)
    LoopStep.isExpire LoopStep.isAddTimer iterationsLeft
    (fun s l s' h hl hc hs => by
      obtain ⟨hbusy', hle⟩ := iterationsLeft_step h.1 h.2 (fun heq => hsteps (heq ▸ hl)) hs
      exact ⟨⟨h.1.step hc hs, hbusy'⟩, hle⟩)
    ⟨hpunctual, hbusy⟩ hcond₂ hrun
  refine ⟨?_, fun c r queue hcontrol => ?_⟩
  · simp only [iterationsLeft, hdrain, Option.isSome_some, Bool.toNat_true] at hcount
    omega
  · have hafter := Transition.invariant_run (I := Punctual) (fun _ _ _ h hc hs => h.step hc hs)
      hpunctual hcond₂ hrun
    exact hafter.not_replaced hcontrol

/-- Two timers in one bucket; the action of the first one adds a third, for a later tick. -/
theorem drain_terminates_two_timers :
    ∃ s s' : TimerLoop Unit,
      (start 0).run [.addTimer 1000000 () ⟨0, 0, false, false⟩,
        .addTimer 1000000 () ⟨0, 0, false, false⟩, .elapse 1000000, .read 1, .tick] = some s ∧
      s.run [.expire, .addTimer 3000000 () ⟨1000000, 1000000, false, false⟩, .actionReturns,
        .expire, .actionReturns, .expire] = some s' ∧
      s'.control = .ticking 0 ∧ 3 ≤ s.queue.activeTimerCount + 1 + 1 :=
  ⟨_, _, rfl, rfl, rfl, (drain_terminates 0
    [.addTimer 1000000 () ⟨0, 0, false, false⟩, .addTimer 1000000 () ⟨0, 0, false, false⟩,
      .elapse 1000000, .read 1, .tick]
    [.expire, .addTimer 3000000 () ⟨1000000, 1000000, false, false⟩, .actionReturns, .expire,
      .actionReturns, .expire] (b := 1) (by decide) rfl rfl (by simp) rfl).1⟩

/-- The bucket holds a timer, and all its timers are late and belong into it. -/
structure Spinning (s : TimerLoop β) (b r : Nat) : Prop where
  good : Good s
  control : s.control = .draining b r
  occupied : ∃ i f, s.queue.filed i = some f ∧ f.place = (0, b)
  late : ∀ i f, s.queue.filed i = some f → f.place = (0, b) →
    s.queue.currentTick < s.queue.dueTick f ∧
      placeFor s.queue.currentTick (s.queue.dueTick f) = (0, b)

theorem Spinning.expire {b r : Nat} (h : Spinning s b r) :
    ∃ s', s.step .expire = some s' ∧ Spinning s' b r := by
  have hstep : s.step .expire = some (s.expireNow b r) := by rw [step, h.control]
  refine ⟨_, hstep, ?_⟩
  have hgood := h.good.step hstep
  obtain ⟨B, hco⟩ := h.good.sound.coherent
  have hspec := hco.expireStep b
  unfold expireNow at hgood ⊢
  generalize s.queue.expireStep b = result at hspec hgood
  have hplace : ∀ {i rest f}, B (0, b) = i :: rest → s.queue.filed i = some f →
      f.place = (0, b) := by
    intro i rest f hB hf
    obtain ⟨f', hf', hplace⟩ := (hco.mem_iff (0, b)).mp (by simp [hB] : i ∈ B (0, b))
    obtain rfl : f = f' := by simpa using hf.symm.trans hf'
    exact hplace
  cases result with
  | done =>
    obtain ⟨i, f, hf, hin⟩ := h.occupied
    have hmem := (hco.mem_iff (0, b)).mpr ⟨f, hf, hin⟩
    rw [hspec] at hmem
    cases hmem
  | due deadline action queue =>
    obtain ⟨i, rest, f, hB, hf, hle, -⟩ := hspec
    exact absurd hle (Nat.not_le.mpr (h.late i f hf (hplace hB hf)).1)
  | replaced queue =>
    obtain ⟨i, rest, f, hB, hf, hlate, hre⟩ := hspec
    have hback := (h.late i f hf (hplace hB hf)).2
    have hnew := hre.filed i
    rw [if_pos rfl, hf, hback] at hnew
    refine ⟨hgood, h.control, ⟨i, _, hnew, rfl⟩, fun j g hg hin => ?_⟩
    have hdue : queue.dueTick g = s.queue.dueTick g := hre.clock.deadlineTick _
    show queue.currentTick < queue.dueTick g ∧ placeFor queue.currentTick (queue.dueTick g) = (0, b)
    rw [hdue, hre.clock.currentTick]
    rw [hre.filed] at hg
    split at hg
    · rw [hf] at hg
      obtain rfl := Option.some.inj hg
      exact ⟨hlate, hback⟩
    · exact h.late j g hg hin

theorem Spinning.run_replicate {b r : Nat} (h : Spinning s b r) (n : Nat) :
    ∃ s', s.run (List.replicate n .expire) = some s' ∧ s'.control = .draining b r := by
  induction n generalizing s with
  | zero => exact ⟨s, rfl, h.control⟩
  | succ n ih =>
    obtain ⟨s₁, hstep, hspin⟩ := h.expire
    obtain ⟨s', hrun, hcontrol⟩ := ih hspin
    exact ⟨s', Transition.run_cons_eq_some_iff.mpr ⟨s₁, hstep, hrun⟩, hcontrol⟩

/-- While the bucket of tick 1 is drained at 10 ms, the action cancels the last timer and adds one
for 11 ms: at the tick 10 that is read from the clock, it belongs into the same bucket. -/
theorem drain_never_ends :
    ∃ s : TimerLoop Unit,
      (start 0).run [.addTimer 1000000 () ⟨0, 0, false, false⟩,
        .addTimer 50000000 () ⟨0, 0, false, false⟩, .elapse 1000000, .read 1, .tick, .expire,
        .elapse 10000000, .cancel ⟨2 ^ 31 + 2, by decide⟩,
        .addTimer 11000000 () ⟨10000000, 10000000, false, false⟩, .actionReturns] = some s ∧
      s.control = .draining 1 0 ∧
      ∀ n, ∃ s', s.run (List.replicate n .expire) = some s' ∧ s'.control = .draining 1 0 := by
  have hstate : ((start 0).run [.addTimer 1000000 () ⟨0, 0, false, false⟩,
      .addTimer 50000000 () ⟨0, 0, false, false⟩, .elapse 1000000, .read 1, .tick, .expire,
      .elapse 10000000, .cancel ⟨2 ^ 31 + 2, by decide⟩,
      .addTimer 11000000 () ⟨10000000, 10000000, false, false⟩, .actionReturns]).any
        (fun s => s.control = .draining 1 0 ∧ s.queue.currentTick = 10 ∧ s.queue.slotCount = 2 ∧
          (s.queue.filed 0).isNone ∧
          (s.queue.filed 1).map (fun f => (f.place, s.queue.dueTick f)) = some ((0, 1), 11)) := by
    decide
  obtain ⟨s, hrun, heq⟩ := (Option.any_eq_true _ _).mp hstate
  obtain ⟨hcontrol, htick, hcount, hfree, hlast⟩ := of_decide_eq_true heq
  obtain ⟨f, hf, hfeq⟩ := Option.map_eq_some_iff.mp hlast
  obtain ⟨hplace, hdue⟩ : f.place = (0, 1) ∧ s.queue.dueTick f = 11 := by simpa using hfeq
  have hgood : Good s := Transition.invariant_run (I := Good) (C := fun _ _ => True)
    (fun _ _ _ h _ hs => h.step hs) (.start 0) (Transition.meets_of_forall fun _ _ => trivial) hrun
  have hspin : Spinning s 1 0 := by
    refine ⟨hgood, hcontrol, ⟨1, f, hf, hplace⟩, fun i g hg _ => ?_⟩
    obtain ⟨B, hco⟩ := hgood.sound.coherent
    have hlt := hco.stored.lt_slotCount i (TimerSlot.filed_eq_some_iff.mp hg).1
    rw [hcount] at hlt
    interval_cases i
    · rw [hg] at hfree
      cases hfree
    · obtain rfl : f = g := by simpa using hf.symm.trans hg
      rw [hdue, htick]
      decide
  exact ⟨s, hrun, hcontrol, hspin.run_replicate⟩

end TimerLoop

end NebulaRpc.Net
