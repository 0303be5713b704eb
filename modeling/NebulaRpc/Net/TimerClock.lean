import NebulaRpc.Net.TimerLoop

/-!
# The clock of the wheel

The wheel counts ticks in two ways: by the expirations read from the timerfd, and by catching up
with the clock when a timer is added while the timerfd stands still. An action may bring both
together: it cancels the last timer, which stops the timerfd, and adds a new one while
`AdvanceWheel` still has expirations to work off, or while the bucket of an older tick is being
drained. As long as that does not happen, no timer is early, and draining a bucket comes to an end.
-/

namespace NebulaRpc.Net.TimerLoop

open TimerQueue

variable {β : Type*} {s s' : TimerLoop β} {l : LoopStep β}

/-! ## No timer is early -/

/-- A timer is added while the timerfd stands still only when `AdvanceWheel` has no iterations
left. -/
def CatchesUpAtRest (s : TimerLoop β) : LoopStep β → Prop
  | .addTimer .. => s.queue.timerFdArmed = true ∨ s.control.remaining = 0
  | _ => True

instance (s : TimerLoop β) : (l : LoopStep β) → Decidable (CatchesUpAtRest s l)
  | .addTimer .. => inferInstanceAs (Decidable (_ ∨ _))
  | .elapse _ | .cancel _ | .remoteAddTimer .. | .remoteQueue _ | .remoteCancel _ | .runFunctor ..
  | .read .. | .tick | .expire .. | .actionReturns => inferInstanceAs (Decidable True)

/-- The wheel, with the expirations already read, is not ahead of the clock, and will not be when
more are read. -/
structure Timed (s : TimerLoop β) : Prop where
  good : Good s
  behind : s.queue.wheelEpoch + (s.queue.currentTick + s.control.remaining : Int) *
    kTickNanoseconds ≤ s.clock
  fd : ∀ fd, s.queue.timerFd = some fd →
    s.queue.wheelEpoch + (s.queue.currentTick + s.control.remaining + 1 - fd.taken : Int) *
      kTickNanoseconds ≤ fd.armedAt + fd.firstDelay
  still : s.queue.timerFdArmed = false → s.queue.timerFd = none
  log : ∀ event ∈ s.log, event.deadline ≤ event.clock

theorem Timed.start (epoch : Int) : Timed (start epoch : TimerLoop β) where
  good := .start epoch
  behind := by simp [TimerLoop.start, Control.remaining]
  fd := by simp [TimerLoop.start]
  still := fun _ => rfl
  log := by simp [TimerLoop.start]

/-- Steps that leave the ticks and the timerfd as they are. -/
theorem Timed.of_same (h : Timed s) (hgood : Good s')
    (hepoch : s'.queue.wheelEpoch = s.queue.wheelEpoch)
    (htick : s'.queue.currentTick + s'.control.remaining =
      s.queue.currentTick + s.control.remaining)
    (hclock : s.clock ≤ s'.clock)
    (hfd : s'.queue.timerFd = s.queue.timerFd ∧ s'.queue.timerFdArmed = s.queue.timerFdArmed ∨
      s'.queue.timerFd = none)
    (hlog : ∀ event ∈ s'.log, event.deadline ≤ event.clock) : Timed s' := by
  have htick' : (s'.queue.currentTick : Int) + s'.control.remaining =
      s.queue.currentTick + s.control.remaining := by exact_mod_cast htick
  refine ⟨hgood, ?_, fun fd hsome => ?_, fun hdis => ?_, hlog⟩
  · rw [hepoch, htick']
    exact h.behind.trans hclock
  · rw [hepoch, htick']
    rcases hfd with ⟨heq, -⟩ | hnone
    · exact h.fd fd (heq ▸ hsome)
    · rw [hnone] at hsome
      cases hsome
  · rcases hfd with ⟨heq, harmed⟩ | hnone
    · rw [heq]
      exact h.still (harmed ▸ hdis)
    · exact hnone

/-- A timer is due when the clock has reached its deadline. -/
theorem Timed.deadline_le (h : Timed s) {f : Filed (Nat × β)}
    (hdue : s.queue.dueTick f ≤ s.queue.currentTick) : f.timer.deadline ≤ s.clock := by
  have hbehind := h.behind
  unfold dueTick TimerQueue.deadlineTick at hdue
  simp only [kTickNanoseconds] at hbehind hdue
  split at hdue
  · omega
  · omega

theorem elapsedTicks_le {q : TimerQueue (Nat × β)} {now : Int} (h : q.wheelEpoch ≤ now) :
    q.wheelEpoch + (q.elapsedTicks now : Int) * kTickNanoseconds ≤ now := by
  unfold elapsedTicks kTickNanoseconds
  omega

/-- Catching up does not lead ahead of the clock. -/
theorem synced_behind {q : TimerQueue (Nat × β)} {now : Int} {clock : Int}
    (h : q.wheelEpoch + (q.currentTick : Int) * kTickNanoseconds ≤ clock) (hle : clock ≤ now) :
    q.wheelEpoch + ((q.synced now).currentTick : Int) * kTickNanoseconds ≤ now := by
  have hepoch : q.wheelEpoch ≤ now := by
    simp only [kTickNanoseconds] at h
    omega
  unfold synced syncCurrentTick
  dsimp only
  split_ifs
  · exact h.trans hle
  · exact elapsedTicks_le hepoch
  · exact h.trans hle

/-- `ArmTimerFd` sets the first expiration to the next tick or later. -/
theorem armTimerFd_firstDelay {q : TimerQueue (Nat × β)} {now : Int} {fd : TimerFd}
    (hdis : q.timerFdArmed = false) (hfd : (q.armTimerFd now).timerFd = some fd) :
    q.wheelEpoch + (q.currentTick + 1 : Int) * kTickNanoseconds ≤ fd.armedAt + fd.firstDelay ∧
      fd.taken = 0 := by
  simp only [armTimerFd, hdis, Bool.false_eq_true, if_false, Option.some.injEq] at hfd
  subst hfd
  refine ⟨?_, rfl⟩
  dsimp only
  split_ifs
  · simp only [kTickNanoseconds] at *
    omega
  · omega

theorem Timed.add (h : Timed s) {deadline : Int} {a : Nat × β} {x : Nat} {env : AddEnv}
    (hx : s.queue.FreshExternal x) (hsync : s.clock ≤ env.syncNow)
    (harm : env.syncNow ≤ env.armNow)
    (hrest : s.queue.timerFdArmed = true ∨ s.control.remaining = 0) (hgood : Good s')
    (hqueue : s'.queue = (s.queue.addTimerInLoop deadline a x env).2)
    (hclock : s'.clock = env.armNow) (hcontrol : s'.control = s.control) (hlog : s'.log = s.log) :
    Timed s' := by
  obtain ⟨B, hco⟩ := h.good.sound.coherent
  have hspec := hco.addTimerInLoop deadline a hx env
  have hlog' : ∀ event ∈ s'.log, event.deadline ≤ event.clock := by rw [hlog]; exact h.log
  have hready : s.queue.timerFdArmed = true →
      (s.queue.synced env.syncNow).currentTick = s.queue.currentTick := by
    intro harmed
    rw [synced, if_pos harmed]
  have hcaught : s.control.remaining = 0 →
      s.queue.wheelEpoch + ((s.queue.synced env.syncNow).currentTick : Int) * kTickNanoseconds ≤
        env.syncNow := by
    intro hzero
    have hbehind := h.behind
    rw [hzero] at hbehind
    exact synced_behind (by simpa using hbehind) hsync
  have hclock' : s.clock ≤ s'.clock := by rw [hclock]; exact hsync.trans harm
  generalize s.queue.addTimerInLoop deadline a x env = result at hspec hqueue
  obtain ⟨_ | id, q'⟩ := result
  · by_cases harmed : s.queue.timerFdArmed = true
    · refine h.of_same hgood ?_ ?_ hclock' (.inl ⟨?_, ?_⟩) hlog'
      · rw [hqueue]; exact hspec.wheelEpoch
      · rw [hqueue, hcontrol, hspec.currentTick, hready harmed]
      · rw [hqueue]; exact hspec.timerFd
      · rw [hqueue]; exact hspec.armed
    · have hzero := hrest.resolve_left harmed
      have hnone : s'.queue.timerFd = none := by
        rw [hqueue, hspec.timerFd]
        exact h.still (by simpa using harmed)
      refine ⟨hgood, ?_, fun fd hsome => ?_, fun _ => hnone, hlog'⟩
      · rw [hqueue, hcontrol, hzero, hspec.wheelEpoch, hspec.currentTick, hclock]
        simpa using (hcaught hzero).trans harm
      · rw [hnone] at hsome
        cases hsome
  · obtain ⟨i, f, hadd⟩ := hspec
    by_cases harmed : s.queue.timerFdArmed = true
    · refine h.of_same hgood ?_ ?_ hclock' (.inl ⟨?_, ?_⟩) hlog'
      · rw [hqueue]; exact hadd.wheelEpoch
      · rw [hqueue, hcontrol, hadd.currentTick, hready harmed]
      · rw [hqueue, hadd.timerFd, if_pos harmed]
      · rw [hqueue, hadd.armed, harmed]
    · have hzero := hrest.resolve_left harmed
      refine ⟨hgood, ?_, fun fd hsome => ?_, fun hdis => ?_, hlog'⟩
      · rw [hqueue, hcontrol, hzero, hadd.wheelEpoch, hadd.currentTick, hclock]
        simpa using (hcaught hzero).trans harm
      · rw [hqueue, hadd.timerFd, if_neg harmed] at hsome
        obtain ⟨hfirst, htaken⟩ := armTimerFd_firstDelay rfl hsome
        rw [hqueue, hcontrol, hzero, htaken]
        simpa using hfirst
      · rw [hqueue, hadd.armed] at hdis
        cases hdis

theorem Timed.cancelNow (h : Timed s) (id : TimerId) (covered : List Nat) :
    Timed (s.cancelNow id covered) := by
  have hgood := h.good.cancelNow id covered
  by_cases hvalid : id.valid = true
  · obtain ⟨B, hco⟩ := h.good.sound.coherent
    obtain ⟨B', hcut⟩ := hco.cancelInLoop h.good.sound.idle id
    simp only [TimerLoop.cancelNow, if_pos hvalid] at hgood ⊢
    refine h.of_same hgood hcut.wheelEpoch ?_ le_rfl ?_ h.log
    · show (s.queue.cancelInLoop id).currentTick + _ = _
      rw [hcut.currentTick]
    · exact hcut.timerFd.imp_right And.left
  · simp only [TimerLoop.cancelNow, if_neg hvalid] at hgood ⊢
    exact h.of_same hgood rfl rfl le_rfl (.inl ⟨rfl, rfl⟩) h.log

/-- The expirations that can be read bring the wheel to the clock at most. -/
theorem Timed.read (h : Timed s) {expirations : Nat} {fd : TimerFd} (hidle : s.control = .idle)
    (hfd : s.queue.timerFd = some fd) (hread : fd.readable s.clock expirations = true)
    (hgood : Good ({ s with
      queue := { s.queue with timerFd := some { fd with taken := fd.taken + expirations } }
      control := .ticking expirations } : TimerLoop β)) :
    Timed ({ s with
      queue := { s.queue with timerFd := some { fd with taken := fd.taken + expirations } }
      control := .ticking expirations } : TimerLoop β) := by
  simp only [TimerFd.readable, Bool.and_eq_true, decide_eq_true_eq] at hread
  obtain ⟨-, hcount⟩ := hread
  have hfirst := h.fd fd hfd
  rw [hidle] at hfirst
  simp only [Control.remaining, kTickNanoseconds] at hfirst hcount
  refine ⟨hgood, ?_, fun fd' hsome => ?_, fun hdis => ?_, h.log⟩
  · simp only [Control.remaining, kTickNanoseconds]
    omega
  · obtain rfl : _ = fd' := Option.some.inj hsome
    simp only [Control.remaining, kTickNanoseconds]
    push_cast at hfirst ⊢
    omega
  · have hnone := h.still hdis
    rw [hfd] at hnone
    cases hnone

theorem Timed.step (h : Timed s) (hcond : CatchesUpAtRest s l) (hstep : s.step l = some s') :
    Timed s' := by
  have hgood := h.good.step hstep
  cases stepped_of_step hstep with
  | elapse htime => exact h.of_same hgood rfl rfl htime (.inl ⟨rfl, rfl⟩) h.log
  | addTimer huser hsync harm =>
    exact h.add (.inl rfl) hsync harm hcond hgood rfl rfl rfl rfl
  | cancel => exact h.cancelNow _ _
  | remoteAddTimer => exact h.of_same hgood rfl rfl le_rfl (.inl ⟨rfl, rfl⟩) h.log
  | remoteQueue => exact h.of_same hgood rfl rfl le_rfl (.inl ⟨rfl, rfl⟩) h.log
  | remoteCancel => exact h.of_same hgood rfl rfl le_rfl (.inl ⟨rfl, rfl⟩) h.log
  | remoteCancelInvalid => exact h
  | @runAdd env number id deadline action functors hidle hsync harm hhead =>
    have hx : s.queue.FreshExternal id.value := by
      refine h.good.freshExternal ?_
      simp [pendingIds, hhead, TimerFunctor.addId]
    refine h.add hx hsync harm (.inr ?_) hgood rfl rfl rfl rfl
    rw [hidle]
    rfl
  | @runCancel env id covered functors hidle hhead =>
    have hrest : Timed { s with functors := functors } := by
      refine h.of_same ?_ rfl rfl le_rfl (.inl ⟨rfl, rfl⟩) h.log
      exact h.good.of_fewer h.good.sound rfl (by
        simp only [pendingIds, hhead]
        exact (List.Sublist.refl _).append ((List.sublist_cons_self _ _).filterMap _))
        fun i f hf => ⟨f, hf, rfl⟩
    exact hrest.cancelNow id covered
  | read hidle hfd hread => exact h.read hidle hfd hread hgood
  | finishRead hcontrol =>
    refine h.of_same hgood ?_ ?_ le_rfl ?_ h.log
    · show s.queue.finishRead.wheelEpoch = _
      rw [finishRead_eq]
    · show s.queue.finishRead.currentTick + _ = _
      rw [finishRead_eq, hcontrol]
      rfl
    · show (s.queue.finishRead.timerFd = _ ∧ s.queue.finishRead.timerFdArmed = _) ∨ _ = none
      unfold finishRead disarmTimerFd
      split_ifs with hzero harmed
      · exact .inr rfl
      · exact .inl ⟨rfl, rfl⟩
      · exact .inl ⟨rfl, rfl⟩
  | @advanceTick r hcontrol =>
    have hsound := h.good.sound
    rw [hcontrol] at hsound
    obtain ⟨-, hsame, -⟩ := hsound.of_advanceTick
    refine h.of_same hgood hsame.clock.wheelEpoch ?_ le_rfl
      (.inl ⟨hsame.clock.timerFd, hsame.clock.timerFdArmed⟩) h.log
    show s.queue.advanceTick.currentTick + r = _
    rw [hsame.clock.currentTick, hcontrol]
    show s.queue.currentTick + 1 + r = s.queue.currentTick + (r + 1)
    omega
  | drained hcontrol hexpire =>
    refine h.of_same hgood rfl ?_ le_rfl (.inl ⟨rfl, rfl⟩) h.log
    rw [hcontrol]
    rfl
  | replaced hcontrol hexpire =>
    have hsound := h.good.sound
    rw [hcontrol] at hsound
    obtain ⟨-, hsame, -⟩ := hsound.of_replaced hexpire
    refine h.of_same hgood hsame.clock.wheelEpoch ?_ le_rfl
      (.inl ⟨hsame.clock.timerFd, hsame.clock.timerFdArmed⟩) h.log
    rw [hsame.clock.currentTick]
  | dueEmpty hcontrol hexpire =>
    have hsound := h.good.sound
    rw [hcontrol] at hsound
    obtain ⟨-, -, i, f, -, -, -, hsome, -⟩ := hsound.of_due hexpire
    cases hsome
  | due hcontrol hexpire =>
    have hsound := h.good.sound
    rw [hcontrol] at hsound
    obtain ⟨-, hclock, i, f, hf, hle, rfl, -⟩ := hsound.of_due hexpire
    refine h.of_same hgood hclock.wheelEpoch ?_ le_rfl
      (.inl ⟨hclock.timerFd, hclock.timerFdArmed⟩) fun event hmem => ?_
    · rw [hclock.currentTick, hcontrol]
      rfl
    · rcases List.mem_append.mp hmem with hold | hnew
      · exact h.log event hold
      · obtain rfl := List.mem_singleton.mp hnew
        exact h.deadline_le hle
  | actionReturns hcontrol =>
    refine h.of_same hgood rfl ?_ le_rfl (.inl ⟨rfl, rfl⟩) h.log
    rw [hcontrol]
    rfl

/-- No action is invoked before its deadline in a run in which no timer is added while the timerfd
stands still and `AdvanceWheel` has iterations left. -/
theorem never_early (epoch : Int) (steps : List (LoopStep β))
    (hcond : Transition.Meets step CatchesUpAtRest (start epoch) steps)
    (hrun : (start epoch).run steps = some s) :
    ∀ event ∈ s.log, event.deadline ≤ event.clock :=
  (Transition.invariant_run (I := Timed) (fun _ _ _ h hc hs => h.step hc hs) (.start epoch) hcond
    hrun).log

/-- A timer of 2 ms that is read after 5 ms, with all the expirations at once. -/
theorem never_early_backlog :
    ∃ s : TimerLoop Unit,
      (start 0).run [.addTimer 2000000 () ⟨0, 0, false, false⟩, .elapse 5000000, .read 5, .tick,
        .expire, .tick, .expire] = some s ∧
      s.log.length = 1 ∧ ∀ event ∈ s.log, event.deadline ≤ event.clock :=
  ⟨_, rfl, rfl, never_early 0
    [.addTimer 2000000 () ⟨0, 0, false, false⟩, .elapse 5000000, .read 5, .tick, .expire, .tick,
      .expire] (by decide) rfl⟩

/-- Three expirations are read; the action at the first of them cancels the last timer and adds
one, which takes the wheel to the third millisecond, and two more iterations follow. -/
theorem invoked_before_deadline :
    ((start 0).run [.addTimer 1000000 () ⟨0, 0, false, false⟩,
      .addTimer 50000000 () ⟨0, 0, false, false⟩, .elapse 3000000, .read 3, .tick, .expire,
      .cancel ⟨2 ^ 31 + 2, by decide⟩, .addTimer 5000000 () ⟨3000000, 3000000, false, false⟩,
      .actionReturns, .expire, .tick, .expire, .tick, .expire]).map TimerLoop.log =
        some [⟨0, 1000000, (), 3000000, false⟩, ⟨2, 5000000, (), 3000000, false⟩] ∧
      ¬ ∀ (steps : List (LoopStep Unit)) (s : TimerLoop Unit), (start 0).run steps = some s →
        ∀ event ∈ s.log, event.deadline ≤ event.clock := by
  have hlog : ((start 0).run [.addTimer 1000000 () ⟨0, 0, false, false⟩,
      .addTimer 50000000 () ⟨0, 0, false, false⟩, .elapse 3000000, .read 3, .tick, .expire,
      .cancel ⟨2 ^ 31 + 2, by decide⟩, .addTimer 5000000 () ⟨3000000, 3000000, false, false⟩,
      .actionReturns, .expire, .tick, .expire, .tick, .expire]).map TimerLoop.log =
        some [⟨0, 1000000, (), 3000000, false⟩, ⟨2, 5000000, (), 3000000, false⟩] := by decide
  refine ⟨hlog, fun h => ?_⟩
  obtain ⟨s, hrun, heq⟩ := Option.map_eq_some_iff.mp hlog
  have hle := h _ s hrun ⟨2, 5000000, (), 3000000, false⟩ (by simp [heq])
  exact absurd hle (by decide)

end NebulaRpc.Net.TimerLoop
