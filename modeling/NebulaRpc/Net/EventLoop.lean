import NebulaRpc.Library.Transition

/-!
# The event loop

`EventLoop` with the functors that are posted to it. The loop thread polls, handles the events of
the active channels, and runs the functors that were pending; other threads post through
`QueueInLoop` in two steps, the push under the lock and the write to the eventfd. User code runs on
the loop thread outside of `Loop`, in the handlers of channels and in the signal callback, in
functors, and in the destructors of functors when a batch is cleared.

The eventfd is its counter. A poll may return at any time; it reports the wakeup channel only when
the counter is positive. Signal handlers and `Quit` on another thread write to the eventfd without
posting anything.
-/

namespace NebulaRpc.Net

variable {α : Type*}

/-- Where the loop thread is. -/
inductive LoopControl where
  /-- outside of `Loop` -/
  | outside
  /-- at the test of the `while` loop -/
  | testing
  /-- about to block in `Poll` -/
  | polling
  /-- in `HandleEvent` of the active channels; the wakeup channel is still to come, or not -/
  | handling (wakeup : Bool)
  /-- in `signal_callback_` -/
  | signalled
  /-- in `DoPendingFunctors`, between the two swaps -/
  | swapping
  /-- in `DoPendingFunctors`, with this many functors already called -/
  | executing (called : Nat)
  /-- in `DoPendingFunctors`, behind the reset of the flag: the batch is cleared -/
  | clearing
  deriving DecidableEq

/-- User code may run on the loop thread. -/
def LoopControl.userCode : LoopControl → Bool
  | .outside | .handling _ | .signalled | .executing _ | .clearing => true
  | .testing | .polling | .swapping => false

/-- Events have been polled, and the functors that are pending now will be taken in this round. -/
def LoopControl.collects : LoopControl → Bool
  | .handling _ | .signalled => true
  | _ => false

structure EventLoop (α : Type*) where
  control : LoopControl := .outside
  looping : Bool := false
  quit : Bool := false
  callingPendingFunctors : Bool := false
  signalPending : Bool := false
  signalCallback : Bool := false
  wakeupCounter : Nat := 0
  localPending : List α := []
  localExecuting : List α := []
  remotePending : List α := []
  remoteExecuting : List α := []
  /-- other threads between their push and their `WakeUp` -/
  waking : Nat := 0
  /-- the functors that have been called, in order -/
  called : List α := []

inductive EventLoopStep (α : Type*) where
  /-- `QueueInLoop` on the loop thread -/
  | queueInLoop (functor : α)
  /-- `QueueInLoop` on another thread, up to the end of the lock -/
  | remotePush (functor : α)
  /-- `WakeUp` at the end of `QueueInLoop` on another thread -/
  | remoteWakeUp
  /-- any other write to the eventfd: of `Quit` on another thread, or of a signal handler -/
  | wakeUp
  | raiseSignal
  | quit
  | loop
  | test
  | poll (wakeup : Bool)
  | handleWakeUpRead
  | eventsHandled
  | signalReturns
  | swapRemote
  | callNext
  | finish
  | cleared

namespace EventLoop

/-- `WakeUp`: the counter saturates. -/
def wakeUp (s : EventLoop α) : EventLoop α :=
  { s with wakeupCounter := min (s.wakeupCounter + 1) (2 ^ 64 - 2) }

/-- `QueueInLoop` on the loop thread. -/
def queueInLoop (s : EventLoop α) (functor : α) : EventLoop α :=
  let s := { s with localPending := s.localPending ++ [functor] }
  if s.callingPendingFunctors then s.wakeUp else s

/-- `DoPendingFunctors`, up to the first swap. -/
def swapLocal (s : EventLoop α) : EventLoop α :=
  { s with
    callingPendingFunctors := true
    localExecuting := s.localPending
    localPending := s.localExecuting
    control := .swapping }

def step (s : EventLoop α) : EventLoopStep α → Option (EventLoop α)
  | .queueInLoop functor => if s.control.userCode then some (s.queueInLoop functor) else none
  | .remotePush functor =>
    some { s with remotePending := s.remotePending ++ [functor], waking := s.waking + 1 }
  | .remoteWakeUp => if s.waking ≠ 0 then some { s.wakeUp with waking := s.waking - 1 } else none
  | .wakeUp => some s.wakeUp
  | .raiseSignal => some { s with signalPending := true }
  | .quit => some { s with quit := true }
  | .loop =>
    -- a second call throws
    if s.control = .outside ∧ !s.looping then
      some { s with looping := true, quit := false, control := .testing }
    else none
  | .test =>
    if s.control = .testing then
      some (if s.quit then { s with looping := false, control := .outside }
        else { s with control := .polling })
    else none
  | .poll wakeup =>
    if s.control = .polling ∧ (wakeup → 0 < s.wakeupCounter) then
      some { s with control := .handling wakeup }
    else none
  | .handleWakeUpRead =>
    if s.control = .handling true then
      some { s with wakeupCounter := 0, control := .handling false }
    else none
  | .eventsHandled =>
    if s.control = .handling false then
      let pending := s.signalPending
      let s := { s with signalPending := false }
      some (if pending && s.signalCallback then { s with control := .signalled } else s.swapLocal)
    else none
  | .signalReturns => if s.control = .signalled then some s.swapLocal else none
  | .swapRemote =>
    if s.control = .swapping then
      some { s with
        remoteExecuting := s.remotePending
        remotePending := s.remoteExecuting
        control := .executing 0 }
    else none
  | .callNext =>
    match s.control with
    | .executing n =>
      ((s.localExecuting ++ s.remoteExecuting)[n]?).map fun functor =>
        { s with called := s.called ++ [functor], control := .executing (n + 1) }
    | _ => none
  | .finish =>
    if s.control = .executing (s.localExecuting ++ s.remoteExecuting).length then
      some { s with callingPendingFunctors := false, control := .clearing }
    else none
  | .cleared =>
    if s.control = .clearing then
      some { s with localExecuting := [], remoteExecuting := [], control := .testing }
    else none

/-- The state behind a list of steps. -/
def run (s : EventLoop α) (steps : List (EventLoopStep α)) : Option (EventLoop α) :=
  Transition.run step s steps

/-- A loop that has just been constructed. -/
def start (signalCallback : Bool) : EventLoop α := { signalCallback := signalCallback }

/-! ## No wake-up is lost -/

/-- When the loop thread is about to block and no other thread still has to write to the eventfd,
a functor that is pending has made it readable. -/
def WokenUp (s : EventLoop α) : Prop :=
  s.control = .polling → s.waking = 0 → s.localPending ≠ [] ∨ s.remotePending ≠ [] →
    0 < s.wakeupCounter

/-- What the loop thread posts outside of `Loop`, or while a batch is cleared, finds the eventfd
readable. -/
def PostsWoken (s : EventLoop α) : EventLoopStep α → Prop
  | .queueInLoop _ => s.control = .outside ∨ s.control = .clearing → 0 < s.wakeupCounter
  | _ => True

instance (s : EventLoop α) (l : EventLoopStep α) : Decidable (PostsWoken s l) := by
  cases l <;> unfold PostsWoken <;> infer_instance

/-- A pending functor is taken in this round, or the eventfd is readable, or it will be. -/
structure Awake (s : EventLoop α) : Prop where
  flag : s.callingPendingFunctors = true ↔
    s.control = .swapping ∨ ∃ n, s.control = .executing n
  executing : s.callingPendingFunctors = false → s.control ≠ .clearing →
    s.localExecuting = [] ∧ s.remoteExecuting = []
  swapped : s.control = .swapping → s.remoteExecuting = []
  posted : s.localPending ≠ [] → s.control.collects = true ∨ 0 < s.wakeupCounter
  pushed : s.remotePending ≠ [] →
    s.control.collects = true ∨ s.control = .swapping ∨ 0 < s.waking ∨ 0 < s.wakeupCounter

variable {s s' : EventLoop α} {l : EventLoopStep α}

theorem Awake.start (signalCallback : Bool) : Awake (start signalCallback : EventLoop α) := by
  refine ⟨?_, fun _ _ => ⟨rfl, rfl⟩, fun _ => rfl, ?_, ?_⟩ <;> simp [EventLoop.start]

theorem wakeupCounter_wakeUp (s : EventLoop α) : 0 < s.wakeUp.wakeupCounter := by
  simp [EventLoop.wakeUp]

/-- `WakeUp` leaves everything else as it is. -/
theorem Awake.wakeUp (h : Awake s) : Awake s.wakeUp :=
  ⟨h.flag, h.executing, h.swapped, fun _ => .inr (wakeupCounter_wakeUp s),
    fun _ => .inr (.inr (.inr (wakeupCounter_wakeUp s)))⟩

theorem Awake.queueInLoop (h : Awake s) (huser : s.control.userCode = true) {functor : α}
    (hwoken : PostsWoken s (.queueInLoop functor)) : Awake (s.queueInLoop functor) := by
  have hpushed : s.callingPendingFunctors = false →
      s.control.collects = true ∨ 0 < s.wakeupCounter := by
    intro hflag
    have hnot : ¬(s.control = .swapping ∨ ∃ n, s.control = .executing n) := by
      rw [← h.flag, hflag]
      simp
    cases hc : s.control with
    | outside => exact .inr (hwoken (.inl hc))
    | clearing => exact .inr (hwoken (.inr hc))
    | handling wakeup => exact .inl rfl
    | signalled => exact .inl rfl
    | executing n => exact absurd (.inr ⟨n, hc⟩) hnot
    | testing | polling | swapping => simp [hc, LoopControl.userCode] at huser
  unfold EventLoop.queueInLoop
  dsimp only
  split
  · have hw := wakeupCounter_wakeUp { s with localPending := s.localPending ++ [functor] }
    exact ⟨h.flag, h.executing, h.swapped, fun _ => .inr hw, fun _ => .inr (.inr (.inr hw))⟩
  · next hflag => exact ⟨h.flag, h.executing, h.swapped, fun _ => hpushed (by simpa using hflag), h.pushed⟩

theorem Awake.swapLocal (h : Awake s) (hcollects : s.control.collects = true) :
    Awake s.swapLocal := by
  have hflag : s.callingPendingFunctors = false := by
    cases hcall : s.callingPendingFunctors with
    | false => rfl
    | true =>
      rcases h.flag.mp hcall with hc | ⟨n, hc⟩ <;> simp [hc, LoopControl.collects] at hcollects
  obtain ⟨hlocal, hremote⟩ := h.executing hflag fun hc => by
    simp [hc, LoopControl.collects] at hcollects
  refine ⟨by simp [EventLoop.swapLocal], fun hcall => ?_, fun _ => hremote, fun hne => ?_,
    fun _ => .inr (.inl rfl)⟩
  · cases hcall
  · exact absurd hlocal hne

/-- The loop thread goes on to a place at which no batch is under way and nothing is collected. -/
theorem Awake.move (h : Awake s) (hidle : s.control.collects = false) (hswap : s.control ≠ .swapping)
    (hexecute : ∀ n, s.control ≠ .executing n) (hclear : s.control ≠ .clearing)
    {control : LoopControl} (hswap' : control ≠ .swapping)
    (hexecute' : ∀ n, control ≠ .executing n) (looping quit : Bool) :
    Awake { s with control := control, looping := looping, quit := quit } := by
  refine ⟨?_, fun hflag _ => h.executing hflag hclear, fun hc => absurd hc hswap', fun hne => ?_,
    fun hne => ?_⟩
  · have hnot : s.callingPendingFunctors ≠ true := by
      rw [ne_eq, h.flag]
      rintro (hc | ⟨n, hc⟩)
      · exact hswap hc
      · exact hexecute n hc
    simp [hnot, hswap', hexecute']
  · obtain hc | hpos := h.posted hne
    · simp [hidle] at hc
    · exact .inr hpos
  · obtain hc | hc | hpos := h.pushed hne
    · simp [hidle] at hc
    · exact absurd hc hswap
    · exact .inr (.inr hpos)

/-- The events of a poll are handled, and a signal may be. -/
theorem Awake.collect (h : Awake s) (hflag : s.callingPendingFunctors = false)
    (hclear : s.control ≠ .clearing) {control : LoopControl} (hcollects : control.collects = true)
    (counter : Nat) (signalPending : Bool) :
    Awake { s with
      control := control, wakeupCounter := counter, signalPending := signalPending } := by
  refine ⟨?_, fun _ _ => h.executing hflag hclear, fun hc => ?_, fun _ => .inl hcollects,
    fun _ => .inl hcollects⟩
  · show s.callingPendingFunctors = true ↔ _
    rw [hflag]
    simp only [Bool.false_eq_true, false_iff]
    rintro (rfl | ⟨n, rfl⟩) <;> cases hcollects
  · obtain rfl : control = .swapping := hc
    cases hcollects

theorem Awake.flag_eq_false (h : Awake s) (hswap : s.control ≠ .swapping)
    (hexecute : ∀ n, s.control ≠ .executing n) : s.callingPendingFunctors = false := by
  rw [← Bool.not_eq_true, h.flag]
  rintro (hc | ⟨n, hc⟩)
  · exact hswap hc
  · exact hexecute n hc

/-- The batch goes on. -/
theorem Awake.execute (h : Awake s)
    (hbatch : s.control = .swapping ∨ ∃ n, s.control = .executing n) (n : Nat)
    {remoteExecuting remotePending : List α} (called : List α)
    (hremote : remotePending ≠ [] → s.remotePending ≠ [] ∧ s.control ≠ .swapping) :
    Awake { s with
      remoteExecuting := remoteExecuting
      remotePending := remotePending
      called := called
      control := .executing n } := by
  have hflag : s.callingPendingFunctors = true := h.flag.mpr hbatch
  have hcollects : s.control.collects = false := by
    obtain hc | ⟨m, hc⟩ := hbatch <;> rw [hc] <;> rfl
  refine ⟨by simp [hflag], fun hnot => ?_, fun hc => ?_, fun hne => ?_, fun hne => ?_⟩
  · rw [show s.callingPendingFunctors = false from hnot] at hflag
    cases hflag
  · cases hc
  · obtain hc | hpos := h.posted hne
    · simp [hcollects] at hc
    · exact .inr hpos
  · obtain ⟨hne, hswap⟩ := hremote hne
    obtain hc | hc | hpos := h.pushed hne
    · simp [hcollects] at hc
    · exact absurd hc hswap
    · exact .inr (.inr hpos)

/-- The batch is over, and then its functors are destroyed. -/
theorem Awake.clear (h : Awake s) {n : Nat} (hc : s.control = .executing n ∨ s.control = .clearing) :
    (s.control = .clearing → Awake { s with
      localExecuting := [], remoteExecuting := [], control := .testing }) ∧
    Awake { s with callingPendingFunctors := false, control := .clearing } := by
  have hcollects : s.control.collects = false := by
    obtain hc | hc := hc <;> rw [hc] <;> rfl
  have hswap : s.control ≠ .swapping := by
    obtain hc | hc := hc <;> rw [hc] <;> simp
  have hposted : s.localPending ≠ [] → 0 < s.wakeupCounter := by
    intro hne
    obtain hc | hpos := h.posted hne
    · simp [hcollects] at hc
    · exact hpos
  have hpushed : s.remotePending ≠ [] → 0 < s.waking ∨ 0 < s.wakeupCounter := by
    intro hne
    obtain hc | hc | hpos := h.pushed hne
    · simp [hcollects] at hc
    · exact absurd hc hswap
    · exact hpos
  constructor
  · intro hclear
    have hflag := h.flag_eq_false hswap (by simp [hclear])
    exact ⟨by simp [hflag], fun _ _ => ⟨rfl, rfl⟩, by simp, fun hne => .inr (hposted hne),
      fun hne => .inr (.inr (hpushed hne))⟩
  · exact ⟨by simp, by simp, by simp, fun hne => .inr (hposted hne),
      fun hne => .inr (.inr (hpushed hne))⟩

theorem Awake.step (h : Awake s) (hwoken : PostsWoken s l) (hstep : s.step l = some s') :
    Awake s' := by
  cases l with
  | queueInLoop functor =>
    simp only [EventLoop.step, Option.ite_none_right_eq_some] at hstep
    obtain ⟨huser, hstep⟩ := hstep
    cases hstep
    exact h.queueInLoop huser hwoken
  | remotePush functor =>
    cases hstep
    exact ⟨h.flag, h.executing, h.swapped, h.posted, fun _ => .inr (.inr (.inl (Nat.succ_pos _)))⟩
  | remoteWakeUp =>
    simp only [EventLoop.step, Option.ite_none_right_eq_some] at hstep
    obtain ⟨-, hstep⟩ := hstep
    cases hstep
    have hw := wakeupCounter_wakeUp s
    exact ⟨h.flag, h.executing, h.swapped, fun _ => .inr hw, fun _ => .inr (.inr (.inr hw))⟩
  | wakeUp =>
    cases hstep
    exact h.wakeUp
  | raiseSignal | quit =>
    cases hstep
    exact ⟨h.flag, h.executing, h.swapped, h.posted, h.pushed⟩
  | loop =>
    simp only [EventLoop.step, Option.ite_none_right_eq_some] at hstep
    obtain ⟨⟨hc, -⟩, hstep⟩ := hstep
    cases hstep
    apply h.move <;> simp [hc, LoopControl.collects]
  | test =>
    simp only [EventLoop.step, Option.ite_none_right_eq_some] at hstep
    obtain ⟨hc, hstep⟩ := hstep
    cases hstep
    split
    · apply h.move <;> simp [hc, LoopControl.collects]
    · apply h.move <;> simp [hc, LoopControl.collects]
  | poll wakeup =>
    simp only [EventLoop.step, Option.ite_none_right_eq_some] at hstep
    obtain ⟨⟨hc, -⟩, hstep⟩ := hstep
    cases hstep
    apply h.move <;> simp [hc, LoopControl.collects]
  | handleWakeUpRead =>
    -- the counter is reset while the functors that are pending are still to be taken
    simp only [EventLoop.step, Option.ite_none_right_eq_some] at hstep
    obtain ⟨hc, hstep⟩ := hstep
    cases hstep
    apply h.collect
    · apply h.flag_eq_false <;> simp [hc]
    · simp [hc]
    · rfl
  | eventsHandled =>
    simp only [EventLoop.step, Option.ite_none_right_eq_some] at hstep
    obtain ⟨hc, hstep⟩ := hstep
    have hsignal : Awake { s with signalPending := false } :=
      ⟨h.flag, h.executing, h.swapped, h.posted, h.pushed⟩
    cases hstep
    split
    · apply h.collect
      · apply h.flag_eq_false <;> simp [hc]
      · simp [hc]
      · rfl
    · apply hsignal.swapLocal
      show s.control.collects = true
      rw [hc]
      rfl
  | signalReturns =>
    simp only [EventLoop.step, Option.ite_none_right_eq_some] at hstep
    obtain ⟨hc, hstep⟩ := hstep
    cases hstep
    apply h.swapLocal
    rw [hc]
    rfl
  | swapRemote =>
    simp only [EventLoop.step, Option.ite_none_right_eq_some] at hstep
    obtain ⟨hc, hstep⟩ := hstep
    cases hstep
    apply h.execute (.inl hc)
    exact fun hne => absurd (h.swapped hc) hne
  | callNext =>
    simp only [EventLoop.step] at hstep
    split at hstep
    · next n hc =>
      rw [Option.map_eq_some_iff] at hstep
      obtain ⟨functor, -, rfl⟩ := hstep
      apply h.execute (.inr ⟨n, hc⟩)
      exact fun hne => ⟨hne, by simp [hc]⟩
    · cases hstep
  | finish =>
    simp only [EventLoop.step, Option.ite_none_right_eq_some] at hstep
    obtain ⟨hc, hstep⟩ := hstep
    cases hstep
    exact (h.clear (.inl hc)).2
  | cleared =>
    simp only [EventLoop.step, Option.ite_none_right_eq_some] at hstep
    obtain ⟨hc, hstep⟩ := hstep
    cases hstep
    exact (h.clear (n := 0) (.inr hc)).1 hc

/-- In every run in which the loop thread posts outside of `Loop`, and from destructors of functors,
only when the eventfd is readable, no wake-up is lost. -/
theorem woken_up (signalCallback : Bool) (steps : List (EventLoopStep α)) (s : EventLoop α)
    (hwoken : Transition.Meets step PostsWoken (start signalCallback : EventLoop α) steps)
    (hrun : (start signalCallback : EventLoop α).run steps = some s) : WokenUp s := by
  have h : Awake s := Transition.invariant_run (fun _ _ _ hI hC hstep => hI.step hC hstep)
    (Awake.start signalCallback) hwoken hrun
  intro hpolling hwaking hpending
  have hcollects : s.control.collects = false := by
    rw [hpolling]
    rfl
  rcases hpending with hlocal | hremote
  · rcases h.posted hlocal with hc | hpos
    · simp [hc] at hcollects
    · exact hpos
  · rcases h.pushed hremote with hc | hc | hpos | hpos
    · simp [hc] at hcollects
    · cases hc.symm.trans hpolling
    · omega
    · exact hpos

/-- A functor that is posted inside of another one. -/
def nested : List (EventLoopStep Nat) :=
  [.loop, .test, .remotePush 0, .remoteWakeUp, .poll true, .handleWakeUpRead, .eventsHandled,
    .swapRemote, .callNext, .queueInLoop 1, .finish, .cleared, .test]

theorem woken_up_nested : ∃ s, (start false).run nested = some s ∧ s.control = .polling ∧
    s.localPending = [1] ∧ WokenUp s :=
  ⟨_, rfl, rfl, rfl, woken_up false nested _ (by decide) rfl⟩

/-- A functor that is posted before `Loop` waits until something else wakes the loop up, and so does
one that is posted by the destructor of a functor. -/
theorem posted_before_loop :
    (∃ s : EventLoop Nat, (start false).run [.queueInLoop 0, .loop, .test] = some s ∧ ¬WokenUp s) ∧
      ∃ s : EventLoop Nat, (start false).run [.loop, .test, .remotePush 0, .remoteWakeUp,
        .poll true, .handleWakeUpRead, .eventsHandled, .swapRemote, .callNext, .finish,
        .queueInLoop 1, .cleared, .test] = some s ∧ ¬WokenUp s := by
  refine ⟨⟨_, rfl, fun h => ?_⟩, ⟨_, rfl, fun h => ?_⟩⟩
  · exact absurd (h rfl rfl (.inl (List.cons_ne_nil _ _))) (lt_irrefl 0)
  · exact absurd (h rfl rfl (.inl (List.cons_ne_nil _ _))) (lt_irrefl 0)

end EventLoop

end NebulaRpc.Net
