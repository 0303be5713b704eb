import NebulaRpc.Library.Transition
import NebulaRpc.Net.TimerRuns

/-!
# The timer queue in its event loop

The loop thread with its timer queue, other threads that add and cancel timers through
`QueueInLoop`, the clock and the timerfd, as a transition system. User code runs on the loop thread
outside of `HandleRead` and inside of the actions that `ExpireCurrentBucket` invokes; there it may
add and cancel timers. Numbers are given to the calls of `AddTimer` in the order in which they are
made and are carried in the action.

The time of a step is free as long as the clock does not go back, and of the timerfd only this is
assumed: armed at `a` with the first delay `d`, at most `1 + ⌊(now - a - d) / 1ms⌋` expirations have
become readable at `now`, and setting it again clears the count. The 63-bit sequence of external
ids does not run out.
-/

namespace NebulaRpc.Net

variable {β : Type*}

/-- What the loop thread is doing. -/
inductive Control where
  /-- outside of `HandleRead` -/
  | idle
  /-- in `AdvanceWheel`, with this many iterations to go -/
  | ticking (remaining : Nat)
  /-- in `ExpireCurrentBucket`, before the test of its loop -/
  | draining (bucket remaining : Nat)
  /-- in `InvokeAction` -/
  | acting (bucket remaining : Nat)
  deriving DecidableEq

namespace Control

/-- The bucket that is being drained. -/
def bucket : Control → Option Nat
  | .idle | .ticking _ => none
  | .draining b _ | .acting b _ => some b

/-- The iterations of `AdvanceWheel` that are still to come. -/
def remaining : Control → Nat
  | .idle => 0
  | .ticking r | .draining _ r | .acting _ r => r

/-- User code is running and may call the queue. -/
def userCode : Control → Bool
  | .idle | .acting .. => true
  | .ticking _ | .draining .. => false

end Control

/-- What another thread has handed to `QueueInLoop`. A cancellation keeps the numbers of the calls
that had returned its id when it began. -/
inductive TimerFunctor (β : Type*) where
  | add (number : Nat) (id : TimerId) (deadline : Int) (action : β)
  | cancel (id : TimerId) (covered : List Nat)

/-- The external id of a queued addition. -/
def TimerFunctor.addId : TimerFunctor β → Option Nat
  | .add _ id _ _ => some id.value
  | .cancel .. => none

/-- An invocation of an action: when it was, and whether a cancellation had taken effect. -/
structure Invocation (β : Type*) where
  number : Nat
  deadline : Int
  action : β
  clock : Int
  cancelled : Bool
  deriving DecidableEq

/-- A call of `AddTimer` on another thread that has its id but has not reached `QueueInLoop`. -/
structure Arriving (β : Type*) where
  number : Nat
  id : TimerId
  deadline : Int
  action : β

structure TimerLoop (β : Type*) where
  queue : TimerQueue (Nat × β) := {}
  clock : Int := 0
  control : Control := .idle
  arriving : List (Arriving β) := []
  functors : List (TimerFunctor β) := []
  registered : Nat := 0
  returned : List (Nat × TimerId) := []
  cancelled : List Nat := []
  log : List (Invocation β) := []

/-- A step of the loop thread, of another thread or of the clock. -/
inductive LoopStep (β : Type*) where
  | elapse (now : Int)
  | addTimer (deadline : Int) (action : β) (env : TimerQueue.AddEnv)
  | cancel (id : TimerId)
  | remoteAddTimer (deadline : Int) (action : β)
  | remoteQueue (index : Nat)
  | remoteCancel (id : TimerId)
  | runFunctor (env : TimerQueue.AddEnv)
  | read (expirations : Nat)
  | tick
  | expire
  | actionReturns

/-- The number of expirations can be read from the timerfd. -/
def TimerFd.readable (fd : TimerFd) (now : Int) (expirations : Nat) : Bool :=
  fd.armedAt + fd.firstDelay ≤ now &&
    (fd.taken + expirations : Int) ≤ 1 + (now - fd.armedAt - fd.firstDelay) / kTickNanoseconds

namespace TimerLoop

/-- A loop whose queue has just been constructed. -/
def start (epoch : Int) : TimerLoop β := { queue := { wheelEpoch := epoch }, clock := epoch }

/-- The calls of `AddTimer` that have returned this id. -/
def covered (s : TimerLoop β) (id : TimerId) : List Nat :=
  s.returned.filterMap fun (number, id') => if id' = id then some number else none

/-- The readings of the clock in a call of `AddTimerInLoop`. -/
def onTime (s : TimerLoop β) (env : TimerQueue.AddEnv) : Bool :=
  s.clock ≤ env.syncNow && env.syncNow ≤ env.armNow

/-- `Cancel` on the loop thread, or `CancelInLoop` run as a functor. -/
def cancelNow (s : TimerLoop β) (id : TimerId) (covered : List Nat) : TimerLoop β :=
  { s with
    queue := if id.valid then s.queue.cancelInLoop id else s.queue
    cancelled := covered ++ s.cancelled }

/-- `AddTimer` on the loop thread. -/
def addNow (s : TimerLoop β) (deadline : Int) (action : β) (env : TimerQueue.AddEnv) :
    TimerLoop β :=
  let (id, queue) := s.queue.addTimerInLoop deadline (s.registered, action) 0 env
  { s with
    queue := queue
    clock := env.armNow
    registered := s.registered + 1
    returned := id.toList.map (s.registered, ·) ++ s.returned }

/-- One iteration of `ExpireCurrentBucket`. -/
def expireNow (s : TimerLoop β) (b r : Nat) : TimerLoop β :=
  match s.queue.expireStep b with
  | .done => { s with control := .ticking r }
  | .replaced queue => { s with queue := queue }
  | .due _ none queue => { s with queue := queue }
  | .due deadline (some (number, action)) queue =>
    { s with
      queue := queue
      control := .acting b r
      log := s.log ++ [⟨number, deadline, action, s.clock, number ∈ s.cancelled⟩] }

def step (s : TimerLoop β) : LoopStep β → Option (TimerLoop β)
  | .elapse now => if s.clock ≤ now then some { s with clock := now } else none
  | .addTimer deadline action env =>
    if s.control.userCode && s.onTime env then some (s.addNow deadline action env) else none
  | .cancel id => if s.control.userCode then some (s.cancelNow id (s.covered id)) else none
  | .remoteAddTimer deadline action =>
    if s.queue.nextExternalTimerId < 2 ^ 63 then
      let (id, queue) := s.queue.makeExternalTimerId
      some { s with
        queue := queue
        registered := s.registered + 1
        arriving := s.arriving ++ [⟨s.registered, id, deadline, action⟩] }
    else none
  | .remoteQueue index =>
    s.arriving[index]?.map fun call =>
      { s with
        arriving := s.arriving.eraseIdx index
        functors := s.functors ++ [.add call.number call.id call.deadline call.action]
        returned := (call.number, call.id) :: s.returned }
  | .remoteCancel id =>
    some (if id.valid then { s with functors := s.functors ++ [.cancel id (s.covered id)] } else s)
  | .runFunctor env =>
    if s.control = .idle ∧ s.onTime env then
      match s.functors with
      | [] => none
      | .add number id deadline action :: functors =>
        some { s with
          queue := (s.queue.addTimerInLoop deadline (number, action) id.value env).2
          clock := env.armNow
          functors := functors }
      | .cancel id covered :: functors => some ({ s with functors := functors }.cancelNow id covered)
    else none
  | .read expirations =>
    if s.control = .idle then
      s.queue.timerFd.bind fun fd =>
        if fd.readable s.clock expirations then
          some { s with
            queue := { s.queue with timerFd := some { fd with taken := fd.taken + expirations } }
            control := .ticking expirations }
        else none
    else none
  | .tick =>
    match s.control with
    | .ticking 0 => some { s with queue := s.queue.finishRead, control := .idle }
    | .ticking (r + 1) =>
      let queue := s.queue.advanceTick
      some { s with queue := queue, control := .draining (queue.currentTick % kWheelSize) r }
    | _ => none
  | .expire =>
    match s.control with
    | .draining b r => some (s.expireNow b r)
    | _ => none
  | .actionReturns =>
    match s.control with
    | .acting b r => some { s with control := .draining b r }
    | _ => none

/-- The state behind a list of steps. -/
def run (s : TimerLoop β) (steps : List (LoopStep β)) : Option (TimerLoop β) :=
  Transition.run step s steps

/-! ## What a step can do -/

/-- The steps, one constructor for each thing that can happen. -/
inductive Stepped (s : TimerLoop β) : LoopStep β → TimerLoop β → Prop
  | elapse {now : Int} (htime : s.clock ≤ now) : Stepped s (.elapse now) { s with clock := now }
  | addTimer {deadline : Int} {action : β} {env : TimerQueue.AddEnv}
      (huser : s.control.userCode = true) (hsync : s.clock ≤ env.syncNow)
      (harm : env.syncNow ≤ env.armNow) :
      Stepped s (.addTimer deadline action env) (s.addNow deadline action env)
  | cancel {id : TimerId} (huser : s.control.userCode = true) :
      Stepped s (.cancel id) (s.cancelNow id (s.covered id))
  | remoteAddTimer {deadline : Int} {action : β} (hroom : s.queue.nextExternalTimerId < 2 ^ 63) :
      Stepped s (.remoteAddTimer deadline action)
        { s with
          queue := s.queue.makeExternalTimerId.2
          registered := s.registered + 1
          arriving := s.arriving ++
            [⟨s.registered, s.queue.makeExternalTimerId.1, deadline, action⟩] }
  | remoteQueue {index : Nat} {call : Arriving β} (hcall : s.arriving[index]? = some call) :
      Stepped s (.remoteQueue index)
        { s with
          arriving := s.arriving.eraseIdx index
          functors := s.functors ++ [.add call.number call.id call.deadline call.action]
          returned := (call.number, call.id) :: s.returned }
  | remoteCancel {id : TimerId} (hvalid : id.valid = true) :
      Stepped s (.remoteCancel id)
        { s with functors := s.functors ++ [.cancel id (s.covered id)] }
  | remoteCancelInvalid {id : TimerId} : Stepped s (.remoteCancel id) s
  | runAdd {env : TimerQueue.AddEnv} {number : Nat} {id : TimerId} {deadline : Int} {action : β}
      {functors : List (TimerFunctor β)} (hidle : s.control = .idle)
      (hsync : s.clock ≤ env.syncNow) (harm : env.syncNow ≤ env.armNow)
      (hhead : s.functors = .add number id deadline action :: functors) :
      Stepped s (.runFunctor env)
        { s with
          queue := (s.queue.addTimerInLoop deadline (number, action) id.value env).2
          clock := env.armNow
          functors := functors }
  | runCancel {env : TimerQueue.AddEnv} {id : TimerId} {covered : List Nat}
      {functors : List (TimerFunctor β)} (hidle : s.control = .idle)
      (hhead : s.functors = .cancel id covered :: functors) :
      Stepped s (.runFunctor env) ({ s with functors := functors }.cancelNow id covered)
  | read {expirations : Nat} {fd : TimerFd} (hidle : s.control = .idle)
      (hfd : s.queue.timerFd = some fd) (hread : fd.readable s.clock expirations = true) :
      Stepped s (.read expirations)
        { s with
          queue := { s.queue with timerFd := some { fd with taken := fd.taken + expirations } }
          control := .ticking expirations }
  | finishRead (hcontrol : s.control = .ticking 0) :
      Stepped s .tick { s with queue := s.queue.finishRead, control := .idle }
  | advanceTick {r : Nat} (hcontrol : s.control = .ticking (r + 1)) :
      Stepped s .tick
        { s with
          queue := s.queue.advanceTick
          control := .draining (s.queue.advanceTick.currentTick % kWheelSize) r }
  | drained {b r : Nat} (hcontrol : s.control = .draining b r)
      (hexpire : s.queue.expireStep b = .done) : Stepped s .expire { s with control := .ticking r }
  | replaced {b r : Nat} {queue : TimerQueue (Nat × β)} (hcontrol : s.control = .draining b r)
      (hexpire : s.queue.expireStep b = .replaced queue) :
      Stepped s .expire { s with queue := queue }
  | dueEmpty {b r : Nat} {deadline : Int} {queue : TimerQueue (Nat × β)}
      (hcontrol : s.control = .draining b r)
      (hexpire : s.queue.expireStep b = .due deadline none queue) :
      Stepped s .expire { s with queue := queue }
  | due {b r number : Nat} {deadline : Int} {action : β} {queue : TimerQueue (Nat × β)}
      (hcontrol : s.control = .draining b r)
      (hexpire : s.queue.expireStep b = .due deadline (some (number, action)) queue) :
      Stepped s .expire
        { s with
          queue := queue
          control := .acting b r
          log := s.log ++ [⟨number, deadline, action, s.clock, number ∈ s.cancelled⟩] }
  | actionReturns {b r : Nat} (hcontrol : s.control = .acting b r) :
      Stepped s .actionReturns { s with control := .draining b r }

theorem stepped_of_step {s s' : TimerLoop β} {l : LoopStep β} (h : s.step l = some s') :
    Stepped s l s' := by
  cases l with
  | elapse now =>
    simp only [step, Option.ite_none_right_eq_some, Option.some.injEq] at h
    obtain ⟨htime, rfl⟩ := h
    exact .elapse htime
  | addTimer deadline action env =>
    simp only [step, Option.ite_none_right_eq_some, Option.some.injEq, Bool.and_eq_true, onTime,
      decide_eq_true_eq] at h
    obtain ⟨⟨huser, hsync, harm⟩, rfl⟩ := h
    exact .addTimer huser hsync harm
  | cancel id =>
    simp only [step, Option.ite_none_right_eq_some, Option.some.injEq] at h
    obtain ⟨huser, rfl⟩ := h
    exact .cancel huser
  | remoteAddTimer deadline action =>
    simp only [step, Option.ite_none_right_eq_some, Option.some.injEq] at h
    obtain ⟨hroom, rfl⟩ := h
    exact .remoteAddTimer hroom
  | remoteQueue index =>
    simp only [step, Option.map_eq_some_iff] at h
    obtain ⟨call, hcall, rfl⟩ := h
    exact .remoteQueue hcall
  | remoteCancel id =>
    simp only [step, Option.some.injEq] at h
    split at h
    · next hvalid => subst h; exact .remoteCancel hvalid
    · subst h; exact .remoteCancelInvalid
  | runFunctor env =>
    simp only [step] at h
    split at h
    · next hcond =>
      obtain ⟨hidle, htime⟩ := hcond
      simp only [onTime, Bool.and_eq_true, decide_eq_true_eq] at htime
      split at h
      · cases h
      · next hhead => cases h; exact .runAdd hidle htime.1 htime.2 hhead
      · next hhead => cases h; exact .runCancel hidle hhead
    · cases h
  | read expirations =>
    simp only [step, Option.ite_none_right_eq_some, Option.bind_eq_some_iff,
      Option.some.injEq] at h
    obtain ⟨hidle, fd, hfd, hread, rfl⟩ := h
    exact .read hidle hfd hread
  | tick =>
    simp only [step] at h
    split at h
    · next hcontrol => cases h; exact .finishRead hcontrol
    · next hcontrol => cases h; exact .advanceTick hcontrol
    · cases h
  | expire =>
    simp only [step] at h
    split at h
    · next b r hcontrol =>
      cases h
      unfold expireNow
      split
      · next hexpire => exact .drained hcontrol hexpire
      · next hexpire => exact .replaced hcontrol hexpire
      · next hexpire => exact .dueEmpty hcontrol hexpire
      · next hexpire => exact .due hcontrol hexpire
    · cases h
  | actionReturns =>
    simp only [step] at h
    split at h
    · next hcontrol => cases h; exact .actionReturns hcontrol
    · cases h

/-! ## The invariant -/

/-- External ids that have been given out for timers that are not yet in the queue. -/
def pendingIds (s : TimerLoop β) : List Nat :=
  s.arriving.map (·.id.value) ++ s.functors.filterMap TimerFunctor.addId

/-- The queue is in order, and no external id is used twice. -/
structure Good (s : TimerLoop β) : Prop where
  sound : s.queue.Sound s.control.bucket
  next_le : s.queue.nextExternalTimerId ≤ 2 ^ 63
  pending : ∀ x ∈ s.pendingIds, 2 ^ 63 ≤ x ∧ x < 2 ^ 63 + s.queue.nextExternalTimerId
  nodup : s.pendingIds.Nodup
  filed : ∀ i f, s.queue.filed i = some f → f.timer.externalId ∉ s.pendingIds ∧
    f.timer.externalId < 2 ^ 63 + s.queue.nextExternalTimerId

theorem Good.start (epoch : Int) : Good (start epoch : TimerLoop β) where
  sound := by
    have h := TimerQueue.Sound.empty (α := Nat × β) none
    obtain ⟨B, hco⟩ := h.coherent
    refine ⟨⟨B, hco.congr rfl rfl rfl rfl rfl rfl⟩, fun _ => rfl, ?_⟩
    intro i f hf
    simp [TimerLoop.start, TimerQueue.filed, TimerSlot.filed] at hf
  next_le := by simp [TimerLoop.start]
  pending := by simp [TimerLoop.start, pendingIds]
  nodup := by simp [TimerLoop.start, pendingIds]
  filed := by
    intro i f hf
    simp [TimerLoop.start, TimerQueue.filed, TimerSlot.filed] at hf

section

variable {s s' : TimerLoop β}

/-- Steps that bring no new timer into the queue and draw no external id. -/
theorem Good.of_fewer (h : Good s) (hsound : s'.queue.Sound s'.control.bucket)
    (hnext : s'.queue.nextExternalTimerId = s.queue.nextExternalTimerId)
    (hids : s'.pendingIds.Sublist s.pendingIds)
    (hfiled : ∀ i f, s'.queue.filed i = some f → ∃ g, s.queue.filed i = some g ∧
      g.timer = f.timer) : Good s' := by
  refine ⟨hsound, hnext ▸ h.next_le, fun x hx => ?_, h.nodup.sublist hids, fun i f hf => ?_⟩
  · rw [hnext]
    exact h.pending x (hids.subset hx)
  · obtain ⟨g, hg, heq⟩ := hfiled i f hf
    obtain ⟨hnot, hlt⟩ := h.filed i g hg
    rw [← heq, hnext]
    exact ⟨fun hmem => hnot (hids.subset hmem), hlt⟩

theorem Good.freshExternal (h : Good s) {id : TimerId} (hid : id.value ∈ s.pendingIds) :
    s.queue.FreshExternal id.value := by
  obtain ⟨B, hco⟩ := h.sound.coherent
  refine .inr ⟨(h.pending _ hid).1, id.value_lt, ?_⟩
  by_contra hne
  obtain ⟨i, hi⟩ := Option.ne_none_iff_exists'.mp hne
  obtain ⟨-, hactive, hext⟩ := (hco.stored.external id.value i).mp hi
  obtain ⟨f, hf⟩ := hco.exists_filed hactive
  have hfext := (TimerSlot.filed_eq_some_iff.mp hf).2.2.2.2.2.1
  refine (h.filed i f hf).1 ?_
  rw [hfext, hext]
  exact hid

/-- A timer in the queue after an addition was there before or is the one added. -/
theorem Good.filed_add (h : Good s) {deadline : Int} {a : Nat × β} {x : Nat}
    (hx : s.queue.FreshExternal x) {env : TimerQueue.AddEnv} {j : Nat} {g : Filed (Nat × β)}
    (hg : (s.queue.addTimerInLoop deadline a x env).2.filed j = some g) :
    s.queue.filed j = some g ∨
      g.timer.externalId = x ∧ g.timer.action = a ∧ g.timer.deadline = deadline ∧
        ∃ id, (s.queue.addTimerInLoop deadline a x env).1 = some id ∧ g.timer.id = id := by
  obtain ⟨B, hco⟩ := h.sound.coherent
  have hspec := hco.addTimerInLoop deadline a hx env
  generalize s.queue.addTimerInLoop deadline a x env = result at hspec hg
  obtain ⟨_ | id, q'⟩ := result
  · rw [hspec.filed] at hg
    exact .inl hg
  · obtain ⟨i, f, hadd⟩ := hspec
    rw [hadd.filed] at hg
    split at hg
    · obtain rfl : f = g := by simpa using hg
      exact .inr ⟨hadd.externalId_eq, hadd.action_eq, hadd.deadline_eq, id, rfl, hadd.id_eq⟩
    · exact .inl hg

theorem Good.next_add (h : Good s) (deadline : Int) (a : Nat × β) {x : Nat}
    (hx : s.queue.FreshExternal x) (env : TimerQueue.AddEnv) :
    (s.queue.addTimerInLoop deadline a x env).2.nextExternalTimerId =
      s.queue.nextExternalTimerId := by
  obtain ⟨B, hco⟩ := h.sound.coherent
  have hspec := hco.addTimerInLoop deadline a hx env
  generalize s.queue.addTimerInLoop deadline a x env = result at hspec
  obtain ⟨_ | id, q'⟩ := result
  · exact hspec.nextExternalTimerId
  · obtain ⟨i, f, hadd⟩ := hspec
    exact hadd.nextExternalTimerId

theorem Good.cancelNow (h : Good s) (id : TimerId) (covered : List Nat) :
    Good (s.cancelNow id covered) := by
  unfold TimerLoop.cancelNow
  split
  · obtain ⟨B, hco⟩ := h.sound.coherent
    obtain ⟨B', hcut⟩ := hco.cancelInLoop h.sound.idle id
    refine h.of_fewer (h.sound.cancelInLoop id) hcut.nextExternalTimerId (.refl _) ?_
    intro i f hf
    rw [hcut.filed, Option.filter_eq_some_iff] at hf
    exact ⟨f, hf.1, rfl⟩
  · exact h.of_fewer h.sound rfl (.refl _) fun i f hf => ⟨f, hf, rfl⟩

theorem value_makeExternalTimerId {q : TimerQueue (Nat × β)}
    (hroom : q.nextExternalTimerId < 2 ^ 63) :
    q.makeExternalTimerId.1.value = 2 ^ 63 + q.nextExternalTimerId := by
  have hmod : q.nextExternalTimerId % 2 ^ 63 = q.nextExternalTimerId := Nat.mod_eq_of_lt hroom
  have hmask : kExternalTimerMask = 2 ^ 63 := by decide
  have hor := Nat.two_pow_add_eq_or_of_lt hroom 1
  simp only [TimerQueue.makeExternalTimerId, TimerId.ofNat, hmod, hmask]
  rw [Nat.mul_one] at hor
  rw [← hor]
  omega

/-- The ids of the timers that are not yet in the queue, when one call reaches `QueueInLoop`. -/
theorem pendingIds_remoteQueue {index : Nat} {call : Arriving β}
    (hcall : s.arriving[index]? = some call) :
    (({ s with
        arriving := s.arriving.eraseIdx index
        functors := s.functors ++ [.add call.number call.id call.deadline call.action]
        returned := (call.number, call.id) :: s.returned } : TimerLoop β).pendingIds).Perm
      s.pendingIds := by
  obtain ⟨hlt, hget⟩ := List.getElem?_eq_some_iff.mp hcall
  have hperm := (List.getElem_cons_eraseIdx_perm hlt).map (·.id.value)
  rw [hget] at hperm
  unfold pendingIds
  rw [List.filterMap_append, ← List.append_assoc]
  refine (List.perm_append_comm).trans ?_
  exact hperm.append_right _

/-- Every step keeps the queue in order. -/
theorem Good.step (h : Good s) {l : LoopStep β} (hstep : s.step l = some s') : Good s' := by
  cases stepped_of_step hstep with
  | elapse => exact h.of_fewer h.sound rfl (.refl _) fun i f hf => ⟨f, hf, rfl⟩
  | @addTimer deadline action env huser hsync harm =>
    have hx : s.queue.FreshExternal 0 := .inl rfl
    have hnext := h.next_add deadline (s.registered, action) hx env
    refine ⟨h.sound.addTimerInLoop deadline _ hx env, ?_, ?_, h.nodup, fun i f hf => ?_⟩
    · exact hnext ▸ h.next_le
    · exact hnext ▸ h.pending
    · show _ ∧ _ < 2 ^ 63 +
        (s.queue.addTimerInLoop deadline (s.registered, action) 0 env).2.nextExternalTimerId
      rw [hnext]
      rcases h.filed_add hx hf with hold | ⟨hzero, -⟩
      · exact h.filed i f hold
      · rw [hzero]
        refine ⟨fun hmem => ?_, by omega⟩
        have := (h.pending 0 hmem).1
        omega
  | cancel => exact h.cancelNow _ _
  | remoteAddTimer hroom =>
    have hvalue := value_makeExternalTimerId hroom
    have hnext : s.queue.makeExternalTimerId.2.nextExternalTimerId =
        s.queue.nextExternalTimerId + 1 := rfl
    have hnew : ∀ x ∈ s.pendingIds, x ≠ s.queue.makeExternalTimerId.1.value := by
      intro x hx
      have := (h.pending x hx).2
      omega
    obtain ⟨B, hco⟩ := h.sound.coherent
    have hperm : ∀ ids : List Nat, (s.arriving.map (·.id.value) ++ ids ++
        s.functors.filterMap TimerFunctor.addId).Perm (ids ++ s.pendingIds) := by
      intro ids
      rw [pendingIds, ← List.append_assoc]
      exact List.perm_append_comm.append_right _
    have hids := hperm [s.queue.makeExternalTimerId.1.value]
    refine ⟨⟨⟨B, hco.congr rfl rfl rfl rfl rfl rfl⟩, h.sound.idle,
      h.sound.resting.of_placed fun i f hf => .inl ⟨hf, rfl, rfl⟩⟩, ?_, ?_, ?_, ?_⟩
    · show s.queue.nextExternalTimerId + 1 ≤ 2 ^ 63
      omega
    · intro x hx
      simp only [pendingIds, List.map_append, List.map_cons, List.map_nil] at hx
      show _ ∧ x < 2 ^ 63 + (s.queue.nextExternalTimerId + 1)
      rcases List.mem_cons.mp (hids.subset hx) with rfl | hx
      · omega
      · have := h.pending x hx
        omega
    · simp only [pendingIds, List.map_append, List.map_cons, List.map_nil]
      exact hids.nodup_iff.mpr (List.nodup_cons.mpr ⟨fun hx => hnew _ hx rfl, h.nodup⟩)
    · intro i f hf
      obtain ⟨hnot, hlt⟩ := h.filed i f hf
      simp only [pendingIds, List.map_append, List.map_cons, List.map_nil]
      refine ⟨fun hmem => ?_, by omega⟩
      rcases List.mem_cons.mp (hids.subset hmem) with heq | hmem
      · omega
      · exact hnot hmem
  | remoteQueue hcall =>
    have hperm := pendingIds_remoteQueue hcall
    refine ⟨h.sound, h.next_le, fun x hx => h.pending x (hperm.subset hx), hperm.nodup_iff.mpr h.nodup,
      fun i f hf => ?_⟩
    obtain ⟨hnot, hlt⟩ := h.filed i f hf
    exact ⟨fun hmem => hnot (hperm.subset hmem), hlt⟩
  | remoteCancel =>
    refine h.of_fewer h.sound rfl ?_ fun i f hf => ⟨f, hf, rfl⟩
    simp [pendingIds, TimerFunctor.addId]
  | remoteCancelInvalid => exact h
  | @runAdd env number id deadline action functors hidle hsync harm hhead =>
    have hsplit : s.pendingIds = s.arriving.map (·.id.value) ++
        id.value :: functors.filterMap TimerFunctor.addId := by
      simp [pendingIds, hhead, TimerFunctor.addId]
    have hx : s.queue.FreshExternal id.value := h.freshExternal (by simp [hsplit])
    have hnext := h.next_add deadline (number, action) hx env
    have hsub : (s.arriving.map (·.id.value) ++
        functors.filterMap TimerFunctor.addId).Sublist s.pendingIds := by
      rw [hsplit]
      exact (List.Sublist.refl _).append (List.sublist_cons_self _ _)
    refine ⟨h.sound.addTimerInLoop deadline _ hx env, hnext ▸ h.next_le, ?_,
      h.nodup.sublist hsub, fun i f hf => ?_⟩
    · intro x hmem
      show _ ∧ x < 2 ^ 63 +
        (s.queue.addTimerInLoop deadline (number, action) id.value env).2.nextExternalTimerId
      rw [hnext]
      exact h.pending x (hsub.subset hmem)
    · show _ ∧ _ < 2 ^ 63 +
        (s.queue.addTimerInLoop deadline (number, action) id.value env).2.nextExternalTimerId
      rw [hnext]
      rcases h.filed_add hx hf with hold | ⟨hid, -⟩
      · obtain ⟨hnot, hlt⟩ := h.filed i f hold
        exact ⟨fun hmem => hnot (hsub.subset hmem), hlt⟩
      · rw [hid]
        refine ⟨fun hmem => ?_, (h.pending _ (by simp [hsplit])).2⟩
        have hnodup := h.nodup
        rw [hsplit, List.perm_middle.nodup_iff, List.nodup_cons] at hnodup
        exact hnodup.1 hmem
  | @runCancel env id covered functors hidle hhead =>
    have hrest : Good { s with functors := functors } := by
      refine h.of_fewer h.sound rfl ?_ fun i f hf => ⟨f, hf, rfl⟩
      simp only [pendingIds, hhead]
      exact (List.Sublist.refl _).append ((List.sublist_cons_self _ _).filterMap _)
    exact hrest.cancelNow id covered
  | read hidle hfd hread =>
    have hsound := h.sound
    rw [hidle] at hsound
    obtain ⟨B, hco⟩ := hsound.coherent
    refine h.of_fewer ⟨⟨B, hco.congr rfl rfl rfl rfl rfl rfl⟩, hsound.idle, hsound.resting⟩ rfl
      (.refl _) fun i f hf => ⟨f, hf, rfl⟩
  | finishRead hcontrol =>
    have hsound := h.sound
    rw [hcontrol] at hsound
    have heq := TimerQueue.finishRead_eq s.queue
    refine h.of_fewer hsound.finishRead ?_ (.refl _) fun i f hf => ⟨f, ?_, rfl⟩
    · show s.queue.finishRead.nextExternalTimerId = _
      rw [heq]
    · rw [← hf]
      show _ = s.queue.finishRead.filed i
      rw [heq]
      rfl
  | advanceTick hcontrol =>
    have hsound := h.sound
    rw [hcontrol] at hsound
    obtain ⟨hsound', hsame, -⟩ := hsound.of_advanceTick
    exact h.of_fewer hsound' hsame.clock.nextExternalTimerId (.refl _) fun i f hf =>
      TimerRun.timer_of_sameTimers hsame hf
  | drained hcontrol hexpire =>
    have hsound := h.sound
    rw [hcontrol] at hsound
    exact h.of_fewer (hsound.of_done hexpire) rfl (.refl _) fun i f hf => ⟨f, hf, rfl⟩
  | replaced hcontrol hexpire =>
    have hsound := h.sound
    rw [hcontrol] at hsound
    obtain ⟨hsound', hsame, -⟩ := hsound.of_replaced hexpire
    refine h.of_fewer ?_ hsame.clock.nextExternalTimerId (.refl _) fun i f hf =>
      TimerRun.timer_of_sameTimers hsame hf
    rw [hcontrol]
    exact hsound'
  | dueEmpty hcontrol hexpire =>
    have hsound := h.sound
    rw [hcontrol] at hsound
    obtain ⟨-, -, i, f, -, -, -, hsome, -⟩ := hsound.of_due hexpire
    cases hsome
  | due hcontrol hexpire =>
    have hsound := h.sound
    rw [hcontrol] at hsound
    obtain ⟨hsound', hclock, i, f, -, -, -, -, hfiled, -⟩ := hsound.of_due hexpire
    refine h.of_fewer hsound' hclock.nextExternalTimerId (.refl _) fun j g hg => ⟨g, ?_, rfl⟩
    rw [hfiled] at hg
    split at hg
    · cases hg
    · exact hg
  | actionReturns hcontrol =>
    have hsound := h.sound
    rw [hcontrol] at hsound
    exact h.of_fewer hsound rfl (.refl _) fun i f hf => ⟨f, hf, rfl⟩

end

end TimerLoop

end NebulaRpc.Net
