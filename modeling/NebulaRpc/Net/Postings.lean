import NebulaRpc.Net.EventLoop

/-!
# Posted functors

What the two double buffers of `EventLoop` amount to: one queue for the loop thread and one for the
other threads, from the fronts of which the functors are called. `localWaiting` and `remoteWaiting`
read these queues off the buffers and the place of the loop thread, and `EventLoop.Moved` lists
what a step does to them.

`Postings` adds the history of the posts. Every post gets a number and carries the thread it was
made on; the loop thread is `none`.
-/

namespace NebulaRpc.Net

variable {α τ : Type*}

/-- The step calls `QueueInLoop`. -/
def EventLoopStep.posts : EventLoopStep α → Bool
  | .queueInLoop _ | .remotePush _ => true
  | _ => false

namespace EventLoop

/-- The functors of the batch that the loop thread has still to call, of its own queue. -/
def localBatch (s : EventLoop α) : List α :=
  match s.control with
  | .swapping => s.localExecuting
  | .executing n => s.localExecuting.drop n
  | _ => []

/-- The functors of the batch that the loop thread has still to call, of the other threads'. -/
def remoteBatch (s : EventLoop α) : List α :=
  match s.control with
  | .executing n => s.remoteExecuting.drop (n - s.localExecuting.length)
  | _ => []

def localWaiting (s : EventLoop α) : List α := s.localBatch ++ s.localPending

def remoteWaiting (s : EventLoop α) : List α := s.remoteBatch ++ s.remotePending

/-- What the buffers of a batch hold outside of it. -/
structure Batched (s : EventLoop α) : Prop where
  idle : s.control ≠ .swapping → (∀ n, s.control ≠ .executing n) → s.control ≠ .clearing →
    s.localExecuting = [] ∧ s.remoteExecuting = []
  swapped : s.control = .swapping → s.localPending = [] ∧ s.remoteExecuting = []

/-- What a step does to the queues and to the functors called. -/
inductive Moved (s s' : EventLoop α) : EventLoopStep α → Prop where
  | posted {functor : α} (hlocal : s'.localWaiting = s.localWaiting ++ [functor])
      (hremote : s'.remoteWaiting = s.remoteWaiting) (hcalled : s'.called = s.called)
      (hcontrol : s'.control = s.control) : Moved s s' (.queueInLoop functor)
  | pushed {functor : α} (hlocal : s'.localWaiting = s.localWaiting)
      (hremote : s'.remoteWaiting = s.remoteWaiting ++ [functor]) (hcalled : s'.called = s.called)
      (hcontrol : s'.control = s.control) : Moved s s' (.remotePush functor)
  | calledLocal {functor : α} (hlocal : s.localWaiting = functor :: s'.localWaiting)
      (hremote : s'.remoteWaiting = s.remoteWaiting) (hcalled : s'.called = s.called ++ [functor])
      (hcontrol : ∃ n, s.control = .executing n) : Moved s s' .callNext
  | calledRemote {functor : α} (hlocal : s'.localWaiting = s.localWaiting)
      (hremote : s.remoteWaiting = functor :: s'.remoteWaiting)
      (hcalled : s'.called = s.called ++ [functor]) (hcontrol : ∃ n, s.control = .executing n) :
      Moved s s' .callNext
  | other {l : EventLoopStep α} (hl : l.posts = false)
      (hlocal : s'.localWaiting = s.localWaiting) (hremote : s'.remoteWaiting = s.remoteWaiting)
      (hcalled : s'.called = s.called) : Moved s s' l

variable {s s' : EventLoop α} {l : EventLoopStep α}

theorem Batched.start (signalCallback : Bool) : Batched (start signalCallback : EventLoop α) :=
  ⟨fun _ _ _ => ⟨rfl, rfl⟩, fun h => by cases h⟩

/-- A step that leaves the buffers and the control alone keeps the queues. -/
theorem Moved.same (hposts : l.posts = false) (hc : s'.control = s.control)
    (hl : s'.localPending = s.localPending) (hle : s'.localExecuting = s.localExecuting)
    (hr : s'.remotePending = s.remotePending) (hre : s'.remoteExecuting = s.remoteExecuting) (hcalled : s'.called = s.called) :
    Moved s s' l := by
  refine .other hposts ?_ ?_ hcalled
  · simp [localWaiting, localBatch, hc, hl, hle]
  · simp [remoteWaiting, remoteBatch, hc, hr, hre, hle]

/-- Between two places at which no batch is under way, only the pending functors wait. -/
theorem localBatch_eq_nil (hswap : s.control ≠ .swapping) (hexecute : ∀ n, s.control ≠ .executing n) :
    s.localBatch = [] := by
  unfold localBatch
  split
  · next hc => exact absurd hc hswap
  · next n hc => exact absurd hc (hexecute n)
  · rfl

theorem remoteBatch_eq_nil (hexecute : ∀ n, s.control ≠ .executing n) : s.remoteBatch = [] := by
  unfold remoteBatch
  split
  · next n hc => exact absurd hc (hexecute n)
  · rfl

theorem Moved.idle (hswap : s.control ≠ .swapping) (hexecute : ∀ n, s.control ≠ .executing n)
    (hswap' : s'.control ≠ .swapping) (hexecute' : ∀ n, s'.control ≠ .executing n)
    (hl : s'.localPending = s.localPending) (hr : s'.remotePending = s.remotePending)
    (hcalled : s'.called = s.called) (hposts : l.posts = false) : Moved s s' l := by
  refine .other hposts ?_ ?_ hcalled
  · simp only [localWaiting, hl, localBatch_eq_nil hswap hexecute,
      localBatch_eq_nil hswap' hexecute']
  · simp only [remoteWaiting, hr, remoteBatch_eq_nil hexecute, remoteBatch_eq_nil hexecute']

/-- The first swap: the local functors that are pending become the batch. -/
theorem Batched.swapLocal (h : Batched s) (hswap : s.control ≠ .swapping)
    (hexecute : ∀ n, s.control ≠ .executing n) (hclear : s.control ≠ .clearing) :
    Batched s.swapLocal ∧ s.swapLocal.localWaiting = s.localWaiting ∧
      s.swapLocal.remoteWaiting = s.remoteWaiting := by
  obtain ⟨hlocal, hremote⟩ := h.idle hswap hexecute hclear
  refine ⟨⟨fun hne => absurd rfl hne, fun _ => ⟨hlocal, hremote⟩⟩, ?_, ?_⟩
  · simp [localWaiting, localBatch, EventLoop.swapLocal, hlocal]
  · simp only [remoteWaiting, remoteBatch_eq_nil hexecute]
    rfl

/-- The functor at this place of the batch stands in front of one of the queues. -/
theorem moved_callNext {n : Nat} (hc : s.control = .executing n) {functor : α}
    (hget : (s.localExecuting ++ s.remoteExecuting)[n]? = some functor) :
    Moved s { s with called := s.called ++ [functor], control := .executing (n + 1) } .callNext := by
  have hlocal : s.localBatch = s.localExecuting.drop n := by simp [localBatch, hc]
  have hremote : s.remoteBatch = s.remoteExecuting.drop (n - s.localExecuting.length) := by
    simp [remoteBatch, hc]
  by_cases hlt : n < s.localExecuting.length
  · rw [List.getElem?_append_left hlt] at hget
    refine .calledLocal ?_ ?_ rfl ⟨n, hc⟩
    · rw [localWaiting, hlocal, List.drop_eq_getElem?_toList_append, hget]
      rfl
    · have hzero : n - s.localExecuting.length = 0 ∧ n + 1 - s.localExecuting.length = 0 := by omega
      simp [remoteWaiting, remoteBatch, hc, hzero]
  · rw [List.getElem?_append_right (by omega)] at hget
    refine .calledRemote ?_ ?_ rfl ⟨n, hc⟩
    · have hnil : s.localExecuting.drop n = [] ∧ s.localExecuting.drop (n + 1) = [] := by
        constructor <;> apply List.drop_eq_nil_of_le <;> omega
      simp [localWaiting, localBatch, hc, hnil]
    · have hsub : n + 1 - s.localExecuting.length = n - s.localExecuting.length + 1 := by omega
      rw [remoteWaiting, hremote, List.drop_eq_getElem?_toList_append, hget]
      simp [remoteWaiting, remoteBatch, hsub]

/-- What a step does to the queues. -/
theorem Batched.step (h : Batched s) (hstep : s.step l = some s') : Batched s' ∧ Moved s s' l := by
  cases l with
  | queueInLoop functor =>
    simp only [EventLoop.step, Option.ite_none_right_eq_some] at hstep
    obtain ⟨huser, hstep⟩ := hstep
    have hswap : s.control ≠ .swapping := by
      intro hc
      rw [hc] at huser
      cases huser
    cases hstep
    have hmoved : ∀ counter : Nat, Batched { s with
          localPending := s.localPending ++ [functor], wakeupCounter := counter } ∧
        Moved s { s with
          localPending := s.localPending ++ [functor], wakeupCounter := counter }
          (.queueInLoop functor) := fun _ =>
      ⟨⟨h.idle, fun hc => absurd hc hswap⟩,
        .posted (List.append_assoc s.localBatch s.localPending [functor]).symm rfl rfl rfl⟩
    dsimp only [EventLoop.queueInLoop]
    split
    · exact hmoved _
    · exact hmoved s.wakeupCounter
  | remotePush functor =>
    cases hstep
    exact ⟨⟨h.idle, h.swapped⟩,
      .pushed rfl (List.append_assoc s.remoteBatch s.remotePending [functor]).symm rfl rfl⟩
  | remoteWakeUp =>
    simp only [EventLoop.step, Option.ite_none_right_eq_some] at hstep
    obtain ⟨-, hstep⟩ := hstep
    cases hstep
    exact ⟨⟨h.idle, h.swapped⟩, .same rfl rfl rfl rfl rfl rfl rfl⟩
  | wakeUp | raiseSignal | quit =>
    cases hstep
    exact ⟨⟨h.idle, h.swapped⟩, .same rfl rfl rfl rfl rfl rfl rfl⟩
  | loop =>
    simp only [EventLoop.step, Option.ite_none_right_eq_some] at hstep
    obtain ⟨⟨hc, -⟩, hstep⟩ := hstep
    have hidle := h.idle (by simp [hc]) (by simp [hc]) (by simp [hc])
    cases hstep
    refine ⟨⟨fun _ _ _ => hidle, fun h => by cases h⟩, .idle ?_ ?_ ?_ ?_ rfl rfl rfl rfl⟩ <;> simp [hc]
  | test =>
    simp only [EventLoop.step, Option.ite_none_right_eq_some] at hstep
    obtain ⟨hc, hstep⟩ := hstep
    have hidle := h.idle (by simp [hc]) (by simp [hc]) (by simp [hc])
    cases hstep
    split
    · refine ⟨⟨fun _ _ _ => hidle, fun h => by cases h⟩, .idle ?_ ?_ ?_ ?_ rfl rfl rfl rfl⟩ <;> simp [hc]
    · refine ⟨⟨fun _ _ _ => hidle, fun h => by cases h⟩, .idle ?_ ?_ ?_ ?_ rfl rfl rfl rfl⟩ <;> simp [hc]
  | poll wakeup =>
    simp only [EventLoop.step, Option.ite_none_right_eq_some] at hstep
    obtain ⟨⟨hc, -⟩, hstep⟩ := hstep
    have hidle := h.idle (by simp [hc]) (by simp [hc]) (by simp [hc])
    cases hstep
    refine ⟨⟨fun _ _ _ => hidle, fun h => by cases h⟩, .idle ?_ ?_ ?_ ?_ rfl rfl rfl rfl⟩ <;> simp [hc]
  | handleWakeUpRead =>
    simp only [EventLoop.step, Option.ite_none_right_eq_some] at hstep
    obtain ⟨hc, hstep⟩ := hstep
    have hidle := h.idle (by simp [hc]) (by simp [hc]) (by simp [hc])
    cases hstep
    refine ⟨⟨fun _ _ _ => hidle, fun h => by cases h⟩, .idle ?_ ?_ ?_ ?_ rfl rfl rfl rfl⟩ <;> simp [hc]
  | eventsHandled =>
    simp only [EventLoop.step, Option.ite_none_right_eq_some] at hstep
    obtain ⟨hc, hstep⟩ := hstep
    have hidle := h.idle (by simp [hc]) (by simp [hc]) (by simp [hc])
    cases hstep
    split
    · refine ⟨⟨fun _ _ _ => hidle, fun h => by cases h⟩, .idle ?_ ?_ ?_ ?_ rfl rfl rfl rfl⟩ <;> simp [hc]
    · have hsignal : Batched { s with signalPending := false } := ⟨h.idle, h.swapped⟩
      obtain ⟨hbatched, hlocal, hremote⟩ := hsignal.swapLocal (show s.control ≠ _ by simp [hc])
        (show ∀ n, s.control ≠ _ by simp [hc]) (show s.control ≠ _ by simp [hc])
      exact ⟨hbatched, .other rfl hlocal hremote rfl⟩
  | signalReturns =>
    simp only [EventLoop.step, Option.ite_none_right_eq_some] at hstep
    obtain ⟨hc, hstep⟩ := hstep
    cases hstep
    obtain ⟨hbatched, hlocal, hremote⟩ := h.swapLocal (by simp [hc]) (by simp [hc]) (by simp [hc])
    exact ⟨hbatched, .other rfl hlocal hremote rfl⟩
  | swapRemote =>
    simp only [EventLoop.step, Option.ite_none_right_eq_some] at hstep
    obtain ⟨hc, hstep⟩ := hstep
    obtain ⟨-, hremote⟩ := h.swapped hc
    cases hstep
    refine ⟨⟨fun _ hne => absurd rfl (hne 0), fun h => by cases h⟩, .other rfl ?_ ?_ rfl⟩
    · simp [localWaiting, localBatch, hc]
    · simp [remoteWaiting, remoteBatch, hc, hremote]
  | callNext =>
    simp only [EventLoop.step] at hstep
    split at hstep
    · next n hc =>
      obtain ⟨functor, hget, rfl⟩ := Option.map_eq_some_iff.mp hstep
      exact ⟨⟨fun _ hne => absurd rfl (hne (n + 1)), fun h => by cases h⟩, moved_callNext hc hget⟩
    · cases hstep
  | finish =>
    simp only [EventLoop.step, Option.ite_none_right_eq_some] at hstep
    obtain ⟨hc, hstep⟩ := hstep
    cases hstep
    refine ⟨⟨fun _ _ hne => absurd rfl hne, fun h => by cases h⟩, .other rfl ?_ ?_ rfl⟩
    · simp [localWaiting, localBatch, hc]
    · simp [remoteWaiting, remoteBatch, hc]
  | cleared =>
    simp only [EventLoop.step, Option.ite_none_right_eq_some] at hstep
    obtain ⟨hc, hstep⟩ := hstep
    cases hstep
    refine ⟨⟨fun _ _ _ => ⟨rfl, rfl⟩, fun h => by cases h⟩, .idle ?_ ?_ ?_ ?_ rfl rfl rfl rfl⟩ <;>
      simp [hc]

/-- What a step does to the batch. -/
inductive Executes (s s' : EventLoop α) : EventLoopStep α → Prop where
  | outside {l : EventLoopStep α} (hcontrol : ∀ n, s.control ≠ .executing n)
      (hcontrol' : ∀ n, s'.control ≠ .executing n) (hcalled : s'.called = s.called) :
      Executes s s' l
  | begins (hcontrol : s.control = .swapping) (hcontrol' : s'.control = .executing 0)
      (hlocal : s'.localExecuting = s.localExecuting)
      (hremote : s'.remoteExecuting = s.remotePending) (hcalled : s'.called = s.called) :
      Executes s s' .swapRemote
  | within {l : EventLoopStep α} {n : Nat} (hcontrol : s.control = .executing n)
      (hcontrol' : s'.control = .executing n) (hlocal : s'.localExecuting = s.localExecuting)
      (hremote : s'.remoteExecuting = s.remoteExecuting) (hcalled : s'.called = s.called) :
      Executes s s' l
  | calls {n : Nat} {functor : α} (hcontrol : s.control = .executing n)
      (hget : (s.localExecuting ++ s.remoteExecuting)[n]? = some functor)
      (hcontrol' : s'.control = .executing (n + 1)) (hlocal : s'.localExecuting = s.localExecuting)
      (hremote : s'.remoteExecuting = s.remoteExecuting)
      (hcalled : s'.called = s.called ++ [functor]) : Executes s s' .callNext
  | ends (hcontrol : s.control = .executing (s.localExecuting ++ s.remoteExecuting).length)
      (hcontrol' : s'.control = .clearing) (hcalled : s'.called = s.called) : Executes s s' .finish

/-- A step that leaves the batch alone. -/
theorem Executes.same (hcontrol : s'.control = s.control)
    (hlocal : s'.localExecuting = s.localExecuting)
    (hremote : s'.remoteExecuting = s.remoteExecuting) (hcalled : s'.called = s.called) :
    Executes s s' l := by
  by_cases hc : ∃ n, s.control = .executing n
  · obtain ⟨n, hc⟩ := hc
    exact .within hc (hcontrol.trans hc) hlocal hremote hcalled
  · push Not at hc
    exact .outside hc (by simpa only [hcontrol] using hc) hcalled

theorem executes_step (hstep : s.step l = some s') : Executes s s' l := by
  cases l with
  | queueInLoop functor =>
    simp only [EventLoop.step, Option.ite_none_right_eq_some] at hstep
    obtain ⟨-, hstep⟩ := hstep
    cases hstep
    dsimp only [EventLoop.queueInLoop]
    split <;> exact .same rfl rfl rfl rfl
  | remotePush functor | wakeUp | raiseSignal | quit =>
    cases hstep
    exact .same rfl rfl rfl rfl
  | remoteWakeUp =>
    simp only [EventLoop.step, Option.ite_none_right_eq_some] at hstep
    obtain ⟨-, hstep⟩ := hstep
    cases hstep
    exact .same rfl rfl rfl rfl
  | loop | poll wakeup =>
    simp only [EventLoop.step, Option.ite_none_right_eq_some] at hstep
    obtain ⟨⟨hc, -⟩, hstep⟩ := hstep
    cases hstep
    exact .outside (by simp [hc]) (by simp) rfl
  | test | eventsHandled =>
    simp only [EventLoop.step, Option.ite_none_right_eq_some] at hstep
    obtain ⟨hc, hstep⟩ := hstep
    cases hstep
    split <;> exact .outside (by simp [hc]) (by simp [EventLoop.swapLocal]) rfl
  | handleWakeUpRead | signalReturns | cleared =>
    simp only [EventLoop.step, Option.ite_none_right_eq_some] at hstep
    obtain ⟨hc, hstep⟩ := hstep
    cases hstep
    exact .outside (by simp [hc]) (by simp [EventLoop.swapLocal]) rfl
  | swapRemote =>
    simp only [EventLoop.step, Option.ite_none_right_eq_some] at hstep
    obtain ⟨hc, hstep⟩ := hstep
    cases hstep
    exact .begins hc rfl rfl rfl rfl
  | callNext =>
    simp only [EventLoop.step] at hstep
    split at hstep
    · next n hc =>
      obtain ⟨functor, hget, rfl⟩ := Option.map_eq_some_iff.mp hstep
      exact .calls hc hget rfl rfl rfl rfl
    · cases hstep
  | finish =>
    simp only [EventLoop.step, Option.ite_none_right_eq_some] at hstep
    obtain ⟨hc, hstep⟩ := hstep
    cases hstep
    exact .ends hc rfl rfl

/-- These functors have been called, or they are called before the batch ends. -/
def Due (functors : List α) (s : EventLoop α) : Prop :=
  ∀ f ∈ functors, f ∈ s.called ∨ ∃ n i, s.control = .executing n ∧ n ≤ i ∧
    (s.localExecuting ++ s.remoteExecuting)[i]? = some f

/-- The batch under way has only these functors, and no others have been called. -/
structure Confined (functors : List α) (s : EventLoop α) : Prop where
  called : ∀ f ∈ s.called, f ∈ functors
  executing : ∀ n i f, s.control = .executing n → n ≤ i →
    (s.localExecuting ++ s.remoteExecuting)[i]? = some f → f ∈ functors

variable {functors : List α}

theorem Due.step (h : Due functors s) (hstep : s.step l = some s') : Due functors s' := by
  intro f hf
  cases executes_step hstep with
  | outside hc hc' hcalled =>
    obtain hcall | ⟨n, i, hcn, -⟩ := h f hf
    · exact .inl (hcalled ▸ hcall)
    · exact absurd hcn (hc n)
  | begins hc hc' hlocal hremote hcalled =>
    obtain hcall | ⟨n, i, hcn, -⟩ := h f hf
    · exact .inl (hcalled ▸ hcall)
    · cases hc.symm.trans hcn
  | within hc hc' hlocal hremote hcalled =>
    obtain hcall | ⟨m, i, hcm, hle, hget⟩ := h f hf
    · exact .inl (hcalled ▸ hcall)
    · cases hc.symm.trans hcm
      exact .inr ⟨_, i, hc', hle, by rw [hlocal, hremote, hget]⟩
  | @calls n functor hc hcall hc' hlocal hremote hcalled =>
    rw [hcalled]
    obtain hmem | ⟨m, i, hcm, hle, hget⟩ := h f hf
    · exact .inl (List.mem_append_left _ hmem)
    · cases hc.symm.trans hcm
      by_cases hi : i = n
      · subst hi
        obtain rfl : functor = f := by simpa using hcall.symm.trans hget
        exact .inl (by simp)
      · exact .inr ⟨n + 1, i, hc', by omega, by rw [hlocal, hremote, hget]⟩
  | ends hc hc' hcalled =>
    obtain hcall | ⟨m, i, hcm, hle, hget⟩ := h f hf
    · exact .inl (hcalled ▸ hcall)
    · cases hc.symm.trans hcm
      have := (List.getElem?_eq_some_iff.mp hget).1
      omega

theorem Confined.step (h : Confined functors s) (hl : l ≠ .swapRemote)
    (hstep : s.step l = some s') : Confined functors s' := by
  cases executes_step hstep with
  | outside hc hc' hcalled => exact ⟨hcalled ▸ h.called, fun n i f hn => absurd hn (hc' n)⟩
  | begins => exact absurd rfl hl
  | within hc hc' hlocal hremote hcalled =>
    refine ⟨hcalled ▸ h.called, fun m i f hm hle hget => ?_⟩
    cases hc'.symm.trans hm
    rw [hlocal, hremote] at hget
    exact h.executing _ i f hc hle hget
  | calls hc hcall hc' hlocal hremote hcalled =>
    refine ⟨fun f hf => ?_, fun m i f hm hle hget => ?_⟩
    · rw [hcalled, List.mem_append, List.mem_singleton] at hf
      obtain hf | rfl := hf
      · exact h.called f hf
      · exact h.executing _ _ _ hc le_rfl hcall
    · cases hc'.symm.trans hm
      rw [hlocal, hremote] at hget
      exact h.executing _ i f hc (by omega) hget
  | ends hc hc' hcalled =>
    exact ⟨hcalled ▸ h.called, fun n i f hn => by cases hc'.symm.trans hn⟩

/-- What is still to be called in a batch waits in one of the queues. -/
theorem mem_waiting_of_executing {n i : Nat} {f : α} (hc : s.control = .executing n) (hle : n ≤ i)
    (hget : (s.localExecuting ++ s.remoteExecuting)[i]? = some f) :
    f ∈ s.localWaiting ∨ f ∈ s.remoteWaiting := by
  obtain ⟨d, rfl⟩ := Nat.exists_eq_add_of_le hle
  by_cases hlt : n + d < s.localExecuting.length
  · rw [List.getElem?_append_left hlt, ← List.getElem?_drop] at hget
    refine .inl (List.mem_append_left _ ?_)
    simpa [localBatch, hc] using List.mem_of_getElem? hget
  · rw [List.getElem?_append_right (by omega)] at hget
    refine .inr (List.mem_append_left _ ?_)
    have hdrop : (s.remoteExecuting.drop (n - s.localExecuting.length))[n + d -
        s.localExecuting.length - (n - s.localExecuting.length)]? = some f := by
      rw [List.getElem?_drop, ← hget]
      congr 1
      omega
    simpa [remoteBatch, hc] using List.mem_of_getElem? hdrop

/-- A batch takes everything that waits. -/
theorem Batched.due (h : Batched s) (hstep : s.step .swapRemote = some s') {f : α}
    (hf : f ∈ s.localWaiting ∨ f ∈ s.remoteWaiting) : Due [f] s' := by
  simp only [EventLoop.step, Option.ite_none_right_eq_some] at hstep
  obtain ⟨hc, hstep⟩ := hstep
  obtain ⟨hpending, -⟩ := h.swapped hc
  have hmem : f ∈ s.localExecuting ++ s.remotePending := by
    simpa [localWaiting, localBatch, remoteWaiting, remoteBatch, hc, hpending] using hf
  obtain ⟨i, hi⟩ := List.mem_iff_getElem?.mp hmem
  cases hstep
  intro g hg
  obtain rfl : g = f := by simpa using hg
  exact .inr ⟨0, i, rfl, Nat.zero_le i, hi⟩

end EventLoop

/-! ## The history of the posts -/

/-- A post: its number in the history, and the thread that called `QueueInLoop`. -/
structure Posting (τ : Type*) where
  number : Nat
  /-- `none` is the loop thread -/
  thread : Option τ
  deriving DecidableEq

structure Postings (τ : Type*) where
  loop : EventLoop (Posting τ)
  posted : List (Posting τ) := []

inductive PostingsStep (τ : Type*) where
  /-- `QueueInLoop`; on another thread, up to the end of the lock -/
  | post (thread : Option τ)
  /-- a step of the loop that is no post -/
  | proceed (l : EventLoopStep (Posting τ))

namespace Postings

/-- The `push_back` of `QueueInLoop`, under the lock or not. -/
def push (f : Posting τ) : EventLoopStep (Posting τ) :=
  if f.thread.isNone then .queueInLoop f else .remotePush f

def step (s : Postings τ) : PostingsStep τ → Option (Postings τ)
  | .post thread =>
    let f : Posting τ := ⟨s.posted.length, thread⟩
    (s.loop.step (push f)).map fun loop => ⟨loop, s.posted ++ [f]⟩
  | .proceed l =>
    if l.posts then none else (s.loop.step l).map fun loop => { s with loop := loop }

def run (s : Postings τ) (steps : List (PostingsStep τ)) : Option (Postings τ) :=
  Transition.run step s steps

def start (signalCallback : Bool) : Postings τ := { loop := EventLoop.start signalCallback }

/-- The history consists of what has been called and of what waits, in order in each queue. -/
structure Ordered (s : Postings τ) : Prop where
  batched : s.loop.Batched
  numbers : s.posted.map Posting.number = List.range s.posted.length
  locals : s.posted.filter (·.thread.isNone) =
    s.loop.called.filter (·.thread.isNone) ++ s.loop.localWaiting
  remotes : s.posted.filter (·.thread.isSome) =
    s.loop.called.filter (·.thread.isSome) ++ s.loop.remoteWaiting

variable {s s' : Postings τ} {l : PostingsStep τ} {steps later : List (PostingsStep τ)}

theorem Ordered.start (signalCallback : Bool) : Ordered (start signalCallback : Postings τ) :=
  ⟨.start signalCallback, rfl, rfl, rfl⟩

/-- Both kinds of post. -/
theorem Ordered.post (h : Ordered s) {thread : Option τ} {loop : EventLoop (Posting τ)}
    (hstep : s.loop.step (push ⟨s.posted.length, thread⟩) = some loop) :
    Ordered ⟨loop, s.posted ++ [⟨s.posted.length, thread⟩]⟩ := by
  obtain ⟨hbatched, hmoved⟩ := h.batched.step hstep
  have hnumbers : (s.posted ++ [Posting.mk s.posted.length thread]).map Posting.number =
      List.range (s.posted ++ [Posting.mk s.posted.length thread]).length := by
    simp [h.numbers, List.range_succ]
  cases thread with
  | none =>
    obtain ⟨hlocal, hremote, hcalled, -⟩ | _ | _ | _ | ⟨hl, -⟩ := hmoved
    · refine ⟨hbatched, hnumbers, ?_, ?_⟩
      · simp [h.locals, hlocal, hcalled]
      · simp [h.remotes, hremote, hcalled]
    · cases hl
  | some t =>
    obtain _ | ⟨hlocal, hremote, hcalled, -⟩ | _ | _ | ⟨hl, -⟩ := hmoved
    · refine ⟨hbatched, hnumbers, ?_, ?_⟩
      · simp [h.locals, hlocal, hcalled]
      · simp [h.remotes, hremote, hcalled]
    · cases hl

theorem isNone_of_mem_localWaiting (h : Ordered s) {f : Posting τ}
    (hf : f ∈ s.loop.localWaiting) : f.thread.isNone = true := by
  have hmem : f ∈ s.posted.filter (·.thread.isNone) := by
    rw [h.locals]
    exact List.mem_append_right _ hf
  exact (List.mem_filter.mp hmem).2

theorem isSome_of_mem_remoteWaiting (h : Ordered s) {f : Posting τ}
    (hf : f ∈ s.loop.remoteWaiting) : f.thread.isSome = true := by
  have hmem : f ∈ s.posted.filter (·.thread.isSome) := by
    rw [h.remotes]
    exact List.mem_append_right _ hf
  exact (List.mem_filter.mp hmem).2

theorem Ordered.proceed (h : Ordered s) {l : EventLoopStep (Posting τ)} (hl : l.posts = false)
    {loop : EventLoop (Posting τ)} (hstep : s.loop.step l = some loop) :
    Ordered { s with loop := loop } := by
  obtain ⟨hbatched, hmoved⟩ := h.batched.step hstep
  cases hmoved with
  | posted | pushed => cases hl
  | @calledLocal f hlocal hremote hcalled =>
    have hf : f.thread.isNone = true := by
      apply isNone_of_mem_localWaiting h
      rw [hlocal]
      exact List.mem_cons_self
    have hf' : f.thread.isSome = false := by
      rwa [← Option.not_isSome, Bool.not_eq_eq_eq_not] at hf
    refine ⟨hbatched, h.numbers, ?_, ?_⟩
    · simp [h.locals, hlocal, hcalled, hf]
    · simp [h.remotes, hremote, hcalled, hf']
  | @calledRemote f hlocal hremote hcalled =>
    have hf : f.thread.isSome = true := by
      apply isSome_of_mem_remoteWaiting h
      rw [hremote]
      exact List.mem_cons_self
    have hf' : f.thread.isNone = false := by
      rwa [← Option.not_isNone, Bool.not_eq_eq_eq_not] at hf
    refine ⟨hbatched, h.numbers, ?_, ?_⟩
    · simp [h.locals, hlocal, hcalled, hf']
    · simp [h.remotes, hremote, hcalled, hf]
  | other hl hlocal hremote hcalled =>
    refine ⟨hbatched, h.numbers, ?_, ?_⟩
    · simp [h.locals, hlocal, hcalled]
    · simp [h.remotes, hremote, hcalled]

theorem Ordered.step (h : Ordered s) (hstep : s.step l = some s') : Ordered s' := by
  cases l with
  | post thread =>
    obtain ⟨loop, hloop, rfl⟩ := Option.map_eq_some_iff.mp hstep
    exact h.post hloop
  | proceed l =>
    simp only [Postings.step, Option.ite_none_left_eq_some] at hstep
    obtain ⟨hl, hstep⟩ := hstep
    obtain ⟨loop, hloop, rfl⟩ := Option.map_eq_some_iff.mp hstep
    exact h.proceed (by simpa using hl) hloop

theorem Ordered.run (h : Ordered s) (hrun : s.run steps = some s') : Ordered s' :=
  Transition.invariant_run (C := fun _ _ => True) (fun _ _ _ hI _ hstep => hI.step hstep) h
    (Transition.meets_of_forall fun _ _ => trivial) hrun

/-- Nothing is lost, and nothing is called that was not posted. -/
theorem Ordered.mem_posted_iff (h : Ordered s) {f : Posting τ} :
    f ∈ s.posted ↔ f ∈ s.loop.called ∨ f ∈ s.loop.localWaiting ∨ f ∈ s.loop.remoteWaiting := by
  have hlocal := congrArg (f ∈ ·) h.locals
  have hremote := congrArg (f ∈ ·) h.remotes
  simp only [List.mem_filter, List.mem_append, eq_iff_iff] at hlocal hremote
  have hone := isNone_of_mem_localWaiting h (f := f)
  have hother := isSome_of_mem_remoteWaiting h (f := f)
  cases hthread : f.thread with
  | none =>
    have hnot : f ∉ s.loop.remoteWaiting := by simpa [hthread] using hother
    simpa [hthread, hnot] using hlocal
  | some t =>
    have hnot : f ∉ s.loop.localWaiting := by simpa [hthread] using hone
    simpa [hthread, hnot] using hremote

theorem Ordered.nodup_posted (h : Ordered s) : s.posted.Nodup := by
  apply List.Nodup.of_map Posting.number
  rw [h.numbers]
  exact List.nodup_range

/-- No functor is called twice. -/
theorem Ordered.nodup_called (h : Ordered s) : s.loop.called.Nodup := by
  have hlocals : (s.loop.called.filter (·.thread.isNone)).Nodup := by
    have hnodup := h.nodup_posted.filter (·.thread.isNone)
    rw [h.locals] at hnodup
    exact hnodup.of_append_left
  have hremotes : (s.loop.called.filter (·.thread.isSome)).Nodup := by
    have hnodup := h.nodup_posted.filter (·.thread.isSome)
    rw [h.remotes] at hnodup
    exact hnodup.of_append_left
  rw [← (List.filter_append_perm (·.thread.isNone) s.loop.called).nodup_iff]
  simp only [Option.not_isNone]
  refine hlocals.append hremotes fun f hf hf' => ?_
  simp only [List.mem_filter, Option.isNone_iff_eq_none] at hf hf'
  simp [hf.2] at hf'

/-- The functors of one thread are called in the order in which it posted them. -/
theorem Ordered.prefix_thread [DecidableEq τ] (h : Ordered s) (thread : Option τ) :
    s.loop.called.filter (·.thread = thread) <+: s.posted.filter (·.thread = thread) := by
  have hfilter : ∀ (p : Posting τ → Bool) (posted called waiting : List (Posting τ)),
      (∀ f : Posting τ, f.thread = thread → p f = true) →
      posted.filter p = called.filter p ++ waiting →
      called.filter (·.thread = thread) <+: posted.filter (·.thread = thread) := by
    intro p posted called waiting hp heq
    have hthread : ∀ fs : List (Posting τ),
        (fs.filter p).filter (·.thread = thread) = fs.filter (·.thread = thread) := by
      intro fs
      rw [List.filter_filter]
      apply List.filter_congr
      intro f _
      by_cases hf : f.thread = thread
      · simp [hf, hp f hf]
      · simp [hf]
    rw [← hthread posted, ← hthread called, heq, List.filter_append]
    exact List.prefix_append _ _
  cases thread with
  | none => exact hfilter _ _ _ _ (fun f hf => by simp [hf]) h.locals
  | some t => exact hfilter _ _ _ _ (fun f hf => by simp [hf]) h.remotes

/-- The functors are called by the loop thread, in `DoPendingFunctors`, and never by a post. -/
theorem called_step (hstep : s.step l = some s') (hne : s'.loop.called ≠ s.loop.called) :
    l = .proceed .callNext ∧ ∃ n, s.loop.control = .executing n := by
  cases l with
  | post thread =>
    obtain ⟨loop, hloop, rfl⟩ := Option.map_eq_some_iff.mp hstep
    cases thread with
    | none => cases EventLoop.executes_step hloop <;> contradiction
    | some t => cases EventLoop.executes_step hloop <;> contradiction
  | proceed l =>
    simp only [Postings.step, Option.ite_none_left_eq_some] at hstep
    obtain ⟨-, hstep⟩ := hstep
    obtain ⟨loop, hloop, rfl⟩ := Option.map_eq_some_iff.mp hstep
    cases EventLoop.executes_step hloop with
    | calls hc => exact ⟨rfl, _, hc⟩
    | _ => contradiction

/-- What holds of the loop along its own steps holds along those of the postings. -/
theorem loop_step (hstep : s.step l = some s') :
    ∃ l', s.loop.step l' = some s'.loop ∧ (l' = .swapRemote → l = .proceed .swapRemote) := by
  cases l with
  | post thread =>
    obtain ⟨loop, hloop, rfl⟩ := Option.map_eq_some_iff.mp hstep
    refine ⟨_, hloop, fun heq => ?_⟩
    cases thread <;> cases heq
  | proceed l =>
    simp only [Postings.step, Option.ite_none_left_eq_some] at hstep
    obtain ⟨-, hstep⟩ := hstep
    obtain ⟨loop, hloop, rfl⟩ := Option.map_eq_some_iff.mp hstep
    exact ⟨l, hloop, fun heq => by rw [heq]⟩

/-- Before the next batch begins, only functors that have already been posted are called. -/
theorem Ordered.called_in_batch (h : Ordered s)
    (hlater : .proceed .swapRemote ∉ later) (hrun : s.run later = some s') :
    ∀ f ∈ s'.loop.called, f ∈ s.posted := by
  have hstart : s.loop.Confined s.posted := by
    refine ⟨fun f hf => h.mem_posted_iff.mpr (.inl hf), fun m i f hm hle hget => ?_⟩
    exact h.mem_posted_iff.mpr (.inr (EventLoop.mem_waiting_of_executing hm hle hget))
  have hend : s'.loop.Confined s.posted := by
    refine Transition.invariant_run (I := fun s₁ => s₁.loop.Confined s.posted)
      (C := fun _ l => l ≠ .proceed .swapRemote) (fun s₁ l s₂ hI hl hstep => ?_) hstart
      (Transition.meets_of_forall_mem ?_) hrun
    swap
    · rintro _ l hl rfl
      exact hlater hl
    obtain ⟨l', hstep', hswap⟩ := loop_step hstep
    exact hI.step (fun heq => hl (hswap heq)) hstep'
  exact hend.called

/-- When a batch is over, everything has been called that was posted before its buffers were
swapped. -/
theorem Ordered.called_by_batch {s₁ : Postings τ} (h : Ordered s)
    (hswap : s.step (.proceed .swapRemote) = some s₁) (hrun : s₁.run later = some s')
    (hc : ∀ n, s'.loop.control ≠ .executing n) : ∀ f ∈ s.posted, f ∈ s'.loop.called := by
  intro f hf
  obtain ⟨loop, hloop, rfl⟩ := Option.map_eq_some_iff.mp (show
    (s.loop.step .swapRemote).map (fun loop => { s with loop := loop }) = some s₁ from hswap)
  have hstart : loop.Due [f] := by
    obtain hf | hf := h.mem_posted_iff.mp hf
    · intro g hg
      obtain rfl : g = f := by simpa using hg
      cases EventLoop.executes_step hloop with
      | begins _ _ _ _ hcalled => exact .inl (hcalled ▸ hf)
      | outside _ _ hcalled | within _ _ _ _ hcalled => exact .inl (hcalled ▸ hf)
    · exact h.batched.due hloop hf
  have hend : s'.loop.Due [f] := by
    refine Transition.invariant_run (I := fun s₂ => s₂.loop.Due [f]) (C := fun _ _ => True)
      (fun s₂ l s₃ hI _ hstep => ?_) hstart (Transition.meets_of_forall fun _ _ => trivial) hrun
    obtain ⟨l', hstep', -⟩ := loop_step hstep
    exact hI.step hstep'
  obtain hcalled | ⟨n, i, hn, -⟩ := hend f List.mem_cons_self
  · exact hcalled
  · exact absurd hn (hc n)

/-- Posted functors are called at most once, by the loop thread in `DoPendingFunctors`; those of one
thread in the order of its posts; none that is posted while a batch executes in that batch; and
all that were posted before the buffers were swapped by the end of the batch. -/
theorem posted_functors_called [DecidableEq τ] (signalCallback : Bool)
    (steps : List (PostingsStep τ)) (s : Postings τ)
    (hrun : (start signalCallback).run steps = some s) :
    s.loop.called.Nodup ∧ (∀ f ∈ s.loop.called, f ∈ s.posted) ∧
      (∀ l s', s.step l = some s' → s'.loop.called ≠ s.loop.called →
        l = .proceed .callNext ∧ ∃ n, s.loop.control = .executing n) ∧
      (∀ thread, s.loop.called.filter (·.thread = thread) <+:
        s.posted.filter (·.thread = thread)) ∧
      (∀ n later s', s.loop.control = .executing n → .proceed .swapRemote ∉ later →
        s.run later = some s' → ∀ f ∈ s'.posted, f ∉ s.posted → f ∉ s'.loop.called) ∧
      ∀ s₁ later s', s.step (.proceed .swapRemote) = some s₁ → s₁.run later = some s' →
        (∀ n, s'.loop.control ≠ .executing n) → ∀ f ∈ s.posted, f ∈ s'.loop.called := by
  have h : Ordered s := (Ordered.start signalCallback).run hrun
  refine ⟨h.nodup_called, fun f hf => h.mem_posted_iff.mpr (.inl hf),
    fun l s' hstep hne => called_step hstep hne, h.prefix_thread, ?_, ?_⟩
  · intro n later s' _ hlater hrun f _ hf hcalled
    exact hf (h.called_in_batch hlater hrun f hcalled)
  · intro s₁ later s' hswap hrun hc
    exact h.called_by_batch hswap hrun hc

/-- Two threads and a functor that posts another one. -/
def crossing : List (PostingsStep Nat) :=
  [.proceed .loop, .proceed .test, .post (some 1), .post (some 2), .post (some 1),
    .proceed .remoteWakeUp, .proceed (.poll true), .post none, .proceed .handleWakeUpRead,
    .proceed .eventsHandled, .proceed .swapRemote, .proceed .callNext, .post none,
    .proceed .callNext]

theorem posted_functors_called_crossing : ∃ s : Postings Nat, (start false).run crossing = some s ∧
    s.loop.called.map (·.number) = [3, 0] ∧ s.loop.called.Nodup :=
  ⟨_, rfl, rfl, (posted_functors_called false crossing _ rfl).1⟩

end Postings

end NebulaRpc.Net
