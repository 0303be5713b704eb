import NebulaRpc.Library.Lists
import NebulaRpc.Net.Postings

/-!
# Awaiters

`RpcAwaiterStorage`, `SleepAwaiter` and `YieldAwaiter` on one event loop. Each stores the handle of
its coroutine in an atomic that it shares with a functor; whoever exchanges the handle for null owns
it, the functor that resumes the coroutine or the destructor of the awaiter.

The loop thread is its stack and the place of the loop below it: `Loop` goes on only when everything
that it has called has returned. Other threads post functors and destroy awaiters at any time, also
between the exchange of a handle and the resumption.

An `RpcChannel` completes a call in its handlers and in functors, possibly while `await_suspend` is
on the stack; any number of completions of one call is allowed here.
-/

namespace NebulaRpc.Rpc

open Net

/-- `RpcAwaiterStorage`, `SleepAwaiter` and `YieldAwaiter`. -/
inductive AwaiterKind where
  | rpc
  | sleep
  | yield
  deriving DecidableEq

/-- An awaiter, with what it shares with the functor. -/
structure Awaiter where
  kind : AwaiterKind
  /-- the handle is not null -/
  handle : Bool := true
  /-- the awaiter has not been destroyed -/
  alive : Bool := true
  /-- the timer of a `SleepAwaiter` has not fired; a `YieldAwaiter` has not posted -/
  armed : Bool := true
  resumed : Nat := 0
  /-- it was destroyed before it was resumed -/
  abandoned : Bool := false

/-- `~RpcAwaiterStorage`, `~SleepAwaiter` and `~YieldAwaiter`; a timer is cancelled on the loop
thread only. -/
def Awaiter.destroyed (a : Awaiter) (inLoopThread : Bool) : Awaiter :=
  { a with
    alive := false
    handle := false
    armed := a.armed && !(a.kind = .sleep && a.handle && inLoopThread)
    abandoned := a.resumed = 0 }

/-- What is posted to the loop. -/
inductive LoopFunctor where
  | resume (n : Nat)
  | other
  deriving DecidableEq

/-- What is on the stack of the loop thread, above `Loop`. -/
inductive LoopFrame where
  /-- a functor, or a handler of `RpcChannel`, of `TimerQueue` or of a connection -/
  | handler
  | awaitSuspend (n : Nat)
  /-- the functor that resumes, before it exchanges the handle -/
  | resuming (n : Nat)
  /-- the functor that resumes, with the handle -/
  | claimed (n : Nat)
  /-- a coroutine that has been resumed -/
  | coroutine (n : Nat)
  deriving DecidableEq

structure Coroutines where
  loop : EventLoop LoopFunctor := {}
  stack : List LoopFrame := []
  awaiters : List Awaiter := []
  /-- the awaiters whose resumption has been posted -/
  completed : List Nat := []

inductive CoroutinesStep where
  /-- a step of the loop, or of another thread that posts to it -/
  | loop (l : EventLoopStep LoopFunctor)
  /-- a handler is called -/
  | enter
  /-- what is on top of the stack returns -/
  | leave
  | awaitSuspend (kind : AwaiterKind)
  /-- the end of `YieldAwaiter::await_suspend` -/
  | postYield
  /-- `QueueCoroutineResume` -/
  | complete (n : Nat)
  /-- the timer of a `SleepAwaiter` -/
  | fire (n : Nat) (locked : Bool)
  /-- the functor exchanges the handle -/
  | claim
  | resume
  /-- the destructor of an awaiter -/
  | destroy (n : Nat) (inLoopThread : Bool)

/-- The step is taken by `Loop` itself. -/
def ofLoopThread : EventLoopStep LoopFunctor → Bool
  | .queueInLoop _ | .remotePush _ | .remoteWakeUp | .wakeUp | .raiseSignal | .quit => false
  | _ => true

namespace Coroutines

/-- User code, or a handler, runs on the loop thread. -/
def runsCode (s : Coroutines) : Bool :=
  match s.stack with
  | [] =>
    match s.loop.control with
    | .outside | .handling _ | .signalled | .clearing => true
    | _ => false
  | .resuming _ :: _ | .claimed _ :: _ => false
  | _ :: _ => true

/-- A resumption is posted to the loop. -/
def post (s : Coroutines) (n : Nat) : Option Coroutines :=
  (s.loop.step (.queueInLoop (.resume n))).map fun loop =>
    { s with loop := loop, completed := s.completed ++ [n] }

/-- The frame of the functor that has just been called. -/
def calledFrame (loop : EventLoop LoopFunctor) : LoopFrame :=
  match loop.called.getLast? with
  | some (.resume n) => .resuming n
  | _ => .handler

def step (s : Coroutines) : CoroutinesStep → Option Coroutines
  | .loop l =>
    match l with
    | .queueInLoop (.resume _) | .remotePush (.resume _) => none
    | .queueInLoop .other =>
      if s.runsCode then (s.loop.step l).map fun loop => { s with loop := loop } else none
    | .callNext =>
      if s.stack = [] then
        (s.loop.step l).map fun loop => { s with loop := loop, stack := [calledFrame loop] }
      else none
    | l =>
      if ofLoopThread l → s.stack = [] then
        (s.loop.step l).map fun loop => { s with loop := loop }
      else none
  | .enter => if s.runsCode then some { s with stack := .handler :: s.stack } else none
  | .leave =>
    match s.stack with
    | .handler :: rest | .coroutine _ :: rest => some { s with stack := rest }
    | .awaitSuspend n :: rest =>
      if s.awaiters[n]?.any fun a => a.kind = .yield && a.armed then none
      else some { s with stack := rest }
    | _ => none
  | .awaitSuspend kind =>
    if s.runsCode then
      some { s with
        awaiters := s.awaiters ++ [{ kind := kind }]
        stack := .awaitSuspend s.awaiters.length :: s.stack }
    else none
  | .postYield =>
    match s.stack with
    | .awaitSuspend n :: _ =>
      s.awaiters[n]?.bind fun a =>
        if a.kind = .yield ∧ a.armed then
          { s with awaiters := s.awaiters.set n { a with armed := false } }.post n
        else none
    | _ => none
  | .complete n =>
    s.awaiters[n]?.bind fun a => if s.runsCode ∧ a.kind = .rpc then s.post n else none
  | .fire n locked =>
    -- another thread may destroy the awaiter when the weak pointer is already locked
    s.awaiters[n]?.bind fun a =>
      if s.stack.head? = some .handler ∧ a.kind = .sleep ∧ a.armed ∧ (a.alive → locked) then
        let s := { s with awaiters := s.awaiters.set n { a with armed := false } }
        if locked then s.post n else some s
      else none
  | .claim =>
    match s.stack with
    | .resuming n :: rest =>
      s.awaiters[n]?.map fun a =>
        if a.handle then
          { s with
            stack := .claimed n :: rest, awaiters := s.awaiters.set n { a with handle := false } }
        else { s with stack := rest }
    | _ => none
  | .resume =>
    match s.stack with
    | .claimed n :: rest =>
      s.awaiters[n]?.map fun a =>
        { s with
          stack := .coroutine n :: rest
          awaiters := s.awaiters.set n { a with resumed := a.resumed + 1 } }
    | _ => none
  | .destroy n inLoopThread =>
    s.awaiters[n]?.bind fun a =>
      if a.alive ∧ (inLoopThread → s.runsCode) then
        some { s with awaiters := s.awaiters.set n (a.destroyed inLoopThread) }
      else none

def run (s : Coroutines) (steps : List CoroutinesStep) : Option Coroutines :=
  Transition.run step s steps

def start (signalCallback : Bool) : Coroutines := { loop := EventLoop.start signalCallback }

/-! ## How coroutines are to be resumed -/

structure Resumable (s : Coroutines) : Prop where
  once : ∀ (n : Nat) a, s.awaiters[n]? = some a → a.resumed ≤ 1
  /-- what is about to be resumed has not been destroyed, and `DoPendingFunctors` has called the
  functor with nothing else on the stack -/
  next : ∀ n rest, s.stack = .claimed n :: rest →
    rest = [] ∧ (∃ k, s.loop.control = .executing k) ∧
      ∃ a, s.awaiters[n]? = some a ∧ a.alive = true ∧ a.resumed = 0
  /-- with the end of the next batch, what is completed has been resumed, or was destroyed before -/
  batch : ∀ n ∈ s.completed, ∀ s₁ later s', s.step (.loop .swapRemote) = some s₁ →
    s₁.run later = some s' → (∀ k, s'.loop.control ≠ .executing k) →
      ∃ a, s'.awaiters[n]? = some a ∧ (a.resumed = 1 ∨ a.abandoned = true)

/-- No other thread destroys an awaiter whose handle the functor has taken to resume it. -/
def Unclaimed (s : Coroutines) : CoroutinesStep → Prop
  | .destroy n false => .claimed n ∉ s.stack
  | _ => True

instance (s : Coroutines) (l : CoroutinesStep) : Decidable (Unclaimed s l) := by
  unfold Unclaimed
  split <;> infer_instance

/-! ## Who has the handle -/

/-- The handle of an awaiter is with the awaiter, with the functor, or gone. -/
structure Held (s : Coroutines) (n : Nat) (a : Awaiter) : Prop where
  once : a.resumed ≤ 1
  waiting : a.handle = true → .claimed n ∉ s.stack ∧ a.resumed = 0 ∧
    (.resume n ∈ s.loop.called → .resuming n ∈ s.stack)
  taken : a.handle = false → .claimed n ∈ s.stack ∨ a.resumed = 1 ∨ a.abandoned = true
  claimed : .claimed n ∈ s.stack → a.resumed = 0

/-- The functor has been posted: it has been called, or it waits. -/
def OnLoop (loop : EventLoop LoopFunctor) (functor : LoopFunctor) : Prop :=
  functor ∈ loop.called ∨ functor ∈ loop.localWaiting ∨ functor ∈ loop.remoteWaiting

structure Claims (s : Coroutines) : Prop where
  batched : s.loop.Batched
  /-- the functor that resumes is alone on the stack -/
  alone : ∀ n, .resuming n ∈ s.stack ∨ .claimed n ∈ s.stack →
    s.stack.length = 1 ∧ ∃ k, s.loop.control = .executing k
  known : ∀ n, .claimed n ∈ s.stack → n < s.awaiters.length
  held : ∀ n a, s.awaiters[n]? = some a → Held s n a
  completed : ∀ n ∈ s.completed, n < s.awaiters.length
  posted : ∀ n, n ∈ s.completed ↔ OnLoop s.loop (.resume n)

variable {s s' : Coroutines} {l : CoroutinesStep}

theorem Claims.start (signalCallback : Bool) : Claims (start signalCallback) :=
  ⟨.start signalCallback, by simp [Coroutines.start], by simp [Coroutines.start],
    by simp [Coroutines.start], by simp [Coroutines.start],
    by simp [Coroutines.start, OnLoop, EventLoop.start, EventLoop.localWaiting,
      EventLoop.remoteWaiting, EventLoop.localBatch, EventLoop.remoteBatch]⟩

/-- Other threads and posts leave the loop thread where it is. -/
theorem control_eq {l : EventLoopStep LoopFunctor} {loop loop' : EventLoop LoopFunctor}
    (hl : ofLoopThread l = false) (hstep : loop.step l = some loop') :
    loop'.control = loop.control := by
  cases l with
  | queueInLoop functor =>
    simp only [EventLoop.step, Option.ite_none_right_eq_some] at hstep
    obtain ⟨-, hstep⟩ := hstep
    cases hstep
    dsimp only [EventLoop.queueInLoop]
    split <;> rfl
  | remotePush functor | wakeUp | raiseSignal | quit =>
    cases hstep
    rfl
  | remoteWakeUp =>
    simp only [EventLoop.step, Option.ite_none_right_eq_some] at hstep
    obtain ⟨-, hstep⟩ := hstep
    cases hstep
    rfl
  | loop | test | poll | handleWakeUpRead | eventsHandled | signalReturns | swapRemote | callNext
  | finish | cleared => cases hl

/-- Only what is posted comes to the loop, and it stays. -/
theorem onLoop_step {l : EventLoopStep LoopFunctor} {loop loop' : EventLoop LoopFunctor}
    (hmoved : loop.Moved loop' l) (functor : LoopFunctor) : OnLoop loop' functor ↔
      OnLoop loop functor ∨ l = .queueInLoop functor ∨ l = .remotePush functor := by
  unfold OnLoop
  cases hmoved with
  | posted hlocal hremote hcalled => grind
  | pushed hlocal hremote hcalled => grind
  | calledLocal hlocal hremote hcalled => grind
  | calledRemote hlocal hremote hcalled => grind
  | @other l hl hlocal hremote hcalled =>
    have hposts : l ≠ .queueInLoop functor ∧ l ≠ .remotePush functor := by
      constructor <;> rintro rfl <;> cases hl
    simp [hlocal, hremote, hcalled, hposts]

/-- The loop goes on below the stack. -/
theorem Claims.proceed (h : Claims s) {l : EventLoopStep LoopFunctor} {loop : EventLoop LoopFunctor}
    (hl : l ≠ .callNext) (hresume : ∀ n, l ≠ .queueInLoop (.resume n) ∧ l ≠ .remotePush (.resume n))
    (hcontrol : ofLoopThread l = false ∨ s.stack = [])
    (hstep : s.loop.step l = some loop) : Claims { s with loop := loop } := by
  obtain ⟨hbatched, hmoved⟩ := h.batched.step hstep
  have hcalled : loop.called = s.loop.called := by
    cases hmoved with
    | posted _ _ hcalled | pushed _ _ hcalled | other _ _ _ hcalled => exact hcalled
    | calledLocal | calledRemote => exact absurd rfl hl
  refine ⟨hbatched, fun n hn => ?_, h.known, fun n a hget => ?_, h.completed, fun n => ?_⟩
  · obtain ⟨hlength, k, hk⟩ := h.alone n hn
    obtain hl | hnil := hcontrol
    · exact ⟨hlength, k, (control_eq hl hstep).trans hk⟩
    · simp [hnil] at hlength
  · obtain ⟨honce, hwaiting, htaken, hclaimed⟩ := h.held n a hget
    refine ⟨honce, ?_, htaken, hclaimed⟩
    rw [hcalled]
    exact hwaiting
  · rw [h.posted n, onLoop_step hmoved]
    simp [hresume n]

/-- `DoPendingFunctors` calls the next functor. -/
theorem Claims.callNext (h : Claims s) (hstack : s.stack = []) {loop : EventLoop LoopFunctor}
    (hstep : s.loop.step .callNext = some loop) :
    Claims { s with loop := loop, stack := [calledFrame loop] } := by
  obtain ⟨hbatched, hmoved⟩ := h.batched.step hstep
  obtain ⟨functor, k, hcalled, hk⟩ : ∃ functor k, loop.called = s.loop.called ++ [functor] ∧
      loop.control = .executing k := by
    simp only [EventLoop.step] at hstep
    split at hstep
    · next n hc =>
      obtain ⟨functor, -, rfl⟩ := Option.map_eq_some_iff.mp hstep
      exact ⟨functor, n + 1, rfl, rfl⟩
    · cases hstep
  have hframe : ∀ n, calledFrame loop = .resuming n ↔ functor = .resume n := by
    intro n
    simp only [calledFrame, hcalled, List.getLast?_append, List.getLast?_singleton, Option.some_or]
    cases functor <;> simp
  have hnotClaimed : ∀ n, calledFrame loop ≠ .claimed n := by
    intro n
    unfold calledFrame
    split <;> simp
  refine ⟨hbatched, fun n _ => ⟨rfl, k, hk⟩, fun n hn => ?_, fun n a hget => ?_, h.completed,
    fun n => ?_⟩
  · simp only [List.mem_singleton] at hn
    exact absurd hn.symm (hnotClaimed n)
  · obtain ⟨honce, hwaiting, htaken, hclaimed⟩ := h.held n a hget
    have hclaimed' : .claimed n ∉ [calledFrame loop] := by
      rw [List.mem_singleton]
      exact fun heq => hnotClaimed n heq.symm
    refine ⟨honce, fun hhandle => ?_, fun hhandle => ?_, fun hmem => absurd hmem hclaimed'⟩
    · obtain ⟨-, hzero, hresuming⟩ := hwaiting hhandle
      refine ⟨hclaimed', hzero, fun hmem => ?_⟩
      dsimp only at hmem ⊢
      rw [hcalled, List.mem_append, List.mem_singleton] at hmem
      obtain hmem | heq := hmem
      · simp [hstack] at hresuming
        exact absurd hmem hresuming
      · rw [List.mem_singleton, eq_comm, hframe]
        exact heq.symm
    · have hnone : .claimed n ∉ s.stack := by simp [hstack]
      exact .inr ((htaken hhandle).resolve_left hnone)
  · rw [h.posted n, onLoop_step hmoved]
    simp

/-- Nothing is being resumed. -/
def Quiet (s : Coroutines) : Prop := ∀ n, .resuming n ∉ s.stack ∧ .claimed n ∉ s.stack

theorem Claims.quiet_of_head (h : Claims s) {frame : LoopFrame} {rest : List LoopFrame}
    (hstack : s.stack = frame :: rest) (hresuming : ∀ n, frame ≠ .resuming n)
    (hclaimed : ∀ n, frame ≠ .claimed n) : Quiet s := by
  have hnot : ∀ n, ¬(.resuming n ∈ s.stack ∨ .claimed n ∈ s.stack) := by
    intro n hn
    obtain ⟨hlength, -⟩ := h.alone n hn
    obtain rfl : rest = [] := by simpa [hstack] using hlength
    rw [hstack, List.mem_singleton, List.mem_singleton] at hn
    exact hn.elim (fun heq => hresuming n heq.symm) fun heq => hclaimed n heq.symm
  exact fun n => not_or.mp (hnot n)

theorem Claims.quiet_of_runsCode (h : Claims s) (hruns : s.runsCode = true) : Quiet s := by
  unfold runsCode at hruns
  split at hruns
  · next hstack => simp [Quiet, hstack]
  · cases hruns
  · cases hruns
  · next frame rest hresuming hclaimed hstack =>
    exact h.quiet_of_head hstack (fun n heq => hresuming n (by rw [heq]))
      fun n heq => hclaimed n (by rw [heq])

/-- Handlers are called and return while nothing is being resumed. -/
theorem Claims.restack (h : Claims s) (hquiet : Quiet s) {stack : List LoopFrame}
    (hquiet' : Quiet { s with stack := stack }) : Claims { s with stack := stack } := by
  refine ⟨h.batched, fun n hn => ?_, fun n hn => absurd hn (hquiet' n).2, fun n a hget => ?_,
    h.completed, h.posted⟩
  · exact (hn.elim (hquiet' n).1 (hquiet' n).2).elim
  · obtain ⟨honce, hwaiting, htaken, -⟩ := h.held n a hget
    refine ⟨honce, fun hhandle => ?_, fun hhandle => ?_, fun hn => absurd hn (hquiet' n).2⟩
    · obtain ⟨-, hzero, hcalled⟩ := hwaiting hhandle
      exact ⟨(hquiet' n).2, hzero, fun hmem => absurd (hcalled hmem) (hquiet n).1⟩
    · exact .inr ((htaken hhandle).resolve_left (hquiet n).2)

/-- `await_suspend` stores a handle. -/
theorem Claims.suspend (h : Claims s) (hquiet : Quiet s) (kind : AwaiterKind) :
    Claims { s with awaiters := s.awaiters ++ [{ kind := kind }] } := by
  refine ⟨h.batched, h.alone, fun n hn => absurd hn (hquiet n).2, fun n a hget => ?_,
    fun n hn => ?_, h.posted⟩
  · obtain hget | ⟨rfl, rfl⟩ := Lists.getElem?_concat_eq_some_iff.mp hget
    · obtain ⟨honce, hwaiting, htaken, hclaimed⟩ := h.held n a hget
      exact ⟨honce, hwaiting, htaken, hclaimed⟩
    · refine ⟨Nat.zero_le 1, fun _ => ⟨(hquiet _).2, rfl, fun hmem => ?_⟩, fun hfalse => ?_,
        fun hn => absurd hn (hquiet _).2⟩
      · have hlt := h.completed _ ((h.posted _).mpr (.inl hmem))
        exact absurd hlt (Nat.lt_irrefl _)
      · cases hfalse
  · have hlt := h.completed n hn
    simp only [List.length_append]
    omega

/-- An awaiter changes. -/
theorem Claims.modify (h : Claims s) {n : Nat} {a a' : Awaiter} (hget : s.awaiters[n]? = some a)
    (hheld : Held s n a') : Claims { s with awaiters := s.awaiters.set n a' } := by
  refine ⟨h.batched, h.alone, ?_, fun m b hb => ?_, ?_, h.posted⟩
  · simpa using h.known
  · have hheld' : Held s m b := by
      obtain ⟨rfl, rfl⟩ | ⟨-, hb⟩ := Lists.getElem?_set_eq_some hget hb
      · exact hheld
      · exact h.held m b hb
    exact ⟨hheld'.once, hheld'.waiting, hheld'.taken, hheld'.claimed⟩
  · simpa using h.completed

/-- A resumption is posted. -/
theorem Claims.post (h : Claims s) {n : Nat} (hlt : n < s.awaiters.length)
    (hpost : s.post n = some s') : Claims s' := by
  obtain ⟨loop, hstep, rfl⟩ := Option.map_eq_some_iff.mp hpost
  obtain ⟨hbatched, hmoved⟩ := h.batched.step hstep
  have hcalled : loop.called = s.loop.called := by
    cases hmoved with
    | posted _ _ hcalled | other _ _ _ hcalled => exact hcalled
  refine ⟨hbatched, fun m hm => ?_, h.known, fun m a hget => ?_, fun m hm => ?_, fun m => ?_⟩
  · obtain ⟨hlength, k, hk⟩ := h.alone m hm
    exact ⟨hlength, k, (control_eq rfl hstep).trans hk⟩
  · obtain ⟨honce, hwaiting, htaken, hclaimed⟩ := h.held m a hget
    refine ⟨honce, ?_, htaken, hclaimed⟩
    rw [hcalled]
    exact hwaiting
  · rw [List.mem_append, List.mem_singleton] at hm
    obtain hm | rfl := hm
    · exact h.completed m hm
    · exact hlt
  · rw [onLoop_step hmoved, List.mem_append, List.mem_singleton, h.posted m]
    simp [eq_comm]

/-- The functor exchanges the handle. -/
theorem Claims.claim (h : Claims s) {n : Nat} {a : Awaiter} (hget : s.awaiters[n]? = some a)
    (hstack : s.stack = [.resuming n]) (hhandle : a.handle = true) :
    Claims { s with
      stack := [.claimed n], awaiters := s.awaiters.set n { a with handle := false } } := by
  obtain ⟨-, hexecuting⟩ := h.alone n (.inl (by simp [hstack]))
  have hlt := (List.getElem?_eq_some_iff.mp hget).1
  refine ⟨h.batched, fun m hm => ⟨rfl, hexecuting⟩, fun m hm => ?_, fun m b hb => ?_, ?_, h.posted⟩
  · obtain rfl : m = n := by simpa using hm
    simpa using hlt
  · obtain ⟨rfl, rfl⟩ | ⟨hne, hb⟩ := Lists.getElem?_set_eq_some hget hb
    · obtain ⟨-, hzero, -⟩ := (h.held m a hget).waiting hhandle
      refine ⟨(h.held m a hget).once, fun htrue => ?_, fun _ => .inl (by simp), fun _ => hzero⟩
      cases htrue
    · -- another one was not on the stack and is not
      obtain ⟨honce, hwaiting, htaken, hclaimed⟩ := h.held m b hb
      have hresuming : .resuming m ∉ s.stack ∧ .claimed m ∉ s.stack := by simp [hstack, hne]
      refine ⟨honce, fun htrue => ?_, fun hfalse => ?_, fun hm => ?_⟩
      · obtain ⟨-, hzero, hcalled⟩ := hwaiting htrue
        refine ⟨by simp [hne], hzero, fun hmem => absurd (hcalled hmem) hresuming.1⟩
      · exact .inr ((htaken hfalse).resolve_left hresuming.2)
      · exact absurd (by simpa using hm) hne
  · simpa using h.completed

/-- The functor finds that the awaiter has been destroyed, or that the coroutine has been resumed. -/
theorem Claims.skip (h : Claims s) {n : Nat} {a : Awaiter} (hget : s.awaiters[n]? = some a)
    (hstack : s.stack = [.resuming n]) (hhandle : a.handle = false) :
    Claims { s with stack := [] } := by
  refine ⟨h.batched, by simp, by simp, fun m b hb => ?_, h.completed, h.posted⟩
  obtain ⟨honce, hwaiting, htaken, -⟩ := h.held m b hb
  refine ⟨honce, fun htrue => ?_, fun hfalse => ?_, by simp⟩
  · obtain ⟨-, hzero, hcalled⟩ := hwaiting htrue
    refine ⟨by simp, hzero, fun hmem => ?_⟩
    have heq : m = n := by simpa [hstack] using hcalled hmem
    subst heq
    rw [hget, Option.some.injEq] at hb
    subst hb
    rw [hhandle] at htrue
    cases htrue
  · have hnone : .claimed m ∉ s.stack := by simp [hstack]
    exact .inr ((htaken hfalse).resolve_left hnone)

/-- The functor resumes the coroutine. -/
theorem Claims.resume (h : Claims s) {n : Nat} {a : Awaiter} (hget : s.awaiters[n]? = some a)
    (hstack : s.stack = [.claimed n]) :
    Claims { s with
      stack := [.coroutine n]
      awaiters := s.awaiters.set n { a with resumed := a.resumed + 1 } } := by
  refine ⟨h.batched, by simp, by simp, fun m b hb => ?_, by simpa using h.completed, h.posted⟩
  obtain ⟨rfl, rfl⟩ | ⟨hne, hb⟩ := Lists.getElem?_set_eq_some hget hb
  · obtain ⟨-, hwaiting, -, hclaimed⟩ := h.held m a hget
    have hmem : .claimed m ∈ s.stack := by simp [hstack]
    have hzero := hclaimed hmem
    refine ⟨by simp [hzero], fun htrue => ?_, fun _ => .inr (.inl (by simp [hzero])), by simp⟩
    exact absurd hmem (hwaiting htrue).1
  · obtain ⟨honce, hwaiting, htaken, -⟩ := h.held m b hb
    have hnone : .resuming m ∉ s.stack ∧ .claimed m ∉ s.stack := by simp [hstack, hne]
    refine ⟨honce, fun htrue => ?_, fun hfalse => ?_, by simp⟩
    · obtain ⟨-, hzero, hcalled⟩ := hwaiting htrue
      exact ⟨by simp, hzero, fun hmem => absurd (hcalled hmem) hnone.1⟩
    · exact .inr ((htaken hfalse).resolve_left hnone.2)

/-- The awaiter is destroyed. -/
theorem Held.destroyed {n : Nat} {a : Awaiter} (h : Held s n a) (inLoopThread : Bool) :
    Held s n (a.destroyed inLoopThread) := by
  refine ⟨h.once, fun htrue => ?_, fun _ => ?_, h.claimed⟩
  · cases htrue
  · obtain hzero | hone := Nat.le_one_iff_eq_zero_or_eq_one.mp h.once
    · exact .inr (.inr (by simp [Awaiter.destroyed, hzero]))
    · exact .inr (.inl hone)

theorem Held.disarmed {n : Nat} {a : Awaiter} (h : Held s n a) :
    Held s n { a with armed := false } :=
  ⟨h.once, h.waiting, h.taken, h.claimed⟩

/-! ## The steps -/

theorem loop_spec {l : EventLoopStep LoopFunctor} (hl : l ≠ .callNext)
    (hstep : s.step (.loop l) = some s') :
    (∀ n, l ≠ .queueInLoop (.resume n) ∧ l ≠ .remotePush (.resume n)) ∧
      (ofLoopThread l = false ∨ s.stack = []) ∧
        ∃ loop, s.loop.step l = some loop ∧ s' = { s with loop := loop } := by
  simp only [Coroutines.step] at hstep
  split at hstep
  · cases hstep
  · cases hstep
  · rw [Option.ite_none_right_eq_some] at hstep
    obtain ⟨loop, hloop, heq⟩ := Option.map_eq_some_iff.mp hstep.2
    exact ⟨fun n => by simp, .inl rfl, loop, hloop, heq.symm⟩
  · exact absurd rfl hl
  · next hqueue hpush _ _ =>
    rw [Option.ite_none_right_eq_some] at hstep
    obtain ⟨hstack, hstep⟩ := hstep
    obtain ⟨loop, hloop, heq⟩ := Option.map_eq_some_iff.mp hstep
    refine ⟨fun n => ⟨hqueue n, hpush n⟩, ?_, loop, hloop, heq.symm⟩
    cases hthread : ofLoopThread l with
    | false => exact .inl rfl
    | true => exact .inr (hstack hthread)

theorem callNext_spec (hstep : s.step (.loop .callNext) = some s') : s.stack = [] ∧
    ∃ loop, s.loop.step .callNext = some loop ∧
      s' = { s with loop := loop, stack := [calledFrame loop] } := by
  simp only [Coroutines.step, Option.ite_none_right_eq_some] at hstep
  obtain ⟨loop, hloop, heq⟩ := Option.map_eq_some_iff.mp hstep.2
  exact ⟨hstep.1, loop, hloop, heq.symm⟩

theorem Claims.step (h : Claims s) (hstep : s.step l = some s') : Claims s' := by
  cases l with
  | loop l =>
    obtain rfl | hl := eq_or_ne l .callNext
    · obtain ⟨hstack, loop, hloop, rfl⟩ := callNext_spec hstep
      exact h.callNext hstack hloop
    · obtain ⟨hresume, hcontrol, loop, hloop, rfl⟩ := loop_spec hl hstep
      exact h.proceed hl hresume hcontrol hloop
  | enter =>
    simp only [Coroutines.step, Option.ite_none_right_eq_some] at hstep
    obtain ⟨hruns, hstep⟩ := hstep
    cases hstep
    have hquiet := h.quiet_of_runsCode hruns
    refine h.restack hquiet fun n => ?_
    simpa using hquiet n
  | leave =>
    have hpop : ∀ frame rest, s.stack = frame :: rest → (∀ n, frame ≠ .resuming n) →
        (∀ n, frame ≠ .claimed n) → Claims { s with stack := rest } := by
      intro frame rest hstack hresuming hclaimed
      have hquiet := h.quiet_of_head hstack hresuming hclaimed
      refine h.restack hquiet fun n => ?_
      have hn := hquiet n
      rw [hstack, List.mem_cons, List.mem_cons, not_or, not_or] at hn
      exact ⟨hn.1.2, hn.2.2⟩
    simp only [Coroutines.step] at hstep
    split at hstep
    · next rest hstack =>
      cases hstep
      exact hpop _ _ hstack (by simp) (by simp)
    · next n rest hstack =>
      cases hstep
      exact hpop _ _ hstack (by simp) (by simp)
    · next n rest hstack =>
      rw [Option.ite_none_left_eq_some] at hstep
      obtain ⟨-, hstep⟩ := hstep
      cases hstep
      exact hpop _ _ hstack (by simp) (by simp)
    · cases hstep
  | awaitSuspend kind =>
    simp only [Coroutines.step, Option.ite_none_right_eq_some] at hstep
    obtain ⟨hruns, hstep⟩ := hstep
    cases hstep
    have hquiet := h.quiet_of_runsCode hruns
    refine (h.suspend hquiet kind).restack hquiet fun n => ?_
    simpa using hquiet n
  | postYield =>
    simp only [Coroutines.step] at hstep
    split at hstep
    · next n rest hstack =>
      obtain ⟨a, hget, hstep⟩ := Option.bind_eq_some_iff.mp hstep
      rw [Option.ite_none_right_eq_some] at hstep
      refine (h.modify hget (h.held n a hget).disarmed).post ?_ hstep.2
      simpa using (List.getElem?_eq_some_iff.mp hget).1
    · cases hstep
  | complete n =>
    obtain ⟨a, hget, hstep⟩ := Option.bind_eq_some_iff.mp hstep
    rw [Option.ite_none_right_eq_some] at hstep
    exact h.post (List.getElem?_eq_some_iff.mp hget).1 hstep.2
  | fire n locked =>
    obtain ⟨a, hget, hstep⟩ := Option.bind_eq_some_iff.mp hstep
    rw [Option.ite_none_right_eq_some] at hstep
    obtain ⟨-, hstep⟩ := hstep
    have hdisarmed := h.modify hget (h.held n a hget).disarmed
    dsimp only at hstep
    split at hstep
    · refine hdisarmed.post ?_ hstep
      simpa using (List.getElem?_eq_some_iff.mp hget).1
    · cases hstep
      exact hdisarmed
  | claim =>
    simp only [Coroutines.step] at hstep
    split at hstep
    · next n rest hstack =>
      obtain ⟨a, hget, rfl⟩ := Option.map_eq_some_iff.mp hstep
      obtain ⟨hlength, -⟩ := h.alone n (.inl (by simp [hstack]))
      obtain rfl : rest = [] := by simpa [hstack] using hlength
      split
      · next hhandle => exact h.claim hget hstack hhandle
      · next hhandle => exact h.skip hget hstack (by simpa using hhandle)
    · cases hstep
  | resume =>
    simp only [Coroutines.step] at hstep
    split at hstep
    · next n rest hstack =>
      obtain ⟨a, hget, rfl⟩ := Option.map_eq_some_iff.mp hstep
      obtain ⟨hlength, -⟩ := h.alone n (.inr (by simp [hstack]))
      obtain rfl : rest = [] := by simpa [hstack] using hlength
      exact h.resume hget hstack
    · cases hstep
  | destroy n inLoopThread =>
    obtain ⟨a, hget, hstep⟩ := Option.bind_eq_some_iff.mp hstep
    rw [Option.ite_none_right_eq_some] at hstep
    obtain ⟨-, hstep⟩ := hstep
    cases hstep
    exact h.modify hget ((h.held n a hget).destroyed inLoopThread)

/-! ## Batches -/

theorem post_spec {n : Nat} (hpost : s.post n = some s') : s'.stack = s.stack ∧
    s'.awaiters = s.awaiters ∧ ∃ l, s.loop.step l = some s'.loop := by
  obtain ⟨loop, hloop, rfl⟩ := Option.map_eq_some_iff.mp hpost
  exact ⟨rfl, rfl, _, hloop⟩

/-- The loop takes a step or stays as it is. -/
theorem loop_step (hstep : s.step l = some s') :
    s'.loop = s.loop ∨ ∃ l', s.loop.step l' = some s'.loop := by
  cases l with
  | loop l =>
    obtain rfl | hl := eq_or_ne l .callNext
    · obtain ⟨-, loop, hloop, rfl⟩ := callNext_spec hstep
      exact .inr ⟨_, hloop⟩
    · obtain ⟨-, -, loop, hloop, rfl⟩ := loop_spec hl hstep
      exact .inr ⟨_, hloop⟩
  | enter | awaitSuspend kind =>
    simp only [Coroutines.step, Option.ite_none_right_eq_some] at hstep
    obtain ⟨-, hstep⟩ := hstep
    cases hstep
    exact .inl rfl
  | leave =>
    simp only [Coroutines.step] at hstep
    repeat' split at hstep
    all_goals cases hstep
    all_goals exact .inl rfl
  | postYield =>
    simp only [Coroutines.step] at hstep
    split at hstep
    · obtain ⟨a, -, hstep⟩ := Option.bind_eq_some_iff.mp hstep
      rw [Option.ite_none_right_eq_some] at hstep
      exact .inr (post_spec hstep.2).2.2
    · cases hstep
  | complete n =>
    obtain ⟨a, -, hstep⟩ := Option.bind_eq_some_iff.mp hstep
    rw [Option.ite_none_right_eq_some] at hstep
    exact .inr (post_spec hstep.2).2.2
  | fire n locked =>
    obtain ⟨a, -, hstep⟩ := Option.bind_eq_some_iff.mp hstep
    rw [Option.ite_none_right_eq_some] at hstep
    obtain ⟨-, hstep⟩ := hstep
    dsimp only at hstep
    split at hstep
    · exact .inr (post_spec hstep).2.2
    · cases hstep
      exact .inl rfl
  | claim =>
    simp only [Coroutines.step] at hstep
    split at hstep
    · obtain ⟨a, -, rfl⟩ := Option.map_eq_some_iff.mp hstep
      split <;> exact .inl rfl
    · cases hstep
  | resume =>
    simp only [Coroutines.step] at hstep
    split at hstep
    · obtain ⟨a, -, rfl⟩ := Option.map_eq_some_iff.mp hstep
      exact .inl rfl
    · cases hstep
  | destroy n inLoopThread =>
    obtain ⟨a, -, hstep⟩ := Option.bind_eq_some_iff.mp hstep
    rw [Option.ite_none_right_eq_some] at hstep
    obtain ⟨-, hstep⟩ := hstep
    cases hstep
    exact .inl rfl

theorem Claims.run (h : Claims s) {steps : List CoroutinesStep} (hrun : s.run steps = some s') :
    Claims s' :=
  Transition.invariant_run (C := fun _ _ => True) (fun _ _ _ h _ hstep => h.step hstep) h
    (Transition.meets_of_forall fun _ _ => trivial) hrun

/-- With the end of a batch, what was completed before it began has been resumed or destroyed. -/
theorem Claims.batch (h : Claims s) {n : Nat} (hn : n ∈ s.completed) {s₁ : Coroutines}
    (hswap : s.step (.loop .swapRemote) = some s₁) {later : List CoroutinesStep}
    (hrun : s₁.run later = some s') (hc : ∀ k, s'.loop.control ≠ .executing k) :
    ∃ a, s'.awaiters[n]? = some a ∧ (a.resumed = 1 ∨ a.abandoned = true) := by
  have hdue : s₁.loop.Due [.resume n] := by
    obtain ⟨-, -, loop, hloop, rfl⟩ := loop_spec (by simp) hswap
    obtain hcalled | hwaiting := (h.posted n).mp hn
    · intro functor hfunctor
      obtain rfl : functor = .resume n := by simpa using hfunctor
      have hsame : loop.called = s.loop.called := by
        cases EventLoop.executes_step hloop with
        | begins _ _ _ _ hcalled | outside _ _ hcalled | within _ _ _ _ hcalled => exact hcalled
      exact .inl (hsame ▸ hcalled)
    · exact h.batched.due hloop hwaiting
  have hend : s'.loop.Due [.resume n] := by
    refine Transition.invariant_run (I := fun s => s.loop.Due [.resume n]) (C := fun _ _ => True)
      (fun s l s' hdue _ hstep => ?_) hdue (Transition.meets_of_forall fun _ _ => trivial) hrun
    obtain heq | ⟨l', hloop⟩ := loop_step hstep
    · rw [heq]
      exact hdue
    · exact hdue.step hloop
  have hcalled : .resume n ∈ s'.loop.called := by
    obtain hcalled | ⟨k, i, hk, -⟩ := hend (.resume n) List.mem_cons_self
    · exact hcalled
    · exact absurd hk (hc k)
  have h' := (h.step hswap).run hrun
  have hlt := h'.completed n ((h'.posted n).mpr (.inl hcalled))
  refine ⟨s'.awaiters[n], List.getElem?_eq_getElem hlt, ?_⟩
  -- no functor is under way, so the handle is not with the awaiter nor with a functor
  have hquiet : ∀ m, ¬(.resuming m ∈ s'.stack ∨ .claimed m ∈ s'.stack) := by
    intro m hm
    obtain ⟨-, k, hk⟩ := h'.alone m hm
    exact hc k hk
  obtain ⟨-, hwaiting, htaken, -⟩ := h'.held n _ (List.getElem?_eq_getElem hlt)
  cases hhandle : s'.awaiters[n].handle with
  | true => exact absurd (.inl ((hwaiting hhandle).2.2 hcalled)) (hquiet n)
  | false => exact (htaken hhandle).resolve_left fun hclaimed => hquiet n (.inr hclaimed)

/-! ## Destruction -/

/-- What has the handle has not been destroyed. -/
structure Attended (s : Coroutines) : Prop where
  handle : ∀ (n : Nat) a, s.awaiters[n]? = some a → a.handle = true → a.alive = true
  claimed : ∀ (n : Nat) a, s.awaiters[n]? = some a → .claimed n ∈ s.stack → a.alive = true

/-- The awaiters as they were, or new, or destroyed and without a handle. -/
theorem Attended.of_awaiters (h : Attended s)
    (hawaiters : ∀ (n : Nat) a', s'.awaiters[n]? = some a' → a'.alive = true ∨
      (a'.handle = false ∧ .claimed n ∉ s'.stack) ∨
        ∃ a, s.awaiters[n]? = some a ∧ a'.alive = a.alive ∧ (a'.handle = true → a.handle = true) ∧
          (.claimed n ∈ s'.stack → .claimed n ∈ s.stack ∨ a.handle = true)) : Attended s' := by
  refine ⟨fun n a' hget hhandle => ?_, fun n a' hget hclaimed => ?_⟩
  · obtain halive | ⟨hfalse, -⟩ | ⟨a, hold, halive, hhandle', -⟩ := hawaiters n a' hget
    · exact halive
    · rw [hfalse] at hhandle
      cases hhandle
    · rw [halive]
      exact h.handle n a hold (hhandle' hhandle)
  · obtain halive | ⟨-, hnone⟩ | ⟨a, hold, halive, -, hclaimed'⟩ := hawaiters n a' hget
    · exact halive
    · exact absurd hclaimed hnone
    · rw [halive]
      exact (hclaimed' hclaimed).elim (h.claimed n a hold) (h.handle n a hold)

/-- The awaiters stay as they are. -/
theorem Attended.same (h : Attended s) (hawaiters : s'.awaiters = s.awaiters)
    (hstack : ∀ n, .claimed n ∈ s'.stack → .claimed n ∈ s.stack) : Attended s' := by
  apply h.of_awaiters
  intro n a hget
  rw [hawaiters] at hget
  exact .inr (.inr ⟨a, hget, rfl, id, fun hclaimed => .inl (hstack n hclaimed)⟩)

/-- One awaiter changes. -/
theorem Attended.modify (h : Attended s) {n : Nat} {a a' : Awaiter} (hget : s.awaiters[n]? = some a)
    (hawaiters : s'.awaiters = s.awaiters.set n a')
    (hstack : ∀ m, .claimed m ∈ s'.stack → .claimed m ∈ s.stack ∨ m = n ∧ a.handle = true)
    (halive : a'.alive = a.alive ∧ (a'.handle = true → a.handle = true) ∨
      a'.handle = false ∧ .claimed n ∉ s'.stack) : Attended s' := by
  apply h.of_awaiters
  intro m b hb
  rw [hawaiters] at hb
  obtain ⟨rfl, rfl⟩ | ⟨hne, hb⟩ := Lists.getElem?_set_eq_some hget hb
  · obtain ⟨halive, hhandle⟩ | hnone := halive
    · refine .inr (.inr ⟨a, hget, halive, hhandle, fun hclaimed => ?_⟩)
      exact (hstack m hclaimed).imp_right And.right
    · exact .inr (.inl hnone)
  · refine .inr (.inr ⟨b, hb, rfl, id, fun hclaimed => .inl ?_⟩)
    exact (hstack m hclaimed).resolve_right fun heq => hne heq.1

theorem Attended.step (h : Attended s) (hc : Claims s) (hunclaimed : Unclaimed s l)
    (hstep : s.step l = some s') : Attended s' := by
  cases l with
  | loop l =>
    obtain rfl | hl := eq_or_ne l .callNext
    · obtain ⟨-, loop, -, rfl⟩ := callNext_spec hstep
      refine h.same rfl fun n hn => ?_
      simp only [calledFrame, List.mem_singleton] at hn
      split at hn <;> cases hn
    · obtain ⟨-, -, loop, -, rfl⟩ := loop_spec hl hstep
      exact h.same rfl fun _ hn => hn
  | enter =>
    simp only [Coroutines.step, Option.ite_none_right_eq_some] at hstep
    obtain ⟨-, hstep⟩ := hstep
    cases hstep
    exact h.same rfl fun n hn => by simpa using hn
  | leave =>
    simp only [Coroutines.step] at hstep
    repeat' split at hstep
    all_goals cases hstep
    all_goals refine h.same rfl fun n hn => ?_
    all_goals simp_all
  | awaitSuspend kind =>
    simp only [Coroutines.step, Option.ite_none_right_eq_some] at hstep
    obtain ⟨-, hstep⟩ := hstep
    cases hstep
    apply h.of_awaiters
    intro n a hget
    obtain hget | ⟨rfl, rfl⟩ := Lists.getElem?_concat_eq_some_iff.mp hget
    · exact .inr (.inr ⟨a, hget, rfl, id, fun hclaimed => .inl (by simpa using hclaimed)⟩)
    · exact .inl rfl
  | postYield =>
    simp only [Coroutines.step] at hstep
    split at hstep
    · obtain ⟨a, hget, hstep⟩ := Option.bind_eq_some_iff.mp hstep
      rw [Option.ite_none_right_eq_some] at hstep
      obtain ⟨hstack, hawaiters, -⟩ := post_spec hstep.2
      exact h.modify hget hawaiters (fun m hm => .inl (hstack ▸ hm)) (.inl ⟨rfl, id⟩)
    · cases hstep
  | complete n =>
    obtain ⟨a, -, hstep⟩ := Option.bind_eq_some_iff.mp hstep
    rw [Option.ite_none_right_eq_some] at hstep
    obtain ⟨hstack, hawaiters, -⟩ := post_spec hstep.2
    exact h.same hawaiters fun m hm => hstack ▸ hm
  | fire n locked =>
    obtain ⟨a, hget, hstep⟩ := Option.bind_eq_some_iff.mp hstep
    rw [Option.ite_none_right_eq_some] at hstep
    obtain ⟨-, hstep⟩ := hstep
    dsimp only at hstep
    split at hstep
    · obtain ⟨hstack, hawaiters, -⟩ := post_spec hstep
      exact h.modify hget hawaiters (fun m hm => .inl (hstack ▸ hm)) (.inl ⟨rfl, id⟩)
    · cases hstep
      exact h.modify hget rfl (fun m hm => .inl hm) (.inl ⟨rfl, id⟩)
  | claim =>
    simp only [Coroutines.step] at hstep
    split at hstep
    · next n rest hstack =>
      obtain ⟨a, hget, rfl⟩ := Option.map_eq_some_iff.mp hstep
      split
      · next hhandle =>
        refine h.modify hget rfl (fun m hm => ?_) (.inl ⟨rfl, fun hfalse => nomatch hfalse⟩)
        rw [List.mem_cons] at hm
        obtain heq | hm := hm
        · cases heq
          exact .inr ⟨rfl, hhandle⟩
        · exact .inl (hstack ▸ List.mem_cons_of_mem _ hm)
      · exact h.same rfl fun m hm => hstack ▸ List.mem_cons_of_mem _ hm
    · cases hstep
  | resume =>
    simp only [Coroutines.step] at hstep
    split at hstep
    · next n rest hstack =>
      obtain ⟨a, hget, rfl⟩ := Option.map_eq_some_iff.mp hstep
      refine h.modify hget rfl (fun m hm => .inl ?_) (.inl ⟨rfl, id⟩)
      rw [List.mem_cons] at hm
      exact hstack ▸ List.mem_cons_of_mem _ (hm.resolve_left (by simp))
    · cases hstep
  | destroy n inLoopThread =>
    obtain ⟨a, hget, hstep⟩ := Option.bind_eq_some_iff.mp hstep
    rw [Option.ite_none_right_eq_some] at hstep
    obtain ⟨⟨-, hruns⟩, hstep⟩ := hstep
    cases hstep
    have hnone : .claimed n ∉ s.stack := by
      cases inLoopThread with
      | false => exact hunclaimed
      | true => exact ((hc.quiet_of_runsCode (hruns rfl)) n).2
    exact h.modify hget rfl (fun m hm => .inl hm) (.inr ⟨rfl, hnone⟩)

theorem Claims.resumable (h : Claims s) (ha : Attended s) : Resumable s := by
  refine ⟨fun n a hget => (h.held n a hget).once, fun n rest hstack => ?_, ?_⟩
  · have hmem : .claimed n ∈ s.stack := by simp [hstack]
    obtain ⟨hlength, hexecuting⟩ := h.alone n (.inr hmem)
    have hlt := h.known n hmem
    have hget := List.getElem?_eq_getElem hlt
    refine ⟨by simpa [hstack] using hlength, hexecuting, _, hget, ha.claimed n _ hget hmem, ?_⟩
    exact (h.held n _ hget).claimed hmem
  · intro n hn s₁ later s' hswap hrun hc
    exact h.batch hn hswap hrun hc

/-- The destruction of what is about to be resumed is what goes wrong. -/
theorem Claims.unclaimed (h : Claims s) (ha : Attended s)
    (hstep : ∀ s', s.step l = some s' → Resumable s') : Unclaimed s l := by
  unfold Unclaimed
  split
  swap
  · trivial
  next n =>
  intro hmem
  have hlt := h.known n hmem
  have hget := List.getElem?_eq_getElem hlt
  have hsome : s.step (.destroy n false) =
      some { s with awaiters := s.awaiters.set n (s.awaiters[n].destroyed false) } := by
    simp [Coroutines.step, hget, ha.claimed n _ hget hmem]
  obtain ⟨hlength, -⟩ := h.alone n (.inr hmem)
  obtain ⟨frame, hstack⟩ := List.length_eq_one_iff.mp hlength
  obtain rfl : .claimed n = frame := by simpa [hstack] using hmem
  obtain ⟨-, -, a, hget', halive, -⟩ := (hstep _ hsome).next n [] hstack
  dsimp only at hget'
  rw [List.getElem?_set_self hlt, Option.some.injEq] at hget'
  subst hget'
  cases halive

/-- In a run, coroutines are resumed as they are to be in every state that is reached exactly when
no other thread destroys an awaiter between the exchange of its handle and its resumption. -/
theorem resumable_iff_unclaimed (signalCallback : Bool) (steps : List CoroutinesStep) :
    Transition.Meets step Unclaimed (start signalCallback) steps ↔
      ∀ earlier, earlier <+: steps → ∀ s, (start signalCallback).run earlier = some s →
        Resumable s :=
  Transition.meets_iff_forall_prefix (I := fun s => Claims s ∧ Attended s)
    (fun _ _ _ h hunclaimed hstep => ⟨h.1.step hstep, h.2.step h.1 hunclaimed hstep⟩)
    (fun _ h => h.1.resumable h.2) (fun _ _ h hstep => h.1.unclaimed h.2 hstep)
    ⟨.start signalCallback, by simp [Coroutines.start], by simp [Coroutines.start]⟩

/-- A call is completed, and the functor takes the handle; then another thread destroys the frame. -/
def destroyedElsewhere : List CoroutinesStep :=
  [.loop .loop, .loop .test, .loop (.poll false), .enter, .awaitSuspend .rpc, .leave, .complete 0,
    .leave, .loop .eventsHandled, .loop .swapRemote, .loop .callNext, .claim, .destroy 0 false]

theorem resumed_behind_destruction : ∃ s s', (start false).run destroyedElsewhere = some s ∧
    s.stack = [.claimed 0] ∧ (s.awaiters.map (·.alive)) = [false] ∧ ¬Resumable s ∧
      s.step .resume = some s' ∧ s'.awaiters.map (·.resumed) = [1] := by
  refine ⟨_, _, rfl, rfl, rfl, fun h => ?_, rfl, rfl⟩
  obtain ⟨-, -, a, hget, halive, -⟩ := h.next 0 [] rfl
  cases hget
  cases halive

end Coroutines

end NebulaRpc.Rpc
