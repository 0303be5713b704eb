import NebulaRpc.Library.Transition

/-!
# Tasks and their coroutine frames

A program of coroutines that return `Task<T>`, `Task<void>` or `DetachedTask`: the frames, the `Task`
and `TaskAwaiter` objects that hold their handles, and the stack of the code that is being executed.
The top of the stack is the body of a coroutine, or the cleanup of a frame, that is, the destructors
of what lives in it, called from a destructor or an assignment; below the last entry is code outside
every coroutine. A step is what the code on top does next. Destructors are code as any other: they may
use tasks as well.
-/

namespace NebulaRpc.Coro

variable {V E : Type}

/-- The promise types of `Task<T>`, `Task<void>` and `DetachedTask`. -/
inductive Kind
  | value
  | void
  | detached
  deriving DecidableEq

/-- Where a coroutine is. `suspended` waits for something that is not a task. -/
inductive Status
  | initial
  | running
  | suspended
  | awaiting (awaiter : ℕ)
  | final
  | destroying
  | destroyed
  deriving DecidableEq

/-- The awaiter of the `co_await` in which a coroutine is suspended. -/
def Status.awaiter : Status → Option ℕ
  | .awaiting a => some a
  | _ => none

/-- A coroutine frame with its promise. -/
structure Frame (V E : Type) where
  kind : Kind
  status : Status := .initial
  continuation_ : Option ℕ := none
  exception_ : Option E := none
  value_ : Option V := none

/-- What `FinalizeResult` ends with. -/
inductive Outcome (V E : Type)
  | value (v : V)
  | returned
  | rethrown (e : E)
  | unavailable
  deriving DecidableEq

def Frame.finalizeResult (x : Frame V E) : Outcome V E × Frame V E :=
  match x.exception_ with
  | some e => (.rethrown e, x)
  | none =>
    match x.kind, x.value_ with
    | .value, some v => (.value v, { x with value_ := none })
    | .value, none => (.unavailable, x)
    | _, _ => (.returned, x)

structure Task where
  handle_ : Option ℕ := none
  started_ : Bool := false
  deriving DecidableEq

/-- The objects that hold the handle of a frame. -/
inductive Owner
  | task (t : Task)
  | awaiter (handle_ : Option ℕ)
  deriving DecidableEq

def Owner.handle_ : Owner → Option ℕ
  | .task t => t.handle_
  | .awaiter h => h

/-- Who called `destroy` on the handle of a frame, and goes on when the frame is gone: `~Task` or
`~TaskAwaiter` of an object, `operator=` of a task, or the end of a detached coroutine. -/
inductive Caller
  | destructor (o : ℕ)
  | assignment (target source : ℕ)
  | finalSuspend

/-- The object whose handle the caller sets to null only now. -/
def Caller.target : Caller → Option ℕ
  | .destructor o => some o
  | .assignment t _ => some t
  | .finalSuspend => none

def Caller.source : Caller → Option ℕ
  | .assignment _ o => some o
  | _ => none

/-- An entry of the stack. A frame that was suspended in a `co_await` when it is destroyed destroys
the awaiter, `first`, before anything that is older. -/
inductive Call
  | body (f : ℕ)
  | cleanup (f : ℕ) (first : Option ℕ) (caller : Caller)

def Call.frame : Call → ℕ
  | .body f => f
  | .cleanup f _ _ => f

def Call.target : Call → Option ℕ
  | .body _ => none
  | .cleanup _ _ caller => caller.target

def Call.source : Call → Option ℕ
  | .body _ => none
  | .cleanup _ _ caller => caller.source

/-- What is seen of a step: a coroutine is resumed by `Start` or by the `co_await` that waits for it;
`p` is suspended on `c`; `c` returns a value, throws, and reaches its final suspend; `p` is resumed by
`c`; `FinalizeResult` hands over how `f` has ended; a frame is destroyed. -/
inductive Event (V E : Type)
  | started (f : ℕ)
  | awaited (p c : ℕ)
  | returned (f : ℕ) (v : V)
  | threw (f : ℕ) (e : E)
  | finished (f : ℕ)
  | continued (p c : ℕ)
  | handed (f : ℕ) (outcome : Outcome V E)
  | destroyed (f : ℕ)
  deriving DecidableEq

/-- `home` is the frame in which an object lives, if it lives in one. -/
structure State (V E : Type) where
  frames : ℕ → Option (Frame V E)
  frameCount : ℕ
  objects : ℕ → Option Owner
  home : ℕ → Option ℕ
  objectCount : ℕ
  stack : List Call

namespace State

def init : State V E where
  frames := fun _ => none
  frameCount := 0
  objects := fun _ => none
  home := fun _ => none
  objectCount := 0
  stack := []

variable (s : State V E)

def setFrame (f : ℕ) (x : Frame V E) : State V E :=
  { s with frames := Function.update s.frames f (some x) }

/-- A new frame. -/
def newFrame (x : Frame V E) : State V E :=
  { s with
    frames := Function.update s.frames s.frameCount (some x)
    frameCount := s.frameCount + 1 }

def setStack (stack : List Call) : State V E := { s with stack := stack }

def setObject (o : ℕ) (x : Option Owner) : State V E :=
  { s with objects := Function.update s.objects o x }

/-- A new object, in the frame `home`. -/
def newObject (x : Owner) (home : Option ℕ) : State V E :=
  { s with
    objects := Function.update s.objects s.objectCount (some x)
    home := Function.update s.home s.objectCount home
    objectCount := s.objectCount + 1 }

def task (o : ℕ) : Option Task :=
  match s.objects o with
  | some (.task t) => some t
  | _ => none

/-- Objects live outside every frame or in one that is not gone. -/
def houses : Option ℕ → Bool
  | none => true
  | some f => (s.frames f).any fun x => x.status ≠ .destroyed

/-- The code on top of the stack may do anything, unless a frame is about to destroy the awaiter that
it was suspended in. -/
def atLiberty : Bool :=
  match s.stack with
  | .cleanup _ (some _) _ :: _ => false
  | _ => true

/-- The objects whose `Reset` or destructor is destroying a frame. -/
def resetting : List ℕ := s.stack.filterMap Call.target

/-- `FinalizeResult` of the promise of `f`. -/
def finalize (f : ℕ) (x : Frame V E) : State V E × List (Event V E) :=
  (s.setFrame f x.finalizeResult.2, [.handed f x.finalizeResult.1])

/-- What the caller of `destroy` does afterwards. `Reset` has left `target` empty. -/
def goOn : Caller → Option (State V E)
  | .destructor o => some (s.setObject o none)
  | .assignment target source =>
    (s.task source).map fun t =>
      (s.setObject target (some (.task t))).setObject source (some (.task {}))
  | .finalSuspend => some s

/-- `handle.destroy()`: not for a coroutine that is running. -/
def destroyFrame (f : ℕ) (caller : Caller) : Option (State V E × List (Event V E)) :=
  match s.frames f with
  | none => none
  | some x =>
    if x.status = .running then none
    else
      some ((s.setFrame f { x with status := .destroying }).setStack
        (.cleanup f x.status.awaiter caller :: s.stack), [.destroyed f])

/-- `Reset`, as of a task, and the destructor of an awaiter. -/
def reset (handle_ : Option ℕ) (caller : Caller) : Option (State V E × List (Event V E)) :=
  match handle_ with
  | none => (s.goOn caller).map fun s' => (s', [])
  | some f => s.destroyFrame f caller

/-- A call of a coroutine. A detached one runs at once. -/
def create (kind : Kind) (home : Option ℕ) : State V E :=
  match kind with
  | .detached =>
    (s.newFrame { kind := kind, status := .running }).setStack (.body s.frameCount :: s.stack)
  | _ =>
    (s.newFrame { kind := kind }).newObject (.task { handle_ := some s.frameCount }) home

/-- `Task(Task&& other)`. -/
def move (source : ℕ) (home : Option ℕ) : Option (State V E) :=
  (s.task source).map fun t => (s.setObject source (some (.task {}))).newObject (.task t) home

/-- `operator=(Task&& other)`. -/
def assign (target source : ℕ) : Option (State V E × List (Event V E)) :=
  match s.task target, s.task source with
  | some t, some _ =>
    if target = source then some (s, []) else s.reset t.handle_ (.assignment target source)
  | _, _ => none

/-- `handle.resume()`. -/
def resume (f : ℕ) (x : Frame V E) : State V E :=
  (s.setFrame f { x with status := .running }).setStack (.body f :: s.stack)

/-- `Task::Start`. -/
def start (o : ℕ) : Option (State V E × List (Event V E)) :=
  match s.task o with
  | none => none
  | some t =>
    match t.handle_ with
    | none => some (s, [])
    | some f =>
      match s.frames f with
      | none => none
      | some x =>
        if t.started_ ∨ x.status = .final then some (s, [])
        else
          some ((s.setObject o (some (.task { t with started_ := true }))).resume f x,
            [.started f])

/-- `Task::Result`. A task that is empty or not done throws. -/
def result (o : ℕ) : Option (State V E × List (Event V E)) :=
  match s.task o with
  | none => none
  | some t =>
    match t.handle_ with
    | none => some (s, [])
    | some f =>
      match s.frames f with
      | none => none
      | some x => if x.status = .final then some (s.finalize f x) else some (s, [])

/-- `co_await std::move(task)` in the body of a coroutine. The awaiter lives in its frame until the
end of the expression. -/
def coAwait (o : ℕ) : Option (State V E × List (Event V E)) :=
  match s.stack, s.task o with
  | .body p :: rest, some t =>
    if t.started_ then some (s, [])
    else
      let s₁ := (s.setObject o (some (.task { started_ := true }))).newObject
        (.awaiter t.handle_) (some p)
      match t.handle_ with
      | none => some (s₁, [])
      | some c =>
        match s.frames p, s.frames c with
        | some x, some y =>
          if y.status = .final then some (s₁.finalize c y)
          else
            some (((s₁.setFrame p { x with status := .awaiting s.objectCount }).setFrame c
                { y with status := .running, continuation_ := some p }).setStack
                  (.body c :: rest),
              [.awaited p c, .started c])
        | _, _ => none
  | _, _ => none

/-- `await_resume` in the coroutine that was suspended with this status. -/
def awaitResume : Status → State V E × List (Event V E)
  | .awaiting a =>
    match s.objects a with
    | some (.awaiter (some c)) =>
      match s.frames c with
      | some y => s.finalize c y
      | none => (s, [])
    | _ => (s, [])
  | _ => (s, [])

/-- `final_suspend` of `f`, with `rest` below it on the stack. A child transfers to the coroutine that
waits for it; a detached coroutine is destroyed. -/
def finalSuspend (f : ℕ) (x : Frame V E) (rest : List Call) :
    Option (State V E × List (Event V E)) :=
  match x.kind, x.continuation_ with
  | .detached, _ =>
    some ((s.setFrame f { x with status := .destroying }).setStack
      (.cleanup f none .finalSuspend :: rest), [.finished f, .destroyed f])
  | _, none =>
    some ((s.setFrame f { x with status := .final }).setStack rest, [.finished f])
  | _, some p =>
    let s₁ := s.setFrame f { x with status := .final }
    match s₁.frames p with
    | none => none
    | some y =>
      let s₂ := (s₁.setFrame p { y with status := .running }).setStack (.body p :: rest)
      some ((s₂.awaitResume y.status).1,
        [.finished f, .continued p f] ++ (s₂.awaitResume y.status).2)

/-- The body on top of the stack, with its frame and what is below it. -/
def top : Option (ℕ × Frame V E × List Call) :=
  match s.stack with
  | .body f :: rest => (s.frames f).map fun x => (f, x, rest)
  | _ => none

end State

/-- What a program does with tasks, one at a time: `create` calls a coroutine, `construct`, `move` and
`assign` are the constructors and the assignment, `destroy` is the destructor of a task, or that of an
awaiter at the end of its expression or with its frame; `resume` and `suspend` are those of a coroutine
that waits for something else; `unwind` destroys the awaiter that a destroyed frame was suspended in,
and `leave` is the end of a cleanup. -/
inductive Op (V E : Type)
  | create (kind : Kind) (home : Option ℕ)
  | construct (home : Option ℕ)
  | move (source : ℕ) (home : Option ℕ)
  | assign (target source : ℕ)
  | destroy (o : ℕ)
  | start (o : ℕ)
  | result (o : ℕ)
  | coAwait (o : ℕ)
  | resume (f : ℕ)
  | suspend
  | returnValue (v : V)
  | finalSuspend
  | unhandledException (e : E)
  | unwind
  | leave

namespace State

variable (s : State V E)

/-- The destructor of an object. An awaiter is destroyed by the frame it lives in. -/
def destroy (o : ℕ) : Option (State V E × List (Event V E)) :=
  match s.objects o with
  | none => none
  | some (.task t) => s.reset t.handle_ (.destructor o)
  | some (.awaiter h) =>
    if s.home o = s.stack.head?.map Call.frame ∧ s.home o ≠ none then
      s.reset h (.destructor o)
    else none

/-- The first awaiter of a cleanup. -/
def unwind : Option (State V E × List (Event V E)) :=
  match s.stack with
  | .cleanup f (some a) caller :: rest =>
    match s.objects a with
    | some x =>
      (s.setStack (.cleanup f none caller :: rest)).reset x.handle_ (.destructor a)
    | none => none
  | _ => none

/-- The end of a cleanup: nothing lives in the frame any more, and its storage is released. -/
def leave : Option (State V E × List (Event V E)) :=
  match s.stack with
  | .cleanup f none caller :: rest =>
    match s.frames f with
    | none => none
    | some x =>
      if ∀ o < s.objectCount, s.objects o ≠ none → s.home o ≠ some f then
        (((s.setFrame f { x with status := .destroyed }).setStack rest).goOn caller).map
          fun s' => (s', [])
      else none
  | _ => none

/-- The frame that a running coroutine, or code outside one, resumes from outside the library. -/
def resumeSuspended (f : ℕ) : Option (State V E × List (Event V E)) :=
  match s.frames f with
  | some x => if x.status = .suspended then some (s.resume f x, []) else none
  | none => none

def suspend : Option (State V E × List (Event V E)) :=
  s.top.map fun (f, x, rest) =>
    ((s.setFrame f { x with status := .suspended }).setStack rest, [])

/-- `return_value`. Only the promise of `Task<T>` has one. -/
def returnValue (v : V) : Option (State V E × List (Event V E)) :=
  s.top.bind fun (f, x, _) =>
    if x.kind = .value then some (s.setFrame f { x with value_ := some v }, [.returned f v])
    else none

/-- The end of a body that has not thrown; one with a value has returned it. -/
def finish : Option (State V E × List (Event V E)) :=
  s.top.bind fun (f, x, rest) =>
    if x.kind = .value ∧ x.value_.isNone then none else s.finalSuspend f x rest

/-- An exception leaves a body. It terminates the program if the coroutine is detached. -/
def unhandledException (e : E) : Option (State V E × List (Event V E)) :=
  s.top.bind fun (f, x, rest) =>
    if x.kind = .detached then none
    else
      (s.finalSuspend f { x with exception_ := some e } rest).map fun (s', events) =>
        (s', .threw f e :: events)

/-- What the code on top of the stack does. -/
def perform (s : State V E) : Op V E → Option (State V E × List (Event V E))
  | .create kind home => if s.houses home then some (s.create kind home, []) else none
  | .construct home => if s.houses home then some (s.newObject (.task {}) home, []) else none
  | .move source home =>
    if s.houses home then (s.move source home).map fun s' => (s', []) else none
  | .assign target source => s.assign target source
  | .destroy o => s.destroy o
  | .start o => s.start o
  | .result o => s.result o
  | .coAwait o => s.coAwait o
  | .resume f => s.resumeSuspended f
  | .suspend => s.suspend
  | .returnValue v => s.returnValue v
  | .finalSuspend => s.finish
  | .unhandledException e => s.unhandledException e
  | .unwind => none
  | .leave => s.leave

/-- The state behind a step, and what is seen of it. `none` stands for what a program cannot do: a use
of an object that does not exist, a second resumption of a suspended coroutine, the destruction of a
running one. -/
def step (s : State V E) (op : Op V E) : Option (State V E × List (Event V E)) :=
  if s.atLiberty then s.perform op
  else
    match op with
    | .unwind => s.unwind
    | _ => none

/-- The objects whose handle a step is going to move or to destroy, or whose coroutine it starts. A
`started_` flag keeps the coroutine from being started. -/
def taken (s : State V E) : Op V E → List ℕ
  | .move source _ => [source]
  | .assign target source => if target = source then [] else [target, source]
  | .destroy o => [o]
  | .start o => if (s.task o).any fun t => !t.started_ then [o] else []
  | .coAwait o => if (s.task o).any fun t => !t.started_ then [o] else []
  | _ => []

/-- The step leaves the objects alone whose `Reset` or destructor is destroying a frame. -/
def Undisturbed (s : State V E) (op : Op V E) : Prop := ∀ o ∈ s.taken op, o ∉ s.resetting

instance (s : State V E) (op : Op V E) : Decidable (s.Undisturbed op) :=
  inferInstanceAs (Decidable (∀ o ∈ s.taken op, o ∉ s.resetting))

/-- The step of a program whose events are written down. -/
def record (s : State V E × List (Event V E)) (op : Op V E) :
    Option (State V E × List (Event V E)) :=
  (s.1.step op).map fun (s', events) => (s', s.2 ++ events)

end State

end NebulaRpc.Coro
