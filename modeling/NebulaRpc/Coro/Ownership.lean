import NebulaRpc.Coro.Task

/-!
# Who owns a frame

Every frame that is not gone is held by exactly one task or awaiter, unless it is that of a detached
coroutine; a frame is on the stack at most once; and a coroutine that waits in a `co_await` holds the
awaiter of a child that has not come to its end. This holds as long as no step takes the handle of a
task whose `Reset` is destroying the frame.
-/

namespace NebulaRpc.Coro

variable {V E : Type}

namespace State

variable (s : State V E)

def handleOf (o : ℕ) : Option ℕ := (s.objects o).bind Owner.handle_

def kindOf (f : ℕ) : Option Kind := (s.frames f).map Frame.kind

def statusOf (f : ℕ) : Option Status := (s.frames f).map Frame.status

def continuationOf (f : ℕ) : Option ℕ := (s.frames f).bind Frame.continuation_

/-- The frame `p` is about to destroy the awaiter it was suspended in. -/
def Unwinds (p a : ℕ) : Prop := ∃ caller, s.stack.head? = some (.cleanup p (some a) caller)

variable {s} {f g o i : ℕ} {x : Frame V E} {y : Option Owner} {z : Owner} {home : Option ℕ}
  {stack : List Call}

section Reads

@[simp, grind =]
theorem statusOf_setFrame :
    (s.setFrame f x).statusOf g = if g = f then some x.status else s.statusOf g := by
  by_cases h : g = f <;> simp [statusOf, setFrame, h]

@[simp, grind =]
theorem kindOf_setFrame :
    (s.setFrame f x).kindOf g = if g = f then some x.kind else s.kindOf g := by
  by_cases h : g = f <;> simp [kindOf, setFrame, h]

@[simp, grind =]
theorem continuationOf_setFrame :
    (s.setFrame f x).continuationOf g = if g = f then x.continuation_ else s.continuationOf g := by
  by_cases h : g = f <;> simp [continuationOf, setFrame, h]

@[simp, grind =]
theorem handleOf_setFrame : (s.setFrame f x).handleOf o = s.handleOf o := rfl

@[simp, grind =]
theorem objects_setFrame : (s.setFrame f x).objects i = s.objects i := rfl

@[simp, grind =]
theorem home_setFrame : (s.setFrame f x).home i = s.home i := rfl

@[simp, grind =]
theorem stack_setFrame : (s.setFrame f x).stack = s.stack := rfl

@[simp, grind =]
theorem resetting_setFrame : (s.setFrame f x).resetting = s.resetting := rfl

@[simp, grind =]
theorem unwinds_setFrame : (s.setFrame f x).Unwinds g i ↔ s.Unwinds g i := Iff.rfl

@[simp, grind =]
theorem objectCount_setFrame : (s.setFrame f x).objectCount = s.objectCount := rfl

@[simp, grind =]
theorem frameCount_setFrame : (s.setFrame f x).frameCount = s.frameCount := rfl

@[simp, grind =]
theorem statusOf_newFrame :
    (s.newFrame x).statusOf g = if g = s.frameCount then some x.status else s.statusOf g := by
  by_cases h : g = s.frameCount <;> simp [statusOf, newFrame, h]

@[simp, grind =]
theorem kindOf_newFrame :
    (s.newFrame x).kindOf g = if g = s.frameCount then some x.kind else s.kindOf g := by
  by_cases h : g = s.frameCount <;> simp [kindOf, newFrame, h]

@[simp, grind =]
theorem continuationOf_newFrame :
    (s.newFrame x).continuationOf g =
      if g = s.frameCount then x.continuation_ else s.continuationOf g := by
  by_cases h : g = s.frameCount <;> simp [continuationOf, newFrame, h]

@[simp, grind =]
theorem handleOf_newFrame : (s.newFrame x).handleOf o = s.handleOf o := rfl

@[simp, grind =]
theorem objects_newFrame : (s.newFrame x).objects i = s.objects i := rfl

@[simp, grind =]
theorem home_newFrame : (s.newFrame x).home i = s.home i := rfl

@[simp, grind =]
theorem stack_newFrame : (s.newFrame x).stack = s.stack := rfl

@[simp, grind =]
theorem resetting_newFrame : (s.newFrame x).resetting = s.resetting := rfl

@[simp, grind =]
theorem unwinds_newFrame : (s.newFrame x).Unwinds g i ↔ s.Unwinds g i := Iff.rfl

@[simp, grind =]
theorem objectCount_newFrame : (s.newFrame x).objectCount = s.objectCount := rfl

@[simp, grind =]
theorem frameCount_newFrame : (s.newFrame x).frameCount = s.frameCount + 1 := rfl

@[simp, grind =]
theorem statusOf_setStack : (s.setStack stack).statusOf f = s.statusOf f := rfl

@[simp, grind =]
theorem kindOf_setStack : (s.setStack stack).kindOf f = s.kindOf f := rfl

@[simp, grind =]
theorem continuationOf_setStack : (s.setStack stack).continuationOf f = s.continuationOf f := rfl

@[simp, grind =]
theorem handleOf_setStack : (s.setStack stack).handleOf o = s.handleOf o := rfl

@[simp, grind =]
theorem objects_setStack : (s.setStack stack).objects i = s.objects i := rfl

@[simp, grind =]
theorem home_setStack : (s.setStack stack).home i = s.home i := rfl

@[simp, grind =]
theorem stack_setStack : (s.setStack stack).stack = stack := rfl

@[simp, grind =]
theorem objectCount_setStack : (s.setStack stack).objectCount = s.objectCount := rfl

@[simp, grind =]
theorem frameCount_setStack : (s.setStack stack).frameCount = s.frameCount := rfl

@[simp, grind =]
theorem handleOf_setObject :
    (s.setObject o y).handleOf i = if i = o then y.bind Owner.handle_ else s.handleOf i := by
  by_cases h : i = o <;> simp [handleOf, setObject, h]

@[simp, grind =]
theorem objects_setObject :
    (s.setObject o y).objects i = if i = o then y else s.objects i := by
  by_cases h : i = o <;> simp [setObject, h]

@[simp, grind =]
theorem statusOf_setObject : (s.setObject o y).statusOf f = s.statusOf f := rfl

@[simp, grind =]
theorem kindOf_setObject : (s.setObject o y).kindOf f = s.kindOf f := rfl

@[simp, grind =]
theorem continuationOf_setObject : (s.setObject o y).continuationOf f = s.continuationOf f := rfl

@[simp, grind =]
theorem home_setObject : (s.setObject o y).home i = s.home i := rfl

@[simp, grind =]
theorem stack_setObject : (s.setObject o y).stack = s.stack := rfl

@[simp, grind =]
theorem resetting_setObject : (s.setObject o y).resetting = s.resetting := rfl

@[simp, grind =]
theorem unwinds_setObject : (s.setObject o y).Unwinds f i ↔ s.Unwinds f i := Iff.rfl

@[simp, grind =]
theorem objectCount_setObject : (s.setObject o y).objectCount = s.objectCount := rfl

@[simp, grind =]
theorem frameCount_setObject : (s.setObject o y).frameCount = s.frameCount := rfl

@[simp, grind =]
theorem handleOf_newObject :
    (s.newObject z home).handleOf i = if i = s.objectCount then z.handle_ else s.handleOf i := by
  by_cases h : i = s.objectCount <;> simp [handleOf, newObject, h]

@[simp, grind =]
theorem objects_newObject :
    (s.newObject z home).objects i = if i = s.objectCount then some z else s.objects i := by
  by_cases h : i = s.objectCount <;> simp [newObject, h]

@[simp, grind =]
theorem home_newObject :
    (s.newObject z home).home i = if i = s.objectCount then home else s.home i := by
  by_cases h : i = s.objectCount <;> simp [newObject, h]

@[simp, grind =]
theorem statusOf_newObject : (s.newObject z home).statusOf f = s.statusOf f := rfl

@[simp, grind =]
theorem kindOf_newObject : (s.newObject z home).kindOf f = s.kindOf f := rfl

@[simp, grind =]
theorem continuationOf_newObject :
    (s.newObject z home).continuationOf f = s.continuationOf f := rfl

@[simp, grind =]
theorem stack_newObject : (s.newObject z home).stack = s.stack := rfl

@[simp, grind =]
theorem resetting_newObject : (s.newObject z home).resetting = s.resetting := rfl

@[simp, grind =]
theorem unwinds_newObject : (s.newObject z home).Unwinds f i ↔ s.Unwinds f i := Iff.rfl

@[simp, grind =]
theorem objectCount_newObject : (s.newObject z home).objectCount = s.objectCount + 1 := rfl

@[simp, grind =]
theorem frameCount_newObject : (s.newObject z home).frameCount = s.frameCount := rfl

end Reads

end State

/-- What an entry of the stack and one below it have in common: nothing. Only the top entry is about to
destroy an awaiter, and no assignment takes its handle from a task that is being reset. -/
structure Call.Above (upper lower : Call) : Prop where
  frame : upper.frame ≠ lower.frame
  first : ∀ f a caller, lower ≠ .cleanup f (some a) caller
  source : ∀ o, upper.source = some o → lower.target ≠ some o

/-- An entry of the stack agrees with its frame, and with the object that waits for its end. -/
def State.Backs (s : State V E) : Call → Prop
  | .body f => s.statusOf f = some .running
  | .cleanup f _ caller => s.statusOf f = some .destroying ∧
    (∀ o, caller.target = some o → s.handleOf o = some f) ∧
    ∀ o, caller.source = some o → caller.target ≠ some o

structure Stacked (s : State V E) : Prop where
  pairwise : s.stack.Pairwise Call.Above
  backs : ∀ c ∈ s.stack, s.Backs c

/-- Every frame that is not gone has one owner, unless it is detached. It may not be said of the
objects `loose`, which are about to lose their handles. -/
structure Owned (loose : ℕ → Prop) (s : State V E) : Prop where
  freshFrame : ∀ f, s.frameCount ≤ f → s.statusOf f = none
  freshObject : ∀ o, s.objectCount ≤ o → s.objects o = none
  unique : ∀ o o' f, ¬ loose o → ¬ loose o' → s.handleOf o = some f →
    s.handleOf o' = some f → o = o'
  kind : ∀ o f, ¬ loose o → s.handleOf o = some f →
    s.kindOf f ≠ none ∧ s.kindOf f ≠ some .detached
  alive : ∀ o f, ¬ loose o → s.handleOf o = some f → s.statusOf f ≠ some .destroyed
  held : ∀ o f, ¬ loose o → s.handleOf o = some f → s.statusOf f = some .destroying →
    o ∈ s.resetting
  owned : ∀ f k, s.kindOf f = some k → k ≠ .detached → s.statusOf f ≠ some .destroyed →
    ∃ o, ¬ loose o ∧ s.handleOf o = some f

/-- A task that has not been started holds a coroutine that has not run, and only an awaiter holds one
that has a coroutine waiting for it: until the child has come to its end, that coroutine is suspended
in the `co_await` of this awaiter, or is about to destroy it. -/
structure Awaited (loose : ℕ → Prop) (s : State V E) : Prop where
  flag : ∀ o f, ¬ loose o → s.objects o = some (.task { handle_ := some f }) →
    s.statusOf f = some .initial ∨ o ∈ s.resetting
  alone : ∀ o t f, s.objects o = some (.task t) → t.handle_ = some f → s.continuationOf f = none
  child : ∀ a c, s.objects a = some (.awaiter (some c)) →
    ∃ p, s.home a = some p ∧ s.continuationOf c = some p
  waits : ∀ a c p, ¬ loose a → s.objects a = some (.awaiter (some c)) → s.home a = some p →
    s.statusOf c = some .final ∨ a ∈ s.resetting ∨ s.statusOf p = some (.awaiting a) ∨ s.Unwinds p a
  parent : ∀ p a, s.statusOf p = some (.awaiting a) ∨ s.Unwinds p a →
    (∃ h, s.objects a = some (.awaiter h)) ∧ s.home a = some p ∧ a ∉ s.resetting

structure Coherent (s : State V E) : Prop where
  stacked : Stacked s
  owned : Owned (fun _ => False) s
  awaited : Awaited (fun _ => False) s

namespace State

variable {s s' : State V E} {f o : ℕ}

theorem mem_resetting : o ∈ s.resetting ↔ ∃ c ∈ s.stack, c.target = some o := by
  simp [resetting]

theorem coherent_init : Coherent (init : State V E) := by
  constructor
  · constructor <;> simp [init]
  · constructor <;> simp [init, handleOf, statusOf, kindOf]
  · constructor <;> simp [init, statusOf, Unwinds]

end State

variable {s s' : State V E} {f o t : ℕ}

/-- An object that is being reset holds a frame that is being destroyed. -/
theorem Stacked.resetting (h : Stacked s) (ho : o ∈ s.resetting) :
    ∃ f, s.handleOf o = some f ∧ s.statusOf f = some .destroying := by
  obtain ⟨c, hc, ht⟩ := State.mem_resetting.mp ho
  cases c with
  | body f => simp [Call.target] at ht
  | cleanup f a caller =>
    obtain ⟨hstatus, htarget, -⟩ := h.backs _ hc
    exact ⟨f, htarget o ht, hstatus⟩

/-- A frame that is neither running nor being destroyed is not on the stack. -/
theorem Stacked.not_mem (h : Stacked s) (hrunning : s.statusOf f ≠ some .running)
    (hdestroying : s.statusOf f ≠ some .destroying) : ∀ c ∈ s.stack, c.frame ≠ f := by
  intro c hc hf
  have hbacks := h.backs c hc
  cases c with
  | body g =>
    obtain rfl : g = f := hf
    exact hrunning hbacks
  | cleanup g a caller =>
    obtain rfl : g = f := hf
    exact hdestroying hbacks.1

namespace State

theorem objects_of_task {x : Task} (h : s.task o = some x) : s.objects o = some (.task x) := by
  unfold task at h
  split at h <;> simp_all

end State

theorem Owned.remove (h : Owned (· = t) s) : Owned (fun _ => False) (s.setObject t none) := by
  constructor
  case owned =>
    intro f k hk hd hs
    obtain ⟨o, ho, hf⟩ := h.owned f k hk hd hs
    exact ⟨o, not_false, by simp [ho, hf]⟩
  all_goals grind [Owned]

theorem Owned.transfer {x : Task} (h : Owned (· = t) s) (hne : t ≠ o) (ht : t < s.objectCount)
    (ho : s.objects o = some (.task x)) (hfree : o ∉ s.resetting) :
    Owned (fun _ => False) ((s.setObject t (some (.task x))).setObject o (some (.task {}))) := by
  have hx : s.handleOf o = x.handle_ := by simp [State.handleOf, ho, Owner.handle_]
  constructor
  case owned =>
    intro f k hk hd hs
    obtain ⟨i, hi, hf⟩ := h.owned f k hk hd hs
    by_cases hio : i = o
    · exact ⟨t, not_false, by simp [hne, Owner.handle_]; grind⟩
    · exact ⟨i, not_false, by simp [hi, hio, hf]⟩
  all_goals grind [Owned, Owner.handle_]

theorem State.Backs.congr {c : Call} (h : s.Backs c)
    (hstatus : s'.statusOf c.frame = s.statusOf c.frame)
    (hhandle : ∀ o, c.target = some o → s'.handleOf o = s.handleOf o) : s'.Backs c := by
  cases c with
  | body f => exact hstatus.trans h
  | cleanup f a caller =>
    obtain ⟨hf, htarget, hsource⟩ := h
    exact ⟨hstatus.trans hf, fun o ho => (hhandle o ho).trans (htarget o ho), hsource⟩

/-- The objects that are being reset keep their handles. -/
theorem Stacked.congr (h : Stacked s) (hstack : s'.stack = s.stack)
    (hstatus : ∀ c ∈ s.stack, s'.statusOf c.frame = s.statusOf c.frame)
    (hhandle : ∀ i ∈ s.resetting, s'.handleOf i = s.handleOf i) : Stacked s' := by
  constructor
  · exact hstack ▸ h.pairwise
  · intro c hc
    rw [hstack] at hc
    exact (h.backs c hc).congr (hstatus c hc) fun o ho =>
      hhandle o (State.mem_resetting.mpr ⟨c, hc, ho⟩)

theorem Stacked.setObject {y : Option Owner} (h : Stacked s) (ho : o ∉ s.resetting) :
    Stacked (s.setObject o y) := by
  refine Stacked.congr h rfl (fun _ _ => rfl) ?_
  grind

theorem Stacked.newObject {z : Owner} {home : Option ℕ} (h : Stacked s)
    (hfresh : s.objects s.objectCount = none) : Stacked (s.newObject z home) := by
  refine Stacked.congr h rfl (fun _ _ => rfl) ?_
  intro i hi
  have hne : i ≠ s.objectCount := by
    rintro rfl
    obtain ⟨f, hf, -⟩ := h.resetting hi
    simp [State.handleOf, hfresh] at hf
  simp [hne]

theorem Awaited.remove (h : Awaited (· = t) s) (hawait : ∀ p, s.statusOf p ≠ some (.awaiting t))
    (hunwind : ∀ p, ¬ s.Unwinds p t) : Awaited (fun _ => False) (s.setObject t none) := by
  constructor
  all_goals grind [Awaited]

theorem Awaited.transfer {x : Task} (h : Awaited (· = t) s) (hne : t ≠ o)
    (ho : s.objects o = some (.task x)) (hfree : o ∉ s.resetting)
    (hawait : ∀ p, s.statusOf p ≠ some (.awaiting t)) (hunwind : ∀ p, ¬ s.Unwinds p t) :
    Awaited (fun _ => False)
      ((s.setObject t (some (.task x))).setObject o (some (.task {}))) := by
  constructor
  all_goals grind [Awaited]

/-- The objects that go on empty, or not at all. -/
theorem Coherent.goOn {caller : Caller} (hstacked : Stacked s)
    (howned : Owned (fun o => caller.target = some o) s)
    (hawaited : Awaited (fun o => caller.target = some o) s)
    (hfree : ∀ o, caller.target = some o → o < s.objectCount ∧ o ∉ s.resetting ∧
      ∀ p, s.statusOf p ≠ some (.awaiting o) ∧ ¬ s.Unwinds p o)
    (hsource : ∀ o, caller.source = some o → caller.target ≠ some o ∧ o ∉ s.resetting)
    (hstep : s.goOn caller = some s') : Coherent s' := by
  cases caller with
  | destructor o =>
    obtain rfl : s.setObject o none = s' := by simpa [State.goOn] using hstep
    simp only [Caller.target, Option.some.injEq, eq_comm (a := o)] at howned hawaited hfree
    obtain ⟨-, hnot, hawait⟩ := hfree o rfl
    exact ⟨hstacked.setObject hnot, howned.remove,
      hawaited.remove (fun p => (hawait p).1) fun p => (hawait p).2⟩
  | assignment t o =>
    obtain ⟨x, hx, rfl⟩ := Option.map_eq_some_iff.mp hstep
    simp only [Caller.target, Option.some.injEq, eq_comm (a := t)] at howned hawaited hfree
    obtain ⟨hlt, hnot, hawait⟩ := hfree t rfl
    obtain ⟨hne, hfrees⟩ := hsource o rfl
    have hne : t ≠ o := by simpa [Caller.target] using hne
    have ho := State.objects_of_task hx
    exact ⟨(hstacked.setObject hnot).setObject hfrees, howned.transfer hne hlt ho hfrees,
      hawaited.transfer hne ho hfrees (fun p => (hawait p).1) fun p => (hawait p).2⟩
  | finalSuspend =>
    obtain rfl : s = s' := by simpa [State.goOn] using hstep
    exact ⟨hstacked, by simpa [Caller.target] using howned, by simpa [Caller.target] using hawaited⟩

theorem Stacked.first (h : Stacked s) (hhead : ∀ p a, ¬ s.Unwinds p a) :
    ∀ c ∈ s.stack, ∀ f a caller, c ≠ .cleanup f (some a) caller := by
  have hpairwise := h.pairwise
  rintro c hc f a caller rfl
  cases hstack : s.stack with
  | nil => simp [hstack] at hc
  | cons top rest =>
    rw [hstack] at hc hpairwise
    obtain rfl | hc := List.mem_cons.mp hc
    · exact hhead f a ⟨caller, by simp [hstack]⟩
    · exact ((List.pairwise_cons.mp hpairwise).1 _ hc).first f a caller rfl

/-- A new entry, for a frame that is not on the stack. -/
theorem Stacked.push {c : Call} (h : Stacked s) (hhead : ∀ p a, ¬ s.Unwinds p a)
    (hframe : ∀ c' ∈ s.stack, c'.frame ≠ c.frame)
    (hsource : ∀ o, c.source = some o → o ∉ s.resetting) (hstack : s'.stack = c :: s.stack)
    (hbacks : s'.Backs c) (hstatus : ∀ c' ∈ s.stack, s'.statusOf c'.frame = s.statusOf c'.frame)
    (hhandle : ∀ o ∈ s.resetting, s'.handleOf o = s.handleOf o) : Stacked s' := by
  constructor
  · rw [hstack, List.pairwise_cons]
    refine ⟨fun c' hc' => ⟨(hframe c' hc').symm, h.first hhead c' hc', fun o ho ht => ?_⟩,
      h.pairwise⟩
    exact hsource o ho (State.mem_resetting.mpr ⟨c', hc', ht⟩)
  · intro c' hc'
    rw [hstack] at hc'
    obtain rfl | hc' := List.mem_cons.mp hc'
    · exact hbacks
    · exact (h.backs c' hc').congr (hstatus c' hc') fun o ho =>
        hhandle o (State.mem_resetting.mpr ⟨c', hc', ho⟩)

@[simp]
theorem Status.awaiter_eq_some {x : Status} {a : ℕ} : x.awaiter = some a ↔ x = .awaiting a := by
  cases x <;> simp [Status.awaiter]

theorem Owned.destroying (h : Owned (fun _ => False) s) (ho : s.handleOf o = some f)
    (hstatus : ∀ g, s'.statusOf g = if g = f then some .destroying else s.statusOf g)
    (hkind : ∀ g, s'.kindOf g = s.kindOf g) (hobjects : ∀ i, s'.objects i = s.objects i)
    (hframes : s'.frameCount = s.frameCount) (hcount : s'.objectCount = s.objectCount)
    (hresetting : ∀ i, i ∈ s'.resetting ↔ i = o ∨ i ∈ s.resetting) :
    Owned (fun _ => False) s' := by
  have hhandle : ∀ i, s'.handleOf i = s.handleOf i := by simp [State.handleOf, hobjects]
  constructor
  case freshFrame =>
    intro g hg
    have hne : g ≠ f := by
      rintro rfl
      have hk := (h.kind o g id ho).1
      have := h.freshFrame g (hframes ▸ hg)
      simp_all [State.statusOf, State.kindOf]
    rw [hstatus, if_neg hne]
    exact h.freshFrame g (hframes ▸ hg)
  all_goals grind [Owned]

theorem Awaited.destroying {loose : ℕ → Prop} (hloose : ∀ i, loose i → i = o)
    (h : Awaited loose s) (howned : Owned (fun _ => False) s) (ho : s.handleOf o = some f)
    (hawait : ∀ p, s.statusOf p ≠ some (.awaiting o)) (hhead : ∀ p a, ¬ s.Unwinds p a)
    (hstatus : ∀ g, s'.statusOf g = if g = f then some .destroying else s.statusOf g)
    (hcont : ∀ g, s'.continuationOf g = s.continuationOf g) (hobjects : ∀ i, s'.objects i = s.objects i)
    (hhome : ∀ i, s'.home i = s.home i)
    (hresetting : ∀ i, i ∈ s'.resetting ↔ i = o ∨ i ∈ s.resetting)
    (hunwinds : ∀ p a, s'.Unwinds p a ↔ p = f ∧ s.statusOf f = some (.awaiting a)) :
    Awaited (fun _ => False) s' := by
  have hhandle : ∀ i, s'.handleOf i = s.handleOf i := by simp [State.handleOf, hobjects]
  have hhandleOf : ∀ i x, s.objects i = some x → s.handleOf i = x.handle_ := by
    simp +contextual [State.handleOf]
  constructor
  all_goals grind [Awaited, Owned, Owner.handle_]

/-- A frame is destroyed by the destructor or the assignment of its owner. -/
theorem Coherent.destroyFrame {caller : Caller} {events : List (Event V E)}
    (hstacked : Stacked s) (howned : Owned (fun _ => False) s)
    (hawaited : Awaited (fun o => caller.target = some o) s)
    (hhead : ∀ p a, ¬ s.Unwinds p a) (ho : caller.target = some o) (hf : s.handleOf o = some f)
    (hfree : o ∉ s.resetting) (hawait : ∀ p, s.statusOf p ≠ some (.awaiting o))
    (hsource : ∀ o, caller.source = some o → caller.target ≠ some o ∧ o ∉ s.resetting)
    (hstep : s.destroyFrame f caller = some (s', events)) : Coherent s' := by
  unfold State.destroyFrame at hstep
  split at hstep
  · cases hstep
  · rename_i x hx
    split at hstep
    · cases hstep
    · rename_i hrunning
      simp only [Option.some.injEq, Prod.mk.injEq] at hstep
      obtain ⟨rfl, -⟩ := hstep
      have hstatus : s.statusOf f = some x.status := by simp [State.statusOf, hx]
      have hdestroying : s.statusOf f ≠ some .destroying := fun h => hfree (howned.held o f id hf h)
      have hkind : s.kindOf f = some x.kind := by simp [State.kindOf, hx]
      have hcont : s.continuationOf f = x.continuation_ := by simp [State.continuationOf, hx]
      have hnot := hstacked.not_mem (f := f) (by simpa [hstatus] using hrunning) hdestroying
      refine ⟨?_, ?_, ?_⟩
      · refine hstacked.push (c := .cleanup f x.status.awaiter caller) hhead hnot
          (fun i hi => (hsource i hi).2) rfl ⟨by simp, ?_, fun i hi => (hsource i hi).1⟩ ?_ ?_
        · grind
        · intro c' hc'
          simp [hnot c' hc']
        · grind
      · refine howned.destroying hf (fun g => ?_) (fun g => ?_) (fun _ => rfl) rfl rfl
          fun i => ?_
        · simp
        · grind
        · simp [State.mem_resetting, Call.target, ho, eq_comm]
      · refine hawaited.destroying (o := o) (f := f) (fun i hi => ?_) howned hf hawait hhead
          (fun g => ?_) (fun g => ?_) (fun _ => rfl) (fun _ => rfl) (fun i => ?_) fun p a => ?_
        · simpa [ho] using hi.symm
        · simp
        · grind
        · simp [State.mem_resetting, Call.target, ho, eq_comm]
        · simp [State.Unwinds, hstatus, eq_comm (a := f)]

theorem Owned.loosen {loose : ℕ → Prop} (h : Owned (fun _ => False) s)
    (hnone : ∀ o, loose o → s.handleOf o = none) : Owned loose s := by
  constructor
  case owned =>
    intro f k hk hd hs
    obtain ⟨o, -, ho⟩ := h.owned f k hk hd hs
    exact ⟨o, fun hl => by simp [hnone o hl] at ho, ho⟩
  all_goals grind [Owned]

theorem Awaited.loosen {loose : ℕ → Prop} (h : Awaited (fun _ => False) s) : Awaited loose s := by
  constructor <;> grind [Awaited]

theorem Coherent.reset {caller : Caller} {events : List (Event V E)} {handle_ : Option ℕ}
    (hstacked : Stacked s) (howned : Owned (fun _ => False) s)
    (hawaited : Awaited (fun o => caller.target = some o) s)
    (hhead : ∀ p a, ¬ s.Unwinds p a) (ho : caller.target = some o) (hh : s.handleOf o = handle_)
    (hlt : o < s.objectCount) (hfree : o ∉ s.resetting)
    (hawait : ∀ p, s.statusOf p ≠ some (.awaiting o))
    (hsource : ∀ o, caller.source = some o → caller.target ≠ some o ∧ o ∉ s.resetting)
    (hstep : s.reset handle_ caller = some (s', events)) : Coherent s' := by
  cases handle_ with
  | some f =>
    exact Coherent.destroyFrame hstacked howned hawaited hhead ho hh hfree hawait hsource hstep
  | none =>
    obtain ⟨s₁, hs₁, heq⟩ := Option.map_eq_some_iff.mp hstep
    obtain ⟨rfl, -⟩ := Prod.mk.inj heq
    refine Coherent.goOn hstacked (howned.loosen fun i hi => ?_) hawaited (fun i hi => ?_) hsource hs₁
    · grind
    · obtain rfl : o = i := by simpa [ho] using hi
      exact ⟨hlt, hfree, fun p => ⟨hawait p, hhead p o⟩⟩

end NebulaRpc.Coro
