import NebulaRpc.Coro.Ownership

/-!
# The steps of a program keep the ownership

Each operation on tasks, each resumption and each end of a coroutine keeps the frames owned, the stack
in order and the waiting coroutines with their children, if it leaves the objects alone that are being
reset.
-/

namespace NebulaRpc.Coro

variable {V E : Type} {s s' : State V E} {f o t : ℕ}

theorem State.not_unwinds (h : s.atLiberty = true) (p a : ℕ) : ¬ s.Unwinds p a := by
  rintro ⟨caller, hhead⟩
  obtain ⟨rest, hstack⟩ := List.head?_eq_some_iff.mp hhead
  simp [State.atLiberty, hstack] at h

theorem State.lt_objectCount {loose : ℕ → Prop} {x : Owner} (h : Owned loose s)
    (ho : s.objects o = some x) : o < s.objectCount := by
  by_contra hle
  simp [h.freshObject o (by omega)] at ho

theorem Coherent.assign {source : ℕ} {events : List (Event V E)} (h : Coherent s)
    (hlib : s.atLiberty = true) (ht : t ≠ source → t ∉ s.resetting ∧ source ∉ s.resetting)
    (hstep : s.assign t source = some (s', events)) : Coherent s' := by
  unfold State.assign at hstep
  split at hstep
  · rename_i x y hx hy
    split at hstep
    · obtain ⟨rfl, -⟩ : s = s' ∧ [] = events := by simpa using hstep
      exact h
    · rename_i hne
      have hobj := State.objects_of_task hx
      refine Coherent.reset h.stacked h.owned h.awaited.loosen (State.not_unwinds hlib) (o := t) rfl
        (by simp [State.handleOf, hobj, Owner.handle_]) (State.lt_objectCount h.owned hobj)
        (ht hne).1 (fun p hp => ?_) (fun i hi => ?_) hstep
      · obtain ⟨⟨c, hc⟩, -⟩ := h.awaited.parent p t (.inl hp)
        simp [hobj] at hc
      · obtain rfl : source = i := by simpa [Caller.source] using hi
        exact ⟨by simpa [Caller.target] using hne, (ht hne).2⟩
  · cases hstep

theorem Coherent.destroy {events : List (Event V E)} (h : Coherent s) (hlib : s.atLiberty = true)
    (ho : o ∉ s.resetting) (hstep : s.destroy o = some (s', events)) : Coherent s' := by
  unfold State.destroy at hstep
  split at hstep
  · cases hstep
  · rename_i x hobj
    refine Coherent.reset h.stacked h.owned h.awaited.loosen (State.not_unwinds hlib) (o := o) rfl
      (by simp [State.handleOf, hobj, Owner.handle_]) (State.lt_objectCount h.owned hobj) ho
      (fun p hp => ?_) (fun i hi => by simp [Caller.source] at hi) hstep
    obtain ⟨⟨c, hc⟩, -⟩ := h.awaited.parent p o (.inl hp)
    simp [hobj] at hc
  · rename_i c hobj
    split at hstep
    · rename_i hhome
      obtain ⟨hhome, hsome⟩ := hhome
      refine Coherent.reset h.stacked h.owned h.awaited.loosen (State.not_unwinds hlib) (o := o) rfl
        (by simp [State.handleOf, hobj, Owner.handle_]) (State.lt_objectCount h.owned hobj) ho
        (fun p hp => ?_) (fun i hi => by simp [Caller.source] at hi) hstep
      -- the frame that the awaiter lives in is on top of the stack, so it is not suspended
      obtain ⟨-, hp', -⟩ := h.awaited.parent p o (.inl hp)
      obtain ⟨top, htop, hframe⟩ : ∃ top, s.stack.head? = some top ∧ top.frame = p := by
        simpa [hhome] using hp'
      exact h.stacked.not_mem (f := p) (by simp [hp]) (by simp [hp]) top
        (List.mem_of_mem_head? htop) hframe
    · cases hstep

theorem Coherent.unwind {events : List (Event V E)} (h : Coherent s)
    (hstep : s.unwind = some (s', events)) : Coherent s' := by
  unfold State.unwind at hstep
  split at hstep
  · rename_i f a caller rest hstack
    split at hstep
    · rename_i x hobj
      have hunwinds : s.Unwinds f a := ⟨caller, by simp [hstack]⟩
      obtain ⟨⟨c, hc⟩, hhome, hfree⟩ := h.awaited.parent f a (.inr hunwinds)
      have howned := h.owned
      have hawaited := h.awaited
      have hpairwise := h.stacked.pairwise
      rw [hstack, List.pairwise_cons] at hpairwise
      have hstatus : s.statusOf f = some .destroying := by
        have := h.stacked.backs (.cleanup f (some a) caller) (by simp [hstack])
        exact this.1
      have hresetting : (s.setStack (.cleanup f none caller :: rest)).resetting = s.resetting := by
        simp [State.resetting, hstack, List.filterMap_cons, Call.target]
      have hnot : ∀ p b, ¬ (s.setStack (.cleanup f none caller :: rest)).Unwinds p b := by
        simp [State.Unwinds]
      have hwas : ∀ p b, s.Unwinds p b → p = f ∧ b = a := by
        simp [State.Unwinds, hstack, eq_comm]
      refine Coherent.reset (o := a) ?_ ?_ ?_ hnot rfl
        (by simp [State.handleOf, hobj]) (by simpa using State.lt_objectCount h.owned hobj)
        (hresetting ▸ hfree) (fun p hp => ?_) (fun i hi => by simp [Caller.source] at hi) hstep
      · constructor
        · refine List.pairwise_cons.mpr ⟨fun c' hc' => ?_, hpairwise.2⟩
          obtain ⟨hframe, hfirst, hsource⟩ := hpairwise.1 c' hc'
          exact ⟨hframe, hfirst, hsource⟩
        · intro c' hc'
          obtain rfl | hc' := List.mem_cons.mp hc'
          · exact h.stacked.backs (.cleanup f (some a) caller) (by simp [hstack])
          · exact h.stacked.backs c' (by simp [hstack, hc'])
      · constructor
        case owned => exact howned.owned
        all_goals grind [Owned]
      · constructor <;> grind [Awaited, Caller.target]
      · obtain ⟨-, hp', -⟩ := h.awaited.parent p a (.inl hp)
        grind
    · cases hstep
  · cases hstep

theorem Coherent.newEmpty {z : Owner} {home : Option ℕ} (h : Coherent s) (hz : z.handle_ = none) :
    Coherent (s.newObject z home) := by
  obtain ⟨hstacked, howned, hawaited⟩ := h
  refine ⟨hstacked.newObject (howned.freshObject _ le_rfl), ?_, ?_⟩
  · constructor
    case owned =>
      intro f k hk hd hs
      obtain ⟨o, -, hf⟩ := howned.owned f k hk hd hs
      have hne : o ≠ s.objectCount := by
        rintro rfl
        simp [State.handleOf, howned.freshObject] at hf
      exact ⟨o, not_false, by simp [hne, hf]⟩
    all_goals grind [Owned, Owner.handle_]
  · constructor <;> grind [Awaited, Owned, Owner.handle_]

theorem Coherent.move {home : Option ℕ} (h : Coherent s) (ho : o ∉ s.resetting)
    (hstep : s.move o home = some s') : Coherent s' := by
  obtain ⟨t, ht, rfl⟩ := Option.map_eq_some_iff.mp hstep
  have hobj := State.objects_of_task ht
  have hhandle : s.handleOf o = t.handle_ := by simp [State.handleOf, hobj, Owner.handle_]
  have hlt := State.lt_objectCount h.owned hobj
  obtain ⟨hstacked, howned, hawaited⟩ := h
  refine ⟨(hstacked.setObject ho).newObject ?_, ?_, ?_⟩
  · have hne : s.objectCount ≠ o := by omega
    simp [hne, howned.freshObject]
  · constructor
    case owned =>
      intro f k hk hd hs
      obtain ⟨i, -, hf⟩ := howned.owned f k hk hd hs
      have hne : i ≠ s.objectCount := by
        rintro rfl
        simp [State.handleOf, howned.freshObject] at hf
      by_cases hi : i = o
      · exact ⟨s.objectCount, not_false, by simp [Owner.handle_]; grind⟩
      · exact ⟨i, not_false, by simp [hne, hi, hf]⟩
    all_goals grind [Owned, Owner.handle_]
  · constructor <;> grind [Awaited, Owned, Owner.handle_]

/-- The promise of a frame does not matter here. -/
theorem Coherent.congr (h : Coherent s) (hstatus : ∀ f, s'.statusOf f = s.statusOf f)
    (hkind : ∀ f, s'.kindOf f = s.kindOf f)
    (hcont : ∀ f, s'.continuationOf f = s.continuationOf f)
    (hobjects : ∀ i, s'.objects i = s.objects i) (hhome : ∀ i, s'.home i = s.home i)
    (hstack : s'.stack = s.stack) (hframes : s'.frameCount = s.frameCount)
    (hcount : s'.objectCount = s.objectCount) : Coherent s' := by
  obtain ⟨hstacked, howned, hawaited⟩ := h
  have hhandle : ∀ i, s'.handleOf i = s.handleOf i := by simp [State.handleOf, hobjects]
  have hresetting : s'.resetting = s.resetting := by simp [State.resetting, hstack]
  have hunwinds : ∀ p a, s'.Unwinds p a ↔ s.Unwinds p a := by simp [State.Unwinds, hstack]
  refine ⟨hstacked.congr hstack (fun _ _ => hstatus _) fun _ _ => hhandle _, ?_, ?_⟩
  · constructor
    case owned =>
      intro f k hk hd hs
      obtain ⟨o, ho, hf⟩ := howned.owned f k (hkind f ▸ hk) hd (hstatus f ▸ hs)
      exact ⟨o, ho, (hhandle o).trans hf⟩
    all_goals grind [Owned]
  · constructor <;> grind [Awaited]

theorem Coherent.setPromise {x y : Frame V E} (h : Coherent s) (hx : s.frames f = some x)
    (hkind : y.kind = x.kind) (hstatus : y.status = x.status)
    (hcont : y.continuation_ = x.continuation_) : Coherent (s.setFrame f y) := by
  have hk : s.kindOf f = some x.kind := by simp [State.kindOf, hx]
  have hs : s.statusOf f = some x.status := by simp [State.statusOf, hx]
  have hc : s.continuationOf f = x.continuation_ := by simp [State.continuationOf, hx]
  refine Coherent.congr h ?_ ?_ ?_ (fun _ => rfl) (fun _ => rfl) rfl rfl rfl <;> intro g <;> grind

theorem Frame.finalizeResult_snd (x : Frame V E) :
    x.finalizeResult.2.kind = x.kind ∧ x.finalizeResult.2.status = x.status ∧
      x.finalizeResult.2.continuation_ = x.continuation_ := by
  unfold Frame.finalizeResult
  split
  · exact ⟨rfl, rfl, rfl⟩
  · split <;> exact ⟨rfl, rfl, rfl⟩

theorem Coherent.finalize {x : Frame V E} (h : Coherent s) (hx : s.frames f = some x) :
    Coherent (s.finalize f x).1 := by
  obtain ⟨hk, hs, hc⟩ := x.finalizeResult_snd
  exact h.setPromise hx hk hs hc

theorem Coherent.result {events : List (Event V E)} (h : Coherent s)
    (hstep : s.result o = some (s', events)) : Coherent s' := by
  unfold State.result at hstep
  split at hstep
  · cases hstep
  · split at hstep
    · obtain ⟨rfl, -⟩ : s = s' ∧ [] = events := by simpa using hstep
      exact h
    · split at hstep
      · cases hstep
      · rename_i f hf x hx
        split at hstep
        · have h' := h.finalize hx
          simp only [Option.some.injEq] at hstep
          rwa [hstep] at h'
        · obtain ⟨rfl, -⟩ : s = s' ∧ [] = events := by simpa using hstep
          exact h

theorem State.top_eq_some {x : Frame V E} {rest : List Call} (h : s.top = some (f, x, rest)) :
    s.stack = .body f :: rest ∧ s.frames f = some x := by
  unfold State.top at h
  split at h
  · obtain ⟨y, hy, heq⟩ := Option.map_eq_some_iff.mp h
    obtain ⟨rfl, rfl, rfl⟩ : _ = f ∧ y = x ∧ _ = rest := by simpa using heq
    exact ⟨by assumption, hy⟩
  · cases h

theorem Coherent.returnValue {v : V} {events : List (Event V E)} (h : Coherent s)
    (hstep : s.returnValue v = some (s', events)) : Coherent s' := by
  obtain ⟨⟨f, x, rest⟩, htop, hstep⟩ := Option.bind_eq_some_iff.mp hstep
  obtain ⟨-, hx⟩ := State.top_eq_some htop
  dsimp only at hstep
  split at hstep
  · obtain ⟨rfl, -⟩ := Prod.mk.inj (Option.some.inj hstep)
    exact h.setPromise hx rfl rfl rfl
  · cases hstep

/-- A coroutine is resumed that has never run or waits for something else than a task. -/
theorem Coherent.resume {x : Frame V E} (h : Coherent s) (hlib : s.atLiberty = true)
    (hx : s.frames f = some x) (hstatus : x.status = .initial ∨ x.status = .suspended)
    (hflag : ∀ o, s.objects o ≠ some (.task { handle_ := some f })) : Coherent (s.resume f x) := by
  obtain ⟨hstacked, howned, hawaited⟩ := h
  have hs : s.statusOf f = some x.status := by simp [State.statusOf, hx]
  have hk : s.kindOf f = some x.kind := by simp [State.kindOf, hx]
  have hc : s.continuationOf f = x.continuation_ := by simp [State.continuationOf, hx]
  have hnot := State.not_unwinds hlib
  have hnot' : ∀ p a, ¬ (s.resume f x).Unwinds p a := by simp [State.resume, State.Unwinds]
  have hresetting : (s.resume f x).resetting = s.resetting := by
    simp [State.resume, State.resetting, List.filterMap_cons, Call.target]
  have hframes := hstacked.not_mem (f := f) (by grind) (by grind)
  refine ⟨hstacked.push (c := .body f) hnot hframes (by simp [Call.source]) rfl ?_ ?_ ?_, ?_, ?_⟩
  · simp [State.Backs, State.resume]
  · intro c' hc'
    simp [State.resume, hframes c' hc']
  · simp [State.resume]
  · constructor
    case owned =>
      intro g k hk' hd hs'
      obtain ⟨o, -, ho⟩ := howned.owned g k (by grind [State.resume]) hd (by grind [State.resume])
      exact ⟨o, not_false, ho⟩
    all_goals grind [Owned, State.resume]
  · constructor <;> grind [Awaited, State.resume]

theorem State.Reads {x : Frame V E} (hx : s.frames f = some x) : s.statusOf f = some x.status ∧
    s.kindOf f = some x.kind ∧ s.continuationOf f = x.continuation_ := by
  simp [State.statusOf, State.kindOf, State.continuationOf, hx]

theorem Coherent.setStarted {t : Task} (h : Coherent s) (ho : s.objects o = some (.task t)) :
    Coherent (s.setObject o (some (.task { t with started_ := true }))) := by
  obtain ⟨hstacked, howned, hawaited⟩ := h
  have hhandle : s.handleOf o = t.handle_ := by simp [State.handleOf, ho, Owner.handle_]
  have hlt := State.lt_objectCount howned ho
  refine ⟨Stacked.congr hstacked rfl (fun _ _ => rfl) fun i hi => ?_, ?_, ?_⟩
  · grind [Owner.handle_]
  · constructor
    case owned =>
      intro f k hk hd hs
      obtain ⟨i, -, hf⟩ := howned.owned f k hk hd hs
      refine ⟨i, not_false, ?_⟩
      grind [Owner.handle_]
    all_goals grind [Owned, Owner.handle_]
  · constructor <;> grind [Awaited, Owner.handle_]

theorem Coherent.start {events : List (Event V E)} (h : Coherent s) (hlib : s.atLiberty = true)
    (ho : ∀ t, s.task o = some t → t.started_ = false → o ∉ s.resetting)
    (hstep : s.start o = some (s', events)) : Coherent s' := by
  unfold State.start at hstep
  split at hstep
  · cases hstep
  · rename_i t ht
    split at hstep
    · obtain ⟨rfl, -⟩ : s = s' ∧ [] = events := by simpa using hstep
      exact h
    · rename_i f hf
      split at hstep
      · cases hstep
      · rename_i x hx
        split at hstep
        · obtain ⟨rfl, -⟩ : s = s' ∧ [] = events := by simpa using hstep
          exact h
        · rename_i hnot
          obtain ⟨rfl, -⟩ := Prod.mk.inj (Option.some.inj hstep)
          obtain ⟨hstarted, -⟩ := not_or.mp hnot
          have hstarted : t.started_ = false := by simpa using hstarted
          have hfree := ho t ht hstarted
          obtain rfl : t = { handle_ := some f } := by
            cases t
            simp_all
          have hobj := State.objects_of_task ht
          have hinitial : s.statusOf f = some .initial :=
            (h.awaited.flag o f not_false hobj).resolve_right hfree
          refine (h.setStarted hobj).resume hlib hx (.inl ?_) fun i hi => ?_
          · simpa [(State.Reads hx).1] using hinitial
          · have hunique := h.owned.unique i o f not_false not_false
            simp only [State.handleOf, hobj, State.objects_setObject] at hunique hi
            grind [Owner.handle_]

theorem Coherent.resumeSuspended {events : List (Event V E)} (h : Coherent s)
    (hlib : s.atLiberty = true) (hstep : s.resumeSuspended f = some (s', events)) :
    Coherent s' := by
  unfold State.resumeSuspended at hstep
  split at hstep
  · rename_i x hx
    split at hstep
    · rename_i hsuspended
      obtain ⟨rfl, -⟩ := Prod.mk.inj (Option.some.inj hstep)
      refine h.resume hlib hx (.inr hsuspended) fun o ho => ?_
      have hflag := h.awaited.flag o f not_false ho
      have hheld : ∀ g, s.handleOf o = some g → s.statusOf g = some .destroying → g = f := by
        simp [State.handleOf, ho, Owner.handle_, eq_comm]
      have hread := (State.Reads hx).1
      obtain hinitial | hmem := hflag
      · simp [hread, hsuspended] at hinitial
      · obtain ⟨g, hg, hdestroying⟩ := h.stacked.resetting hmem
        obtain rfl := hheld g hg hdestroying
        simp [hread, hsuspended] at hdestroying
    · cases hstep
  · cases hstep

/-- The stack without its top entry. -/
theorem Stacked.pop {c : Call} {rest : List Call} (h : Stacked s) (hs : s.stack = c :: rest) :
    Stacked (s.setStack rest) ∧ (∀ c' ∈ rest, c'.frame ≠ c.frame) ∧
      ∀ p a, ¬ (s.setStack rest).Unwinds p a := by
  have hpairwise := h.pairwise
  rw [hs, List.pairwise_cons] at hpairwise
  refine ⟨⟨hpairwise.2, fun c' hc' => ?_⟩, fun c' hc' => (hpairwise.1 c' hc').frame.symm, ?_⟩
  · exact h.backs c' (hs ▸ List.mem_cons_of_mem c hc')
  · rintro p a ⟨caller, hhead⟩
    exact (hpairwise.1 _ (List.mem_of_mem_head? hhead)).first p a caller rfl

theorem Coherent.suspend {events : List (Event V E)} (h : Coherent s)
    (hstep : s.suspend = some (s', events)) : Coherent s' := by
  obtain ⟨⟨f, x, rest⟩, htop, hstep⟩ := Option.map_eq_some_iff.mp hstep
  obtain ⟨rfl, -⟩ := Prod.mk.inj hstep
  obtain ⟨hs, hx⟩ := State.top_eq_some htop
  obtain ⟨hstacked, howned, hawaited⟩ := h
  obtain ⟨hrunning, hkind, hcont⟩ := State.Reads hx
  have hbody : s.statusOf f = some .running := hstacked.backs (.body f) (by simp [hs])
  obtain ⟨hpop, hne, hnot⟩ := hstacked.pop hs
  have hresetting : ∀ i, i ∈ ((s.setFrame f { x with status := .suspended }).setStack
      rest).resetting ↔ i ∈ s.resetting := by
    simp [State.resetting, hs, List.filterMap_cons, Call.target]
  have hwas : ∀ p a, ¬ s.Unwinds p a := by simp [State.Unwinds, hs]
  have hnot' : ∀ p a, ¬ ((s.setFrame f { x with status := .suspended }).setStack rest).Unwinds p a :=
    hnot
  refine ⟨Stacked.congr hpop rfl (fun c hc => ?_) fun _ _ => rfl, ?_, ?_⟩
  · simp [show c.frame ≠ f from hne c hc]
  · constructor
    case owned =>
      intro g k hk hd hs'
      exact howned.owned g k (by grind) hd (by grind)
    all_goals grind [Owned]
  · constructor <;> grind [Awaited]

theorem Coherent.create {kind : Kind} {home : Option ℕ} (h : Coherent s)
    (hlib : s.atLiberty = true) : Coherent (s.create kind home) := by
  obtain ⟨hstacked, howned, hawaited⟩ := h
  have hnone : s.statusOf s.frameCount = none := howned.freshFrame _ le_rfl
  have hkindnone : s.kindOf s.frameCount = none := by
    simpa [State.kindOf, State.statusOf] using hnone
  have hcontnone : s.continuationOf s.frameCount = none := by
    simp_all [State.continuationOf, State.statusOf]
  have hnot := State.not_unwinds hlib
  have hfresh := hstacked.not_mem (f := s.frameCount) (by simp [hnone]) (by simp [hnone])
  have htask : ∀ k, k ≠ .detached → Coherent ((s.newFrame { kind := k }).newObject
      (.task { handle_ := some s.frameCount }) home) := by
    intro k hk
    refine ⟨Stacked.newObject (Stacked.congr hstacked rfl (fun c hc => ?_) fun _ _ => rfl)
      (howned.freshObject _ le_rfl), ?_, ?_⟩
    · simp [hfresh c hc]
    · constructor
      case owned =>
        intro f k' hk' hd hs
        by_cases hf : f = s.frameCount
        · exact ⟨s.objectCount, not_false, by simp [hf, Owner.handle_]⟩
        · obtain ⟨o, -, ho⟩ := howned.owned f k' (by grind) hd (by grind)
          have hne : o ≠ s.objectCount := by
            rintro rfl
            simp [State.handleOf, howned.freshObject] at ho
          exact ⟨o, not_false, by simp [hne, ho]⟩
      all_goals grind [Owned, Owner.handle_]
    · constructor <;> grind [Awaited, Owned, Owner.handle_]
  cases kind with
  | value => exact htask _ (by simp)
  | void => exact htask _ (by simp)
  | detached =>
    have hresetting : ∀ i, i ∈ ((s.newFrame { kind := .detached, status := .running }).setStack
        (.body s.frameCount :: s.stack)).resetting ↔ i ∈ s.resetting := by
      simp [State.resetting, List.filterMap_cons, Call.target]
    have hnot' : ∀ p a, ¬ ((s.newFrame { kind := .detached, status := .running }).setStack
        (.body s.frameCount :: s.stack)).Unwinds p a := by simp [State.Unwinds]
    refine ⟨hstacked.push (c := .body s.frameCount) hnot hfresh (by simp [Call.source]) rfl ?_ ?_ ?_,
      ?_, ?_⟩
    · simp [State.Backs, State.create]
    · intro c hc
      simp [State.create, hfresh c hc]
    · simp [State.create]
    · constructor
      case owned =>
        intro f k hk hd hs
        have hf : f ≠ s.frameCount := by
          rintro rfl
          simp [State.create] at hk
          exact hd hk.symm
        simp only [State.create] at hk hs
        exact howned.owned f k (by grind) hd (by grind)
      all_goals grind [Owned, State.create]
    · constructor <;> grind [Awaited, Owned, State.create]

/-- A task that has not been started gives its coroutine to an awaiter, and the coroutine runs. -/
theorem Coherent.transferTo {p c : ℕ} {x y : Frame V E} {rest : List Call} (h : Coherent s)
    (hs : s.stack = .body p :: rest) (hx : s.frames p = some x) (hy : s.frames c = some y)
    (hobj : s.objects o = some (.task { handle_ := some c })) (hfree : o ∉ s.resetting) :
    Coherent (((((s.setObject o (some (.task { started_ := true }))).newObject
      (.awaiter (some c)) (some p)).setFrame p { x with status := .awaiting s.objectCount }).setFrame c
        { y with status := .running, continuation_ := some p }).setStack (.body c :: rest)) := by
  obtain ⟨hstacked, howned, hawaited⟩ := h
  obtain ⟨hstatusp, hkindp, hcontp⟩ := State.Reads hx
  obtain ⟨hstatusc, hkindc, hcontc⟩ := State.Reads hy
  have hrunning : s.statusOf p = some .running := hstacked.backs (.body p) (by simp [hs])
  have hinitial : s.statusOf c = some .initial :=
    (hawaited.flag o c not_false hobj).resolve_right hfree
  have hpc : p ≠ c := by
    rintro rfl
    simp [hrunning] at hinitial
  have hhandle : s.handleOf o = some c := by simp [State.handleOf, hobj, Owner.handle_]
  have hlt := State.lt_objectCount howned hobj
  have hfresh := howned.freshObject _ le_rfl
  have hcnot := hstacked.not_mem (f := c) (by simp [hinitial]) (by simp [hinitial])
  have hcrest : ∀ c' ∈ rest, c'.frame ≠ c := fun c' hc' => hcnot c' (hs ▸ List.mem_cons_of_mem _ hc')
  have hcountfree : s.objectCount ∉ s.resetting := by
    intro hmem
    obtain ⟨f, hf, -⟩ := hstacked.resetting hmem
    simp [State.handleOf, hfresh] at hf
  obtain ⟨hpop, hne, hnot⟩ := hstacked.pop hs
  have hresettings : s.resetting = (s.setStack rest).resetting := by
    simp [State.resetting, hs, List.filterMap_cons, Call.target]
  have hwas : ∀ q a, ¬ s.Unwinds q a := by simp [State.Unwinds, hs]
  obtain ⟨s', hs'⟩ : ∃ s', s' = ((((s.setObject o (some (.task { started_ := true }))).newObject
      (.awaiter (some c)) (some p)).setFrame p { x with status := .awaiting s.objectCount }).setFrame
        c { y with status := .running, continuation_ := some p }).setStack (.body c :: rest) := ⟨_, rfl⟩
  have hresetting : ∀ i, i ∈ s'.resetting ↔ i ∈ s.resetting := by
    rw [hs', hresettings]
    simp [State.resetting, List.filterMap_cons, Call.target]
  have hnot' : ∀ q a, ¬ s'.Unwinds q a := by simp [hs', State.Unwinds]
  have hcount : s'.objectCount = s.objectCount + 1 := by simp [hs']
  have hframes : s'.frameCount = s.frameCount := by simp [hs']
  have hstatus : ∀ g, s'.statusOf g = if g = c then some .running else if g = p then
      some (.awaiting s.objectCount) else s.statusOf g := by simp [hs']
  have hkind : ∀ g, s'.kindOf g = s.kindOf g := by
    intro g
    rw [hs']
    grind
  have hcont : ∀ g, s'.continuationOf g = if g = c then some p else s.continuationOf g := by
    intro g
    rw [hs']
    grind
  have hobjects : ∀ i, s'.objects i = if i = s.objectCount then some (.awaiter (some c)) else
      if i = o then some (.task { started_ := true }) else s.objects i := by simp [hs']
  have hhandles : ∀ i, s'.handleOf i = if i = s.objectCount then some c else
      if i = o then none else s.handleOf i := by
    intro i
    rw [hs']
    grind [Owner.handle_]
  have hhome : ∀ i, s'.home i = if i = s.objectCount then some p else s.home i := by
    intro i
    rw [hs']
    grind
  have hhandleOf : ∀ i z, s.objects i = some z → s.handleOf i = z.handle_ := by
    simp +contextual [State.handleOf]
  rw [← hs']
  refine ⟨hpop.push (c := .body c) hnot hcrest (by simp [Call.source]) (by simp [hs']) ?_ ?_ ?_,
    ?_, ?_⟩
  · simp [State.Backs, hstatus]
  · intro c' hc'
    rw [hstatus, if_neg (hcrest c' hc'), if_neg (show c'.frame ≠ p from hne c' hc')]
    rfl
  · intro i hi
    rw [← hresettings] at hi
    have hi' : i ≠ s.objectCount := fun heq => hcountfree (heq ▸ hi)
    rw [hhandles, if_neg hi', if_neg (by rintro rfl; exact hfree hi)]
    rfl
  · constructor
    case owned =>
      intro g k hk hd hg
      by_cases hgc : g = c
      · exact ⟨s.objectCount, not_false, by simp [hhandles, hgc]⟩
      · obtain ⟨i, -, hi⟩ := howned.owned g k (hkind g ▸ hk) hd (by grind)
        refine ⟨i, not_false, ?_⟩
        grind [State.handleOf]
    all_goals grind [Owned]
  · constructor
    case waits =>
      intro a d q _ ha hq
      by_cases hac : a = s.objectCount
      · grind
      · have hold : s.objects a = some (.awaiter (some d)) := by grind
        have hwait := hawaited.waits a d q not_false hold (by grind)
        grind
    all_goals grind [Awaited, Owned, Owner.handle_]

theorem Coherent.coAwait {events : List (Event V E)} (h : Coherent s)
    (ho : ∀ t, s.task o = some t → t.started_ = false → o ∉ s.resetting)
    (hstep : s.coAwait o = some (s', events)) : Coherent s' := by
  unfold State.coAwait at hstep
  split at hstep
  · rename_i p rest t hs ht
    have hobj := State.objects_of_task ht
    split at hstep
    · obtain ⟨rfl, -⟩ : s = s' ∧ [] = events := by simpa using hstep
      exact h
    · rename_i hstarted
      have hfree := ho t ht (by simpa using hstarted)
      split at hstep
      · rename_i hnone
        obtain ⟨rfl, -⟩ := Prod.mk.inj (Option.some.inj hstep)
        have hset := h.setStarted hobj
        rw [hnone] at hset
        exact hset.newEmpty (by simp [hnone, Owner.handle_])
      · rename_i c hc
        obtain rfl : t = { handle_ := some c } := by
          cases t
          simp_all
        split at hstep
        · rename_i x y hx hy
          have hinitial := (h.awaited.flag o c not_false hobj).resolve_right hfree
          rw [(State.Reads hy).1, Option.some.injEq] at hinitial
          rw [if_neg (by simp [hinitial])] at hstep
          obtain ⟨rfl, -⟩ := Prod.mk.inj (Option.some.inj hstep)
          exact h.transferTo hs hx hy hobj hfree
        · cases hstep
  · cases hstep

/-- The coroutine that waits for the one that is running is suspended in its `co_await`. -/
theorem Coherent.waiting {p : ℕ} {rest : List Call} {k : Kind} (h : Coherent s)
    (hs : s.stack = .body f :: rest) (hkind : s.kindOf f = some k) (hk : k ≠ .detached)
    (hcont : s.continuationOf f = some p) :
    ∃ a, s.objects a = some (.awaiter (some f)) ∧ s.home a = some p ∧
      s.statusOf p = some (.awaiting a) := by
  have hrunning : s.statusOf f = some .running := h.stacked.backs (.body f) (by simp [hs])
  obtain ⟨a, -, ha⟩ := h.owned.owned f k hkind hk (by simp [hrunning])
  obtain ⟨z, hz, hzf⟩ := Option.bind_eq_some_iff.mp ha
  cases z with
  | task t => simp [h.awaited.alone a t f hz hzf] at hcont
  | awaiter c =>
    obtain rfl : c = some f := hzf
    obtain ⟨p', hhome, hp'⟩ := h.awaited.child a f hz
    obtain rfl : p' = p := by simpa [hcont] using hp'.symm
    refine ⟨a, hz, hhome, ?_⟩
    obtain hfinal | hmem | hawaiting | ⟨caller, hhead⟩ := h.awaited.waits a f p' not_false hz hhome
    · simp [hrunning] at hfinal
    · obtain ⟨g, hg, hdestroying⟩ := h.stacked.resetting hmem
      obtain rfl : f = g := by simpa [ha] using hg
      simp [hrunning] at hdestroying
    · exact hawaiting
    · simp [hs] at hhead

theorem Coherent.finalSuspend_alone {x : Frame V E} {rest : List Call} (h : Coherent s)
    (hs : s.stack = .body f :: rest) (hkind : s.kindOf f = some x.kind)
    (hcont : s.continuationOf f = x.continuation_) :
    Coherent ((s.setFrame f { x with status := .final }).setStack rest) := by
  obtain ⟨hstacked, howned, hawaited⟩ := h
  have hrunning : s.statusOf f = some .running := hstacked.backs (.body f) (by simp [hs])
  obtain ⟨hpop, hne, hnot⟩ := hstacked.pop hs
  have hresetting : ∀ i, i ∈ ((s.setFrame f { x with status := .final }).setStack
      rest).resetting ↔ i ∈ s.resetting := by
    simp [State.resetting, hs, List.filterMap_cons, Call.target]
  have hwas : ∀ p a, ¬ s.Unwinds p a := by simp [State.Unwinds, hs]
  have hnot' : ∀ p a, ¬ ((s.setFrame f { x with status := .final }).setStack rest).Unwinds p a :=
    hnot
  refine ⟨Stacked.congr hpop rfl (fun c hc => ?_) fun _ _ => rfl, ?_, ?_⟩
  · simp [show c.frame ≠ f from hne c hc]
  · constructor
    case owned =>
      intro g k hk hd hs'
      exact howned.owned g k (by grind) hd (by grind)
    all_goals grind [Owned]
  · constructor <;> grind [Awaited]

theorem Coherent.finalSuspend_detached {x : Frame V E} {rest : List Call} (h : Coherent s)
    (hs : s.stack = .body f :: rest) (hkind : s.kindOf f = some x.kind) (hx : x.kind = .detached)
    (hcont : s.continuationOf f = x.continuation_) :
    Coherent ((s.setFrame f { x with status := .destroying }).setStack
      (.cleanup f none .finalSuspend :: rest)) := by
  obtain ⟨hstacked, howned, hawaited⟩ := h
  have hrunning : s.statusOf f = some .running := hstacked.backs (.body f) (by simp [hs])
  obtain ⟨hpop, hne, hnot⟩ := hstacked.pop hs
  have hresetting : ∀ i, i ∈ ((s.setFrame f { x with status := .destroying }).setStack
      (.cleanup f none .finalSuspend :: rest)).resetting ↔ i ∈ s.resetting := by
    simp [State.resetting, hs, List.filterMap_cons, Call.target, Caller.target]
  have hwas : ∀ p a, ¬ s.Unwinds p a := by simp [State.Unwinds, hs]
  have hnot' : ∀ p a, ¬ ((s.setFrame f { x with status := .destroying }).setStack
      (.cleanup f none .finalSuspend :: rest)).Unwinds p a := by simp [State.Unwinds]
  refine ⟨hpop.push (c := .cleanup f none .finalSuspend) hnot (fun c hc => hne c hc)
    (by simp [Call.source, Caller.source]) rfl ?_ (fun c hc => ?_) fun _ _ => rfl, ?_, ?_⟩
  · simp [State.Backs, Caller.target, Caller.source]
  · simp [show c.frame ≠ f from hne c hc]
  · constructor
    case owned =>
      intro g k hk hd hs'
      exact howned.owned g k (by grind) hd (by grind)
    all_goals grind [Owned]
  · constructor
    case waits =>
      intro a c q _ ha hq
      -- nobody owns a detached coroutine, so it is not the child of the awaiter
      have hc : c ≠ f := by
        rintro rfl
        have hkind' := (howned.kind a c not_false
          (by simp [State.handleOf, show s.objects a = _ from ha, Owner.handle_])).2
        simp [hkind, hx] at hkind'
      grind [Awaited]
    all_goals grind [Awaited]

theorem Coherent.finalSuspend_continuation {p a : ℕ} {x y : Frame V E} {rest : List Call}
    (h : Coherent s) (hs : s.stack = .body f :: rest) (hkind : s.kindOf f = some x.kind)
    (hcont : s.continuationOf f = x.continuation_) (hy : s.frames p = some y)
    (ha : s.objects a = some (.awaiter (some f))) (hhome : s.home a = some p)
    (hp : s.statusOf p = some (.awaiting a)) :
    Coherent (((s.setFrame f { x with status := .final }).setFrame p
      { y with status := .running }).setStack (.body p :: rest)) := by
  obtain ⟨hstacked, howned, hawaited⟩ := h
  obtain ⟨-, hkindp, hcontp⟩ := State.Reads hy
  have hrunning : s.statusOf f = some .running := hstacked.backs (.body f) (by simp [hs])
  have hpf : p ≠ f := by
    rintro rfl
    simp [hrunning] at hp
  obtain ⟨hpop, hne, hnot⟩ := hstacked.pop hs
  have hpnot := hstacked.not_mem (f := p) (by simp [hp]) (by simp [hp])
  have hprest : ∀ c ∈ rest, c.frame ≠ p := fun c hc => hpnot c (hs ▸ List.mem_cons_of_mem _ hc)
  have hresetting : ∀ i, i ∈ (((s.setFrame f { x with status := .final }).setFrame p
      { y with status := .running }).setStack (.body p :: rest)).resetting ↔ i ∈ s.resetting := by
    simp [State.resetting, hs, List.filterMap_cons, Call.target]
  have hwas : ∀ q b, ¬ s.Unwinds q b := by simp [State.Unwinds, hs]
  have hnot' : ∀ q b, ¬ (((s.setFrame f { x with status := .final }).setFrame p
      { y with status := .running }).setStack (.body p :: rest)).Unwinds q b := by
    simp [State.Unwinds]
  refine ⟨hpop.push (c := .body p) hnot hprest (by simp [Call.source]) rfl ?_ (fun c hc => ?_)
    fun _ _ => rfl, ?_, ?_⟩
  · simp [State.Backs]
  · simp [hprest c hc, show c.frame ≠ f from hne c hc]
  · constructor
    case owned =>
      intro g k hk hd hs'
      exact howned.owned g k (by grind) hd (by grind)
    all_goals grind [Owned]
  · constructor
    case waits =>
      intro b d q _ hb hq
      -- of the awaiters in the parent only that of the child was waited for
      have hwait := hawaited.waits b d q not_false hb hq
      have hsame : b = a → d = f := by
        rintro rfl
        simpa [ha] using hb.symm
      grind
    all_goals grind [Awaited]

theorem Coherent.finalSuspend {x : Frame V E} {rest : List Call} {events : List (Event V E)}
    (h : Coherent s) (hs : s.stack = .body f :: rest) (hkind : s.kindOf f = some x.kind)
    (hcont : s.continuationOf f = x.continuation_)
    (hstep : s.finalSuspend f x rest = some (s', events)) : Coherent s' := by
  unfold State.finalSuspend at hstep
  split at hstep
  · rename_i hx
    obtain ⟨rfl, -⟩ := Prod.mk.inj (Option.some.inj hstep)
    exact h.finalSuspend_detached hs hkind hx hcont
  · obtain ⟨rfl, -⟩ := Prod.mk.inj (Option.some.inj hstep)
    exact h.finalSuspend_alone hs hkind hcont
  · rename_i p hp hdetached
    obtain ⟨a, ha, hhome, hawaiting⟩ := h.waiting hs hkind hdetached (hcont.trans hp)
    have hrunning : s.statusOf f = some .running := h.stacked.backs (.body f) (by simp [hs])
    have hpf : p ≠ f := by
      rintro rfl
      simp [hrunning] at hawaiting
    have hframe : (s.setFrame f { x with status := .final }).frames p = s.frames p := by
      simp [State.setFrame, hpf]
    simp only [hframe] at hstep
    split at hstep
    · cases hstep
    · rename_i y hy
      obtain ⟨rfl, -⟩ := Prod.mk.inj (Option.some.inj hstep)
      have hstatus : y.status = .awaiting a := by simpa [(State.Reads hy).1] using hawaiting
      have hnext := h.finalSuspend_continuation hs hkind hcont hy ha hhome hawaiting
      simp only [hstatus, State.awaitResume, State.objects_setStack, State.objects_setFrame, ha]
      split
      · rename_i z hz
        exact hnext.finalize hz
      · exact hnext

theorem Coherent.finish {events : List (Event V E)} (h : Coherent s)
    (hstep : s.finish = some (s', events)) : Coherent s' := by
  obtain ⟨⟨f, x, rest⟩, htop, hstep⟩ := Option.bind_eq_some_iff.mp hstep
  obtain ⟨hs, hx⟩ := State.top_eq_some htop
  dsimp only at hstep
  split at hstep
  · cases hstep
  · exact h.finalSuspend hs (State.Reads hx).2.1 (State.Reads hx).2.2 hstep

theorem Coherent.unhandledException {e : E} {events : List (Event V E)} (h : Coherent s)
    (hstep : s.unhandledException e = some (s', events)) : Coherent s' := by
  obtain ⟨⟨f, x, rest⟩, htop, hstep⟩ := Option.bind_eq_some_iff.mp hstep
  obtain ⟨hs, hx⟩ := State.top_eq_some htop
  dsimp only at hstep
  split at hstep
  · cases hstep
  · obtain ⟨⟨s₁, events₁⟩, hfinal, heq⟩ := Option.map_eq_some_iff.mp hstep
    obtain ⟨rfl, -⟩ := Prod.mk.inj heq
    exact h.finalSuspend (x := { x with exception_ := some e }) hs (State.Reads hx).2.1
      (State.Reads hx).2.2 hfinal

/-- The frame is gone, and so is the handle. -/
theorem Coherent.leave {events : List (Event V E)} (h : Coherent s)
    (hstep : s.leave = some (s', events)) : Coherent s' := by
  unfold State.leave at hstep
  split at hstep
  · rename_i f caller rest hs
    split at hstep
    · cases hstep
    · rename_i x hx
      split at hstep
      · rename_i hempty
        obtain ⟨s₁, hgo, heq⟩ := Option.map_eq_some_iff.mp hstep
        obtain ⟨rfl, -⟩ := Prod.mk.inj heq
        obtain ⟨hstacked, howned, hawaited⟩ := h
        obtain ⟨-, hkind, hcont⟩ := State.Reads hx
        obtain ⟨hstatus, htarget, hsource⟩ := hstacked.backs (.cleanup f none caller) (by simp [hs])
        obtain ⟨hpop, hne, hnot⟩ := hstacked.pop hs
        have hpairwise := hstacked.pairwise
        rw [hs, List.pairwise_cons] at hpairwise
        have hrest : ∀ i, i ∈ (s.setStack rest).resetting → s.handleOf i ≠ some f := by
          intro i hi hif
          obtain ⟨c, hc, ht⟩ := State.mem_resetting.mp hi
          have hbacks := hpop.backs c hc
          cases c with
          | body g => simp [Call.target] at ht
          | cleanup g a caller' =>
            have hig := hbacks.2.1 i ht
            obtain rfl : f = g := by simpa [hif] using hig
            exact hne _ hc rfl
        have hresetting : ∀ i, i ∈ s.resetting ↔ caller.target = some i ∨
            i ∈ (s.setStack rest).resetting := by
          simp [State.mem_resetting, hs, Call.target]
        have hholder : ∀ i, s.handleOf i = some f → caller.target = some i := by
          intro i hi
          exact ((hresetting i).mp (howned.held i f not_false hi hstatus)).resolve_right
            fun hmem => hrest i hmem hi
        have hwas : ∀ p a, ¬ s.Unwinds p a := by simp [State.Unwinds, hs]
        have hsame : ((s.setFrame f { x with status := .destroyed }).setStack rest).resetting =
            (s.setStack rest).resetting := rfl
        have hnot' : ∀ p a, ¬ ((s.setFrame f { x with status := .destroyed }).setStack
            rest).Unwinds p a := hnot
        refine Coherent.goOn ?_ ?_ ?_ (fun o ho => ?_) (fun o ho => ?_) hgo
        · refine Stacked.congr hpop rfl (fun c hc => ?_) fun _ _ => rfl
          simp [show c.frame ≠ f from hne c hc]
        · constructor
          case owned =>
            intro g k hk hd hg
            have hgf : g ≠ f := by
              rintro rfl
              simp at hg
            obtain ⟨o, -, ho⟩ := howned.owned g k (by grind) hd (by grind)
            refine ⟨o, fun htar => hgf ?_, ho⟩
            simpa [htarget o htar] using ho.symm
          all_goals grind [Owned]
        · have hhandleOf : ∀ i z, s.objects i = some z → s.handleOf i = z.handle_ := by
            simp +contextual [State.handleOf]
          constructor
          case waits =>
            intro a c p hloose ha hp
            have hpf : p ≠ f := by
              rintro rfl
              exact hempty a (State.lt_objectCount howned ha) (by simp [show s.objects a = _ from ha]) hp
            have hcf : c ≠ f := by
              rintro rfl
              exact hloose (hholder a (hhandleOf a _ ha))
            have hwait := hawaited.waits a c p not_false ha hp
            grind
          all_goals grind [Awaited, Owner.handle_]
        · have hof := htarget o ho
          have hmem : o ∈ s.resetting := (hresetting o).mpr (.inl ho)
          refine ⟨?_, fun hmem' => hrest o (hsame ▸ hmem') hof, fun p => ⟨fun hp => ?_, hnot' p o⟩⟩
          · by_contra hle
            simp [State.handleOf, howned.freshObject o (by simpa using hle)] at hof
          · have hpf : p ≠ f := by
              rintro rfl
              simp at hp
            have hold : s.statusOf p = some (.awaiting o) := by simpa [hpf] using hp
            exact (hawaited.parent p o (.inl hold)).2.2 hmem
        · refine ⟨hsource o ho, fun hmem => ?_⟩
          obtain ⟨c, hc, ht⟩ := State.mem_resetting.mp hmem
          exact (hpairwise.1 c hc).source o ho ht
      · cases hstep
  · cases hstep

theorem State.step_cases {op : Op V E} {r : State V E × List (Event V E)}
    (h : s.step op = some r) :
    (s.atLiberty = true ∧ s.perform op = some r) ∨ s.unwind = some r := by
  unfold State.step at h
  split at h
  · exact .inl ⟨by assumption, h⟩
  · split at h
    · exact .inr h
    · cases h

/-- Every step that leaves the objects in a `Reset` alone keeps the ownership of the frames. -/
theorem Coherent.step {op : Op V E} {events : List (Event V E)} (h : Coherent s)
    (hu : s.Undisturbed op) (hstep : s.step op = some (s', events)) : Coherent s' := by
  obtain ⟨hlib, hstep⟩ | hstep := State.step_cases hstep
  · cases op with
    | create kind home =>
      obtain ⟨-, heq⟩ := Option.ite_none_right_eq_some.mp hstep
      obtain ⟨rfl, -⟩ := Prod.mk.inj (Option.some.inj heq)
      exact h.create hlib
    | construct home =>
      obtain ⟨-, heq⟩ := Option.ite_none_right_eq_some.mp hstep
      obtain ⟨rfl, -⟩ := Prod.mk.inj (Option.some.inj heq)
      exact h.newEmpty rfl
    | move source home =>
      obtain ⟨-, heq⟩ := Option.ite_none_right_eq_some.mp hstep
      obtain ⟨s₁, hmove, heq⟩ := Option.map_eq_some_iff.mp heq
      obtain ⟨rfl, -⟩ := Prod.mk.inj heq
      exact h.move (hu source (by simp [State.taken])) hmove
    | assign target source =>
      exact h.assign hlib (fun hne => ⟨hu target (by simp [State.taken, hne]),
        hu source (by simp [State.taken, hne])⟩) hstep
    | destroy o => exact h.destroy hlib (hu o (by simp [State.taken])) hstep
    | start o => exact h.start hlib (fun t ht hs => hu o (by simp [State.taken, ht, hs])) hstep
    | result o => exact h.result hstep
    | coAwait o => exact h.coAwait (fun t ht hs => hu o (by simp [State.taken, ht, hs])) hstep
    | resume f => exact h.resumeSuspended hlib hstep
    | suspend => exact h.suspend hstep
    | returnValue v => exact h.returnValue hstep
    | finalSuspend => exact h.finish hstep
    | unhandledException e => exact h.unhandledException hstep
    | unwind => cases hstep
    | leave => exact h.leave hstep
  · exact h.unwind hstep

end NebulaRpc.Coro
