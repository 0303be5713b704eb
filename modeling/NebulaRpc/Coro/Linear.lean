import NebulaRpc.Coro.Transfers
import NebulaRpc.Library.Histories

/-!
# The life of a coroutine

What a step does to the frames, and what is seen of it: a coroutine is started once, comes to its final
suspend once, where it resumes the coroutine that waits for it, hands over its value once, and is
destroyed once, when its owner is.
-/

namespace NebulaRpc.Coro

variable {V E : Type}

/-- How far a coroutine has come. -/
def Status.rank : Status → ℕ
  | .initial => 0
  | .running | .suspended | .awaiting _ => 1
  | .final => 2
  | .destroying | .destroyed => 3

/-- What is allowed after a history. -/
def Legal (before : List (Event V E)) : Event V E → Prop
  | .started f => .started f ∉ before ∧ .finished f ∉ before ∧ .destroyed f ∉ before
  | .awaited _ c => .finished c ∉ before ∧ ∀ q, .awaited q c ∉ before
  | .returned f _ => .finished f ∉ before ∧ .destroyed f ∉ before
  | .threw f _ => .finished f ∉ before ∧ .destroyed f ∉ before
  | .finished f => .finished f ∉ before ∧ .destroyed f ∉ before
  | .continued p c => (∀ q, .continued q c ∉ before) ∧ .awaited p c ∈ before ∧
    before.getLast? = some (.finished c) ∧ .destroyed p ∉ before
  | .handed f outcome => .finished f ∈ before ∧ .destroyed f ∉ before ∧
    ∀ v, outcome = .value v → .returned f v ∈ before ∧ ∀ w, .handed f (.value w) ∉ before
  | .destroyed f => .destroyed f ∉ before

/-- A body has ended, perhaps with an exception. -/
structure Ends (f : ℕ) (x y : Frame V E) (thrown : List (Event V E)) : Prop where
  running : x.status.rank = 1
  final : y.status = .final
  kind : y.kind = x.kind
  continuation_ : y.continuation_ = x.continuation_
  value_ : y.value_ = x.value_
  thrown : thrown = [] ∧ y.exception_ = x.exception_ ∨
    ∃ e, thrown = [.threw f e] ∧ y.exception_ = some e

/-- The changes of the frames that are made at once, with what is seen of them. -/
inductive Change : (ℕ → Option (Frame V E)) → List (Event V E) → (ℕ → Option (Frame V E)) → Prop
  | none (frames) : Change frames [] frames
  | create (frames) (f : ℕ) (kind : Kind) (status : Status) : frames f = none → status.rank ≤ 1 →
      Change frames [] (Function.update frames f (some { kind := kind, status := status }))
  | turn (frames) (f : ℕ) (x : Frame V E) (status : Status) : frames f = some x →
      status.rank = x.status.rank →
      Change frames [] (Function.update frames f (some { x with status := status }))
  | start (frames) (f : ℕ) (x : Frame V E) : frames f = some x → x.status = .initial →
      Change frames [.started f] (Function.update frames f (some { x with status := .running }))
  | coAwait (frames) (p c a : ℕ) (x y : Frame V E) : frames p = some x →
      x.status.rank = 1 → frames c = some y → y.status = .initial → y.kind ≠ .detached →
      Change frames [.awaited p c, .started c]
        (Function.update (Function.update frames p (some { x with status := .awaiting a })) c
          (some { y with status := .running, continuation_ := some p }))
  | returnValue (frames) (f : ℕ) (x : Frame V E) (v : V) : frames f = some x → x.status.rank = 1 →
      Change frames [.returned f v] (Function.update frames f (some { x with value_ := some v }))
  | finish (frames) (f : ℕ) (x y : Frame V E) (thrown : List (Event V E)) : frames f = some x →
      Ends f x y thrown → (y.continuation_ = .none ∨ y.kind = .detached) →
      Change frames (thrown ++ [.finished f]) (Function.update frames f (some y))
  | transfer (frames) (f p : ℕ) (x y z : Frame V E) (thrown : List (Event V E)) : p ≠ f →
      frames f = some x → Ends f x y thrown → y.continuation_ = some p → frames p = some z →
      z.status.rank = 1 →
      Change frames (thrown ++ [.finished f, .continued p f])
        (Function.update (Function.update frames f (some y)) p
          (some { z with status := .running }))
  | finalize (frames) (f : ℕ) (x : Frame V E) : frames f = some x → x.status = .final →
      Change frames [.handed f x.finalizeResult.1]
        (Function.update frames f (some x.finalizeResult.2))
  | destroy (frames) (f : ℕ) (x : Frame V E) : frames f = some x → x.status.rank ≤ 2 →
      Change frames [.destroyed f] (Function.update frames f (some { x with status := .destroying }))

/-- The frames agree with what has been seen of them. -/
structure Recorded (frames : ℕ → Option (Frame V E)) (log : List (Event V E)) : Prop where
  started : ∀ f, .started f ∈ log → ∃ x, frames f = some x ∧ 1 ≤ x.status.rank
  finished : ∀ f, .finished f ∈ log → ∃ x, frames f = some x ∧ 2 ≤ x.status.rank
  ended : ∀ f x, frames f = some x → x.status.rank = 2 → .finished f ∈ log
  destroyed : ∀ f, .destroyed f ∈ log ↔ ∃ x, frames f = some x ∧ x.status.rank = 3
  awaited : ∀ p c, .awaited p c ∈ log ↔ ∃ x, frames c = some x ∧ x.continuation_ = some p
  child : ∀ c x p, frames c = some x → x.continuation_ = some p →
    x.kind ≠ .detached ∧ 1 ≤ x.status.rank
  continued : ∀ p c, .continued p c ∈ log ↔ .awaited p c ∈ log ∧ .finished c ∈ log
  threw : ∀ f e, .threw f e ∈ log ↔ ∃ x, frames f = some x ∧ x.exception_ = some e
  failed : ∀ f x e, frames f = some x → x.exception_ = some e → 2 ≤ x.status.rank
  returned : ∀ f x v, frames f = some x → x.value_ = some v → .returned f v ∈ log
  handed : ∀ f outcome, .handed f outcome ∈ log → ∃ x, frames f = some x ∧ 2 ≤ x.status.rank ∧
    (∀ e, outcome = .rethrown e ↔ x.exception_ = some e) ∧ ∀ v, outcome = .value v → x.value_ = none

variable {frames frames' : ℕ → Option (Frame V E)} {log events : List (Event V E)} {f : ℕ}

section Changes

variable (h : Recorded frames log) {x y z : Frame V E} {p c a : ℕ} {v : V} {status : Status}
  {kind : Kind}

include h

theorem Recorded.create (hf : frames f = none) (hr : status.rank ≤ 1) :
    Recorded (Function.update frames f (some { kind := kind, status := status })) log := by
  constructor <;> grind [Recorded, Function.update_apply]

theorem Recorded.turn (hf : frames f = some x) (hr : status.rank = x.status.rank) :
    Recorded (Function.update frames f (some { x with status := status })) log := by
  constructor <;> grind [Recorded, Function.update_apply]

theorem Recorded.start (hf : frames f = some x) (hx : x.status = .initial) :
    Recorded (Function.update frames f (some { x with status := .running }))
      (log ++ [.started f]) := by
  constructor <;> grind [Recorded, Function.update_apply, Status.rank]

theorem Recorded.coAwait (hp : frames p = some x) (hx : x.status.rank = 1)
    (hc : frames c = some y) (hy : y.status = .initial) (hk : y.kind ≠ .detached) :
    Recorded (Function.update (Function.update frames p (some { x with status := .awaiting a })) c
      (some { y with status := .running, continuation_ := some p }))
        (log ++ [.awaited p c, .started c]) := by
  constructor <;> grind [Recorded, Function.update_apply, Status.rank]

theorem Recorded.returnValue (hf : frames f = some x) (hx : x.status.rank = 1) :
    Recorded (Function.update frames f (some { x with value_ := some v }))
      (log ++ [.returned f v]) := by
  constructor <;> grind [Recorded, Function.update_apply, Status.rank]

theorem Recorded.finalize (hf : frames f = some x) (hx : x.status = .final) :
    Recorded (Function.update frames f (some x.finalizeResult.2))
      (log ++ [.handed f x.finalizeResult.1]) := by
  constructor <;> grind [Recorded, Function.update_apply, Status.rank, Frame.finalizeResult]

theorem Recorded.destroy (hf : frames f = some x) (hx : x.status.rank ≤ 2) :
    Recorded (Function.update frames f (some { x with status := .destroying }))
      (log ++ [.destroyed f]) := by
  constructor <;> grind [Recorded, Function.update_apply, Status.rank]

theorem Recorded.finish {thrown : List (Event V E)} (hf : frames f = some x)
    (hends : Ends f x y thrown) (hnone : y.continuation_ = none ∨ y.kind = .detached) :
    Recorded (Function.update frames f (some y)) (log ++ (thrown ++ [.finished f])) := by
  obtain ⟨hx, hy, hk, hc, hv, ⟨rfl, he⟩ | ⟨e, rfl, he⟩⟩ := hends
  · constructor <;> grind [Recorded, Function.update_apply, Status.rank]
  · constructor <;> grind [Recorded, Function.update_apply, Status.rank]

theorem Recorded.transfer {thrown : List (Event V E)} (hpf : p ≠ f) (hf : frames f = some x)
    (hends : Ends f x y thrown) (hp : y.continuation_ = some p) (hz : frames p = some z)
    (hr : z.status.rank = 1) :
    Recorded (Function.update (Function.update frames f (some y)) p
      (some { z with status := .running })) (log ++ (thrown ++ [.finished f, .continued p f])) := by
  obtain ⟨hx, hy, hk, hc, hv, ⟨rfl, he⟩ | ⟨e, rfl, he⟩⟩ := hends
  · constructor <;> grind [Recorded, Function.update_apply, Status.rank]
  · constructor <;> grind [Recorded, Function.update_apply, Status.rank]

end Changes

theorem Recorded.change (h : Recorded frames log) (hc : Change frames events frames') :
    Recorded frames' (log ++ events) := by
  cases hc with
  | none => simpa using h
  | create f kind status hf hr => simpa using h.create hf hr
  | turn f x status hf hr => simpa using h.turn hf hr
  | start f x hf hx => exact h.start hf hx
  | coAwait p c a x y hp hx hc hy hk => exact h.coAwait hp hx hc hy hk
  | returnValue f x v hf hx => exact h.returnValue hf hx
  | finish f x y thrown hf hends hnone => exact h.finish hf hends hnone
  | transfer f p x y z thrown hpf hf hends hp hz hr => exact h.transfer hpf hf hends hp hz hr
  | finalize f x hf hx => exact h.finalize hf hx
  | destroy f x hf hx => exact h.destroy hf hx

theorem Recorded.lawful (h : Recorded frames log) (hlog : History.Lawful Legal log)
    (hc : Change frames events frames') : History.Lawful Legal (log ++ events) := by
  cases hc with
  | none => simpa using hlog
  | create f kind status hf hr => simpa using hlog
  | turn f x status hf hr => simpa using hlog
  | start f x hf hx =>
    apply hlog.snoc
    grind [Recorded, Status.rank, Legal]
  | coAwait p c a x y hp hx hc hy hk =>
    rw [List.append_cons]
    refine History.Lawful.snoc (hlog.snoc ?_) ?_
    · grind [Recorded, Status.rank, Legal]
    · grind [Recorded, Status.rank, Legal]
  | returnValue f x v hf hx =>
    apply hlog.snoc
    grind [Recorded, Status.rank, Legal]
  | finish f x y thrown hf hends hnone =>
    obtain ⟨hx, -, -, -, -, ⟨rfl, -⟩ | ⟨e, rfl, -⟩⟩ := hends
    · apply hlog.snoc
      grind [Recorded, Status.rank, Legal]
    · rw [← List.append_assoc]
      refine History.Lawful.snoc (hlog.snoc ?_) ?_
      · grind [Recorded, Status.rank, Legal]
      · grind [Recorded, Status.rank, Legal]
  | transfer f p x y z thrown hpf hf hends hp hz hr =>
    obtain ⟨hx, -, -, hc, -, ⟨rfl, -⟩ | ⟨e, rfl, -⟩⟩ := hends
    · rw [List.nil_append, List.append_cons]
      refine History.Lawful.snoc (hlog.snoc ?_) ?_
      · grind [Recorded, Status.rank, Legal]
      · grind [Recorded, Status.rank, Legal]
    · rw [← List.append_assoc, List.append_cons]
      refine History.Lawful.snoc (History.Lawful.snoc (hlog.snoc ?_) ?_) ?_
      · grind [Recorded, Status.rank, Legal]
      · grind [Recorded, Status.rank, Legal]
      · grind [Recorded, Status.rank, Legal]
  | finalize f x hf hx =>
    apply hlog.snoc
    grind [Recorded, Status.rank, Legal, Frame.finalizeResult]
  | destroy f x hf hx =>
    apply hlog.snoc
    grind [Recorded, Status.rank, Legal]

variable {s s' : State V E} {o : ℕ} {caller : Caller}

/-- One change, or two of them. -/
def State.Changes (s : State V E) (events : List (Event V E)) (s' : State V E) : Prop :=
  ∃ mid first second, Change s.frames first mid ∧ Change mid second s'.frames ∧
    events = first ++ second

theorem State.Changes.one (h : Change s.frames events s'.frames) : s.Changes events s' :=
  ⟨_, _, _, h, .none _, by simp⟩

theorem State.Changes.none (h : s'.frames = s.frames) : s.Changes [] s' :=
  .one (h ▸ .none _)

theorem State.frames_goOn (h : s.goOn caller = some s') : s'.frames = s.frames := by
  cases caller with
  | destructor o =>
    obtain rfl : s.setObject o .none = s' := by simpa [State.goOn] using h
    rfl
  | assignment t o =>
    obtain ⟨x, -, rfl⟩ := Option.map_eq_some_iff.mp h
    rfl
  | finalSuspend =>
    obtain rfl : s = s' := by simpa [State.goOn] using h
    rfl

/-- A frame is held by nothing but the object that is being reset once it is being destroyed. -/
theorem Coherent.rank_le {x : Frame V E} (h : Coherent s) (ho : s.handleOf o = some f)
    (hfree : o ∉ s.resetting) (hx : s.frames f = some x) : x.status.rank ≤ 2 := by
  have halive := h.owned.alive o f not_false ho
  have hheld := h.owned.held o f not_false ho
  rw [(State.Reads hx).1] at halive hheld
  cases hs : x.status with
  | destroying => exact absurd (hheld (by rw [hs])) hfree
  | destroyed => simp [hs] at halive
  | _ => simp [Status.rank]

/-- A task that has not been started holds a coroutine that has not run. -/
theorem Coherent.initial {t : Task} {x : Frame V E} (h : Coherent s) (ht : s.task o = some t)
    (hstarted : t.started_ = false) (hf : t.handle_ = some f) (hfree : o ∉ s.resetting)
    (hx : s.frames f = some x) : x.status = .initial := by
  obtain rfl : t = { handle_ := some f } := by
    cases t
    simp_all
  have hflag := h.awaited.flag o f not_false (State.objects_of_task ht)
  simpa [(State.Reads hx).1] using hflag.resolve_right hfree

theorem Coherent.rank_top {x : Frame V E} {rest : List Call} (h : Coherent s)
    (hs : s.stack = .body f :: rest) (hx : s.frames f = some x) : x.status.rank = 1 := by
  have hrunning : s.statusOf f = some .running := h.stacked.backs (.body f) (by simp [hs])
  obtain hx' : x.status = .running := by simpa [(State.Reads hx).1] using hrunning
  simp [hx', Status.rank]

theorem Coherent.changes_reset {t : State V E} (h : Coherent s) (ht : t.frames = s.frames)
    (hfree : o ∉ s.resetting) (hstep : t.reset (s.handleOf o) caller = some (s', events)) :
    s.Changes events s' := by
  unfold State.reset at hstep
  split at hstep
  · obtain ⟨s₁, hgo, heq⟩ := Option.map_eq_some_iff.mp hstep
    obtain ⟨rfl, rfl⟩ := Prod.mk.inj heq
    exact .none ((State.frames_goOn hgo).trans ht)
  · rename_i f hf
    unfold State.destroyFrame at hstep
    split at hstep
    · cases hstep
    · rename_i x hx
      rw [ht] at hx
      split at hstep
      · cases hstep
      · obtain ⟨rfl, rfl⟩ := Prod.mk.inj (Option.some.inj hstep)
        refine .one ?_
        have hchange := Change.destroy s.frames f x hx (h.rank_le hf hfree hx)
        simpa [State.setStack, State.setFrame, ht] using hchange

theorem Coherent.changes_finalSuspend {x y : Frame V E} {rest : List Call}
    {thrown : List (Event V E)} (h : Coherent s) (hs : s.stack = .body f :: rest)
    (hx : s.frames f = some x) (hends : Ends f x { y with status := .final } thrown)
    (hstep : s.finalSuspend f y rest = some (s', events)) : s.Changes (thrown ++ events) s' := by
  obtain ⟨hstatusx, hkindx, hcontx⟩ := State.Reads hx
  have hrunning : s.statusOf f = some .running := h.stacked.backs (.body f) (by simp [hs])
  have hkind : y.kind = x.kind := hends.kind
  have hcont : y.continuation_ = x.continuation_ := hends.continuation_
  unfold State.finalSuspend at hstep
  split at hstep
  · rename_i hdetached
    obtain ⟨rfl, rfl⟩ := Prod.mk.inj (Option.some.inj hstep)
    refine ⟨_, _, _, Change.finish s.frames f x _ thrown hx hends (.inr hdetached), ?_,
      by simp; rfl⟩
    have hchange := Change.destroy (Function.update s.frames f (some { y with status := .final })) f
      { y with status := .final } (by simp) (by simp [Status.rank])
    simpa [State.setStack, State.setFrame] using hchange
  · rename_i hnone _
    obtain ⟨rfl, rfl⟩ := Prod.mk.inj (Option.some.inj hstep)
    exact .one (Change.finish s.frames f x _ thrown hx hends (.inl hnone))
  · rename_i p hp hdetached
    obtain ⟨a, ha, hhome, hawaiting⟩ := h.waiting hs hkindx (hkind ▸ hdetached)
      (hcontx.trans (hcont.symm.trans hp))
    have hpf : p ≠ f := by
      rintro rfl
      simp [hrunning] at hawaiting
    have hframe : (s.setFrame f { y with status := .final }).frames p = s.frames p := by
      simp [State.setFrame, hpf]
    simp only [hframe] at hstep
    split at hstep
    · cases hstep
    · rename_i z hz
      obtain ⟨rfl, rfl⟩ := Prod.mk.inj (Option.some.inj hstep)
      have hstatus : z.status = .awaiting a := by simpa [(State.Reads hz).1] using hawaiting
      refine ⟨_, _, _, Change.transfer s.frames f p x _ z thrown hpf hx hends hp hz
        (by simp [hstatus, Status.rank]), ?_, by simp; rfl⟩
      have hf : (((s.setFrame f { y with status := .final }).setFrame p
          { z with status := .running }).setStack (.body p :: rest)).frames f =
            some { y with status := .final } := by
        simp [State.setStack, State.setFrame, hpf.symm]
      simp only [hstatus, State.awaitResume, State.objects_setStack, State.objects_setFrame, ha, hf]
      exact Change.finalize _ f _ hf rfl

/-- What a step does to the frames. -/
theorem Coherent.changes {op : Op V E} (h : Coherent s) (hu : s.Undisturbed op)
    (hstep : s.step op = some (s', events)) : s.Changes events s' := by
  have hsame : ∀ {t : State V E}, some (t, []) = some (s', events) → t.frames = s.frames →
      s.Changes events s' := by
    intro t heq ht
    obtain ⟨rfl, rfl⟩ := Prod.mk.inj (Option.some.inj heq)
    exact .none ht
  have hhandleOf : ∀ i z, s.objects i = some z → z.handle_ = s.handleOf i := by
    simp +contextual [State.handleOf]
  obtain ⟨hlib, hstep⟩ | hstep := State.step_cases hstep
  · cases op with
    | create kind home =>
      obtain ⟨-, heq⟩ := Option.ite_none_right_eq_some.mp hstep
      obtain ⟨rfl, rfl⟩ := Prod.mk.inj (Option.some.inj heq)
      have hfresh : s.frames s.frameCount = .none := by
        simpa [State.statusOf] using h.owned.freshFrame s.frameCount le_rfl
      cases kind with
      | detached => exact .one (.create s.frames _ .detached .running hfresh le_rfl)
      | value => exact .one (.create s.frames _ .value .initial hfresh (by simp [Status.rank]))
      | void => exact .one (.create s.frames _ .void .initial hfresh (by simp [Status.rank]))
    | construct home =>
      obtain ⟨-, heq⟩ := Option.ite_none_right_eq_some.mp hstep
      exact hsame heq rfl
    | move source home =>
      obtain ⟨-, heq⟩ := Option.ite_none_right_eq_some.mp hstep
      obtain ⟨s₁, hmove, heq⟩ := Option.map_eq_some_iff.mp heq
      obtain ⟨t, -, rfl⟩ := Option.map_eq_some_iff.mp hmove
      exact hsame (congrArg some heq) rfl
    | assign target source =>
      simp only [State.perform, State.assign] at hstep
      split at hstep
      · rename_i t _ ht _
        split at hstep
        · exact hsame hstep rfl
        · rename_i hne
          have hobj : t.handle_ = s.handleOf target :=
            hhandleOf target _ (State.objects_of_task ht)
          exact h.changes_reset rfl (hu target (by simp [State.taken, hne])) (hobj ▸ hstep)
      · cases hstep
    | destroy o =>
      have hfree := hu o (by simp [State.taken])
      simp only [State.perform, State.destroy] at hstep
      split at hstep
      · cases hstep
      · rename_i t ht
        have hobj : t.handle_ = s.handleOf o := hhandleOf o _ ht
        exact h.changes_reset rfl hfree (hobj ▸ hstep)
      · rename_i c hc
        split at hstep
        · have hobj : c = s.handleOf o := hhandleOf o _ hc
          exact h.changes_reset rfl hfree (hobj ▸ hstep)
        · cases hstep
    | start o =>
      simp only [State.perform, State.start] at hstep
      split at hstep
      · cases hstep
      · rename_i t ht
        split at hstep
        · exact hsame hstep rfl
        · rename_i f hf
          split at hstep
          · cases hstep
          · rename_i x hx
            split at hstep
            · exact hsame hstep rfl
            · rename_i hnot
              obtain ⟨rfl, rfl⟩ := Prod.mk.inj (Option.some.inj hstep)
              have hstarted : t.started_ = false := by simpa using (not_or.mp hnot).1
              have hinitial := h.initial ht hstarted hf
                (hu o (by simp [State.taken, ht, hstarted])) hx
              exact .one (.start s.frames f x hx hinitial)
    | result o =>
      simp only [State.perform, State.result] at hstep
      split at hstep
      · cases hstep
      · split at hstep
        · exact hsame hstep rfl
        · split at hstep
          · cases hstep
          · rename_i f _ _ x hx
            split at hstep
            · rename_i hfinal
              obtain ⟨rfl, rfl⟩ := Prod.mk.inj (Option.some.inj hstep)
              exact .one (.finalize s.frames f x hx hfinal)
            · exact hsame hstep rfl
    | coAwait o =>
      simp only [State.perform, State.coAwait] at hstep
      split at hstep
      · rename_i p rest t hs ht
        split at hstep
        · exact hsame hstep rfl
        · rename_i hstarted
          split at hstep
          · exact hsame hstep rfl
          · rename_i c hc
            split at hstep
            · rename_i x y hx hy
              have hstarted : t.started_ = false := by simpa using hstarted
              have hfree := hu o (by simp [State.taken, ht, hstarted])
              have hinitial := h.initial ht hstarted hc hfree hy
              rw [if_neg (by simp [hinitial])] at hstep
              obtain ⟨rfl, rfl⟩ := Prod.mk.inj (Option.some.inj hstep)
              have hrank := h.rank_top hs hx
              have hkind := (h.owned.kind o c not_false
                ((hhandleOf o _ (State.objects_of_task ht)).symm.trans hc)).2
              exact .one (.coAwait s.frames p c s.objectCount x y hx hrank hy hinitial
                (by simpa [(State.Reads hy).2.1] using hkind))
            · cases hstep
      · cases hstep
    | resume f =>
      simp only [State.perform, State.resumeSuspended] at hstep
      split at hstep
      · rename_i x hx
        split at hstep
        · rename_i hsuspended
          obtain ⟨rfl, rfl⟩ := Prod.mk.inj (Option.some.inj hstep)
          exact .one (.turn s.frames f x .running hx (by simp [hsuspended, Status.rank]))
        · cases hstep
      · cases hstep
    | suspend =>
      obtain ⟨⟨f, x, rest⟩, htop, heq⟩ := Option.map_eq_some_iff.mp hstep
      obtain ⟨rfl, rfl⟩ := Prod.mk.inj heq
      obtain ⟨hs, hx⟩ := State.top_eq_some htop
      exact .one (.turn s.frames f x .suspended hx (h.rank_top hs hx).symm)
    | returnValue v =>
      obtain ⟨⟨f, x, rest⟩, htop, hstep⟩ := Option.bind_eq_some_iff.mp hstep
      obtain ⟨hs, hx⟩ := State.top_eq_some htop
      obtain ⟨-, heq⟩ := Option.ite_none_right_eq_some.mp hstep
      obtain ⟨rfl, rfl⟩ := Prod.mk.inj (Option.some.inj heq)
      exact .one (.returnValue s.frames f x v hx (h.rank_top hs hx))
    | finalSuspend =>
      obtain ⟨⟨f, x, rest⟩, htop, hstep⟩ := Option.bind_eq_some_iff.mp hstep
      obtain ⟨hs, hx⟩ := State.top_eq_some htop
      obtain ⟨-, hfinal⟩ := Option.ite_none_left_eq_some.mp hstep
      exact h.changes_finalSuspend hs hx
        ⟨h.rank_top hs hx, rfl, rfl, rfl, rfl, .inl ⟨rfl, rfl⟩⟩ hfinal
    | unhandledException e =>
      obtain ⟨⟨f, x, rest⟩, htop, hstep⟩ := Option.bind_eq_some_iff.mp hstep
      obtain ⟨hs, hx⟩ := State.top_eq_some htop
      obtain ⟨-, hfinal⟩ := Option.ite_none_left_eq_some.mp hstep
      obtain ⟨⟨s₁, events₁⟩, hlast, heq⟩ := Option.map_eq_some_iff.mp hfinal
      obtain ⟨rfl, rfl⟩ := Prod.mk.inj heq
      exact h.changes_finalSuspend (y := { x with exception_ := some e }) hs hx
        ⟨h.rank_top hs hx, rfl, rfl, rfl, rfl, .inr ⟨e, rfl, rfl⟩⟩ hlast
    | unwind => cases hstep
    | leave =>
      simp only [State.perform, State.leave] at hstep
      split at hstep
      · rename_i f caller rest hs
        split at hstep
        · cases hstep
        · rename_i x hx
          obtain ⟨-, heq⟩ := Option.ite_none_right_eq_some.mp hstep
          obtain ⟨s₁, hgo, heq⟩ := Option.map_eq_some_iff.mp heq
          obtain ⟨rfl, rfl⟩ := Prod.mk.inj heq
          have hdestroying := (h.stacked.backs (.cleanup f none caller) (by simp [hs])).1
          rw [(State.Reads hx).1, Option.some.injEq] at hdestroying
          have hframes := State.frames_goOn hgo
          refine .one ?_
          rw [hframes]
          exact .turn s.frames f x .destroyed hx (by simp [hdestroying, Status.rank])
      · cases hstep
  · unfold State.unwind at hstep
    split at hstep
    · rename_i f a caller rest hs
      split at hstep
      · rename_i z hz
        have hfree := (h.awaited.parent f a (.inr ⟨caller, by simp [hs]⟩)).2.2
        rw [hhandleOf a z hz] at hstep
        exact Coherent.changes_reset (t := s.setStack (.cleanup f none caller :: rest)) h rfl hfree hstep
      · cases hstep
    · cases hstep

/-- The state is coherent, and the history that has been written down is lawful and agrees with it. -/
structure Traced (r : State V E × List (Event V E)) : Prop where
  coherent : Coherent r.1
  recorded : Recorded r.1.frames r.2
  lawful : History.Lawful Legal r.2

theorem traced_init : Traced ((State.init, []) : State V E × List (Event V E)) := by
  refine ⟨State.coherent_init, ?_, History.lawful_nil⟩
  constructor <;> simp [State.init]

theorem Traced.step {r r' : State V E × List (Event V E)} {op : Op V E} (h : Traced r)
    (hu : r.1.Undisturbed op) (hstep : State.record r op = some r') : Traced r' := by
  obtain ⟨⟨s', events⟩, hs', rfl⟩ := Option.map_eq_some_iff.mp hstep
  obtain ⟨mid, first, second, hfirst, hsecond, rfl⟩ := h.coherent.changes hu hs'
  have hmid := h.recorded.change hfirst
  have hlawful := h.recorded.lawful h.lawful hfirst
  refine ⟨h.coherent.step hu hs', ?_, ?_⟩
  · simpa using hmid.change hsecond
  · simpa using hmid.lawful hlawful hsecond

/-- `f` is destroyed. -/
def Event.destroys (f : ℕ) : Event V E → Bool
  | .destroyed g => g = f
  | _ => false

/-- `f` is resumed by `Start` or by a `co_await`. -/
def Event.starts (f : ℕ) : Event V E → Bool
  | .started g => g = f
  | _ => false

/-- `c` resumes the coroutine that waits for it. -/
def Event.continues (c : ℕ) : Event V E → Bool
  | .continued _ d => d = c
  | _ => false

/-- A value of `f` is handed over. -/
def Event.delivers (f : ℕ) : Event V E → Bool
  | .handed g (.value _) => g = f
  | _ => false

theorem Event.delivers_iff {e : Event V E} :
    e.delivers f = true ↔ ∃ v, e = .handed f (.value v) := by
  cases e with
  | handed g outcome => cases outcome <;> simp [Event.delivers]
  | _ => simp [Event.delivers]

/-- Tasks own the frames of their coroutines: the state that a program has reached, and its history. -/
structure Linear (s : State V E) (log : List (Event V E)) : Prop where
  unique : ∀ o o' f, s.handleOf o = some f → s.handleOf o' = some f → o = o'
  /-- A frame is destroyed when its owner is, not before, and once. -/
  owned : ∀ f k, s.kindOf f = some k → k ≠ .detached →
    ((∃ o, s.handleOf o = some f ∧ o ∉ s.resetting) ↔ .destroyed f ∉ log)
  destroyedOnce : ∀ f, log.countP (Event.destroys f) ≤ 1
  startedOnce : ∀ f, log.countP (Event.starts f) ≤ 1
  startedAlive : ∀ before f after, log = before ++ .started f :: after →
    .finished f ∉ before ∧ .destroyed f ∉ before
  continuedOnce : ∀ c, log.countP (Event.continues c) ≤ 1
  continuedAtFinal : ∀ before p c after, log = before ++ .continued p c :: after →
    .awaited p c ∈ before ∧ before.getLast? = some (.finished c) ∧ .destroyed p ∉ before
  continued : ∀ p c, .awaited p c ∈ log → .finished c ∈ log → .continued p c ∈ log
  deliveredOnce : ∀ f, log.countP (Event.delivers f) ≤ 1
  delivered : ∀ f v, .handed f (.value v) ∈ log → .returned f v ∈ log
  rethrown : ∀ f e outcome, .threw f e ∈ log → .handed f outcome ∈ log → outcome = .rethrown e

theorem Traced.linear {log : List (Event V E)} (h : Traced (s, log)) : Linear s log := by
  obtain ⟨hcoherent, hrecorded, hlawful⟩ := h
  constructor
  case unique => exact fun o o' f => hcoherent.owned.unique o o' f not_false not_false
  case owned =>
    intro f k hk hd
    constructor
    · rintro ⟨o, ho, hfree⟩ hmem
      obtain ⟨x, hx, hrank⟩ := (hrecorded.destroyed f).mp hmem
      have := hcoherent.rank_le ho hfree hx
      omega
    · intro hmem
      obtain ⟨x, hx, -⟩ := Option.map_eq_some_iff.mp hk
      have hrank : x.status.rank ≠ 3 := fun hr => hmem ((hrecorded.destroyed f).mpr ⟨x, hx, hr⟩)
      have hstatus := (State.Reads hx).1
      obtain ⟨o, -, ho⟩ := hcoherent.owned.owned f k hk hd fun hs => by
        obtain hx' : x.status = .destroyed := by simpa [hstatus] using hs
        exact hrank (by simp [hx', Status.rank])
      refine ⟨o, ho, fun hres => ?_⟩
      obtain ⟨g, hg, hs⟩ := hcoherent.stacked.resetting hres
      obtain rfl : f = g := by simpa [ho] using hg
      obtain hx' : x.status = .destroying := by simpa [hstatus] using hs
      exact hrank (by simp [hx', Status.rank])
  case destroyedOnce =>
    intro f
    apply hlawful.countP_le_one
    intro before e he hp e' he' hp'
    cases e <;> cases e' <;> simp_all [Event.destroys, Legal]
  case startedOnce =>
    intro f
    apply hlawful.countP_le_one
    intro before e he hp e' he' hp'
    cases e <;> cases e' <;> simp_all [Event.starts, Legal]
  case continuedOnce =>
    intro f
    apply hlawful.countP_le_one
    intro before e he hp e' he' hp'
    cases e <;> cases e' <;> simp_all [Event.continues, Legal]
  case deliveredOnce =>
    intro f
    apply hlawful.countP_le_one
    intro before e he hp e' he' hp'
    obtain ⟨v, rfl⟩ := Event.delivers_iff.mp hp
    obtain ⟨w, rfl⟩ := Event.delivers_iff.mp hp'
    exact (he.2.2 v rfl).2 w he'
  case startedAlive => exact fun before f after hlog => (hlawful before _ after hlog).2
  case continuedAtFinal =>
    intro before p c after hlog
    obtain ⟨-, hawaited, hlast, halive⟩ := hlawful before _ after hlog
    exact ⟨hawaited, hlast, halive⟩
  case continued => exact fun p c hp hc => (hrecorded.continued p c).mpr ⟨hp, hc⟩
  case delivered =>
    intro f v hmem
    obtain ⟨before, after, rfl⟩ := List.append_of_mem hmem
    obtain ⟨-, -, hvalue⟩ := hlawful before _ after rfl
    exact List.mem_append_left _ (hvalue v rfl).1
  case rethrown =>
    intro f e outcome hthrew hmem
    obtain ⟨x, hx, -, hrethrown, -⟩ := hrecorded.handed f outcome hmem
    obtain ⟨y, hy, hye⟩ := (hrecorded.threw f e).mp hthrew
    obtain rfl : x = y := Option.some.inj (hx.symm.trans hy)
    exact (hrethrown e).mpr hye

/-- Tasks own the frames of their coroutines as long as the destructors of what lives in a frame leave
the task alone whose `Reset` destroys it. -/
theorem tasks_own_frames {ops : List (Op V E)} {log : List (Event V E)}
    (hmeets : Transition.Meets State.record (fun r op => r.1.Undisturbed op) (State.init, []) ops)
    (hrun : Transition.run State.record (State.init, []) ops = some (s, log)) : Linear s log :=
  (Transition.invariant_run (fun _ _ _ h hu hstep => h.step hu hstep) traced_init hmeets
    hrun).linear

/-- A coroutine waits for a child that is suspended once, and is destroyed with its task. -/
def awaitsChild : List (Op ℕ ℕ) :=
  [.create .void none, .start 0, .create .value (some 0), .coAwait 1, .suspend, .resume 1,
    .returnValue 7, .finalSuspend, .destroy 2, .leave, .destroy 1, .finalSuspend, .destroy 0, .leave]

theorem tasks_own_frames_awaitsChild :
    ∃ s, Transition.run State.record (State.init, []) awaitsChild =
        some (s, [.started 0, .awaited 0 1, .started 1, .returned 1 7, .finished 1, .continued 0 1,
          .handed 1 (.value 7), .destroyed 1, .finished 0, .destroyed 0]) ∧
      Linear s [.started 0, .awaited 0 1, .started 1, .returned 1 7, .finished 1, .continued 0 1,
        .handed 1 (.value 7), .destroyed 1, .finished 0, .destroyed 0] := by
  have hlog : (Transition.run State.record (State.init, []) awaitsChild).map Prod.snd =
      some [.started 0, .awaited 0 1, .started 1, .returned 1 7, .finished 1, .continued 0 1,
        .handed 1 (.value 7), .destroyed 1, .finished 0, .destroyed 0] := by decide
  obtain ⟨⟨s, log⟩, hrun, rfl⟩ := Option.map_eq_some_iff.mp hlog
  have hmeets : Transition.Meets State.record (fun r op => r.1.Undisturbed op) (State.init, [])
      awaitsChild := by decide
  exact ⟨s, hrun, tasks_own_frames hmeets hrun⟩

/-- A destructor of what lives in a frame moves from the task whose `Reset` destroys the frame. -/
def takesFromReset : List (Op ℕ ℕ) :=
  [.create .void none, .start 0, .suspend, .construct none, .assign 0 1, .move 0 none, .leave,
    .destroy 2]

/-- The frame is destroyed a second time, with the task that took it. -/
theorem tasks_lose_frame : ¬ ∀ (ops : List (Op ℕ ℕ)) s log,
    Transition.run State.record (State.init, []) ops = some (s, log) → Linear s log := by
  intro hall
  have hlog : (Transition.run State.record (State.init, []) takesFromReset).map Prod.snd =
      some [.started 0, .destroyed 0, .destroyed 0] := by decide
  obtain ⟨⟨s, log⟩, hrun, rfl⟩ := Option.map_eq_some_iff.mp hlog
  have honce := (hall takesFromReset s _ hrun).destroyedOnce 0
  simp [Event.destroys] at honce

end NebulaRpc.Coro
