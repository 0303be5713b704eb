import Mathlib.Tactic

/-!
# Labelled transition systems

A system is a partial step function: `step s l` is the state behind the step `l`, or `none` when the
step is not possible. `run` follows a list of steps, `Meets` says that every step taken satisfies a
condition on the state before it, and an invariant that such steps keep holds along such runs.
-/

namespace Transition

variable {σ ℓ : Type*}

/-- The state behind a list of steps. -/
def run (step : σ → ℓ → Option σ) : σ → List ℓ → Option σ
  | s, [] => some s
  | s, l :: ls => (step s l).bind fun s' => run step s' ls

/-- Every step of the run satisfies the condition in the state in which it is taken. -/
def Meets (step : σ → ℓ → Option σ) (C : σ → ℓ → Prop) : σ → List ℓ → Prop
  | _, [] => True
  | s, l :: ls => C s l ∧ ∀ s', step s l = some s' → Meets step C s' ls

variable {step : σ → ℓ → Option σ} {C : σ → ℓ → Prop} {I : σ → Prop} {s s' : σ} {l : ℓ}
  {ls ls' : List ℓ}

@[simp]
theorem run_nil : run step s [] = some s := rfl

theorem run_cons_eq_some_iff :
    run step s (l :: ls) = some s' ↔ ∃ s₁, step s l = some s₁ ∧ run step s₁ ls = some s' := by
  simp [run, Option.bind_eq_some_iff]

theorem run_append : run step s (ls ++ ls') = (run step s ls).bind fun s₁ => run step s₁ ls' := by
  induction ls generalizing s with
  | nil => rfl
  | cons l ls ih => simp [run, ih, Option.bind_assoc]

/-- The steps of a run keep what each of them keeps. -/
theorem invariant_run (hstep : ∀ s l s', I s → C s l → step s l = some s' → I s') (h : I s)
    (hmeets : Meets step C s ls) (hrun : run step s ls = some s') : I s' := by
  induction ls generalizing s with
  | nil =>
    obtain rfl : s = s' := by simpa using hrun
    exact h
  | cons l ls ih =>
    obtain ⟨s₁, h₁, hrun⟩ := run_cons_eq_some_iff.mp hrun
    exact ih (hstep s l s₁ h hmeets.1 h₁) (hmeets.2 s₁ h₁) hrun

/-- How many steps of the run pass the test in the state in which they are taken. -/
def count (step : σ → ℓ → Option σ) (p : σ → ℓ → Bool) : σ → List ℓ → Nat
  | _, [] => 0
  | s, l :: ls =>
    (p s l).toNat + match step s l with
      | some s' => count step p s' ls
      | none => 0

/-- As `invariant_run`, for an invariant that knows how many steps have passed the test. -/
theorem invariant_count {p : σ → ℓ → Bool} {I : Nat → σ → Prop}
    (hstep : ∀ n s l s', I n s → C s l → step s l = some s' → I (n + (p s l).toNat) s') {n : Nat}
    (h : I n s) (hmeets : Meets step C s ls) (hrun : run step s ls = some s') :
    I (n + count step p s ls) s' := by
  induction ls generalizing s n with
  | nil =>
    obtain rfl : s = s' := by simpa using hrun
    exact h
  | cons l ls ih =>
    obtain ⟨s₁, h₁, hrun⟩ := run_cons_eq_some_iff.mp hrun
    have hcount : n + count step p s (l :: ls) = n + (p s l).toNat + count step p s₁ ls := by
      simp only [count, h₁, Nat.add_assoc]
    rw [hcount]
    exact ih (hstep n s l s₁ h hmeets.1 h₁) (hmeets.2 s₁ h₁) hrun

instance decidableMeets [∀ s l, Decidable (C s l)] :
    (s : σ) → (ls : List ℓ) → Decidable (Meets step C s ls)
  | _, [] => .isTrue trivial
  | s, l :: ls =>
    match h : step s l with
    | none => decidable_of_iff (C s l) (by simp [Meets, h])
    | some s' =>
      have := decidableMeets s' ls
      decidable_of_iff (C s l ∧ Meets step C s' ls) (by simp [Meets, h])

theorem meets_of_forall_mem (h : ∀ s, ∀ l ∈ ls, C s l) : Meets step C s ls := by
  induction ls generalizing s with
  | nil => trivial
  | cons l ls ih =>
    exact ⟨h s l List.mem_cons_self, fun _ _ => ih fun s l hl => h s l (List.mem_cons_of_mem _ hl)⟩

theorem meets_of_forall (h : ∀ s l, C s l) : Meets step C s ls :=
  meets_of_forall_mem fun s l _ => h s l

theorem Meets.mono {C' : σ → ℓ → Prop} (hmono : ∀ s l, C s l → C' s l)
    (h : Meets step C s ls) : Meets step C' s ls := by
  induction ls generalizing s with
  | nil => trivial
  | cons l ls ih => exact ⟨hmono s l h.1, fun s' hs' => ih (h.2 s' hs')⟩

theorem Meets.of_append (h : Meets step C s (ls ++ ls')) (hrun : run step s ls = some s') :
    Meets step C s ls ∧ Meets step C s' ls' := by
  induction ls generalizing s with
  | nil =>
    obtain rfl : s = s' := by simpa using hrun
    exact ⟨trivial, h⟩
  | cons l ls ih =>
    obtain ⟨s₁, h₁, hrun⟩ := run_cons_eq_some_iff.mp hrun
    obtain ⟨hbefore, hafter⟩ := ih (h.2 s₁ h₁) hrun
    refine ⟨⟨h.1, fun s₂ h₂ => ?_⟩, hafter⟩
    obtain rfl : s₁ = s₂ := by simpa using h₁.symm.trans h₂
    exact hbefore

theorem Meets.append (h : Meets step C s ls)
    (h' : ∀ s', run step s ls = some s' → Meets step C s' ls') : Meets step C s (ls ++ ls') := by
  induction ls generalizing s with
  | nil => exact h' s rfl
  | cons l ls ih =>
    refine ⟨h.1, fun s₁ hstep => ih (h.2 s₁ hstep) fun s' hrun => ?_⟩
    exact h' s' (run_cons_eq_some_iff.mpr ⟨s₁, hstep, hrun⟩)

/-- Where the condition says exactly which steps keep a property, it is met along the run exactly when
every state that is reached has the property. -/
theorem meets_iff_forall_prefix {P : σ → Prop}
    (hstep : ∀ s l s', I s → C s l → step s l = some s' → I s') (hP : ∀ s, I s → P s)
    (hC : ∀ s l, I s → (∀ s', step s l = some s' → P s') → C s l) (h : I s) :
    Meets step C s ls ↔
      ∀ earlier, earlier <+: ls → ∀ s', run step s earlier = some s' → P s' := by
  constructor
  · rintro hmeets earlier ⟨later, rfl⟩ s' hrun
    exact hP s' (invariant_run hstep h (hmeets.of_append hrun).1 hrun)
  · intro hall
    induction ls generalizing s with
    | nil => trivial
    | cons l ls ih =>
      have hl : C s l := by
        apply hC s l h
        intro s' hs'
        exact hall [l] ⟨ls, rfl⟩ s' (by simp [run, hs'])
      refine ⟨hl, fun s₁ hs₁ => ih (hstep s l s₁ h hl hs₁) fun earlier hprefix s' hrun => ?_⟩
      exact hall (l :: earlier) (List.cons_prefix_cons.mpr ⟨rfl, hprefix⟩) s'
        (run_cons_eq_some_iff.mpr ⟨s₁, hs₁, hrun⟩)

/-- The run takes this step in this state. -/
def Takes (step : σ → ℓ → Option σ) (s : σ) (ls : List ℓ) (s' : σ) (l : ℓ) : Prop :=
  ∃ earlier later, ls = earlier ++ l :: later ∧ run step s earlier = some s'

theorem Takes.cons {s₁ : σ} (hstep : step s l = some s₁) {l' : ℓ} (h : Takes step s₁ ls s' l') :
    Takes step s (l :: ls) s' l' := by
  obtain ⟨earlier, later, rfl, hrun⟩ := h
  exact ⟨l :: earlier, later, rfl, run_cons_eq_some_iff.mpr ⟨s₁, hstep, hrun⟩⟩

theorem Takes.mem (h : Takes step s ls s' l) : l ∈ ls := by
  obtain ⟨earlier, later, rfl, -⟩ := h
  simp

/-- A condition may also speak of which steps the run takes. -/
theorem Meets.takes {C' : σ → ℓ → Prop} (h : Meets step C s ls)
    (himp : ∀ s' l, C s' l → Takes step s ls s' l → C' s' l) : Meets step C' s ls := by
  induction ls generalizing s with
  | nil => trivial
  | cons l ls ih =>
    refine ⟨himp s l h.1 ⟨[], ls, rfl, rfl⟩, fun s₁ hstep => ?_⟩
    apply ih (h.2 s₁ hstep)
    intro s' l' hC htakes
    exact himp s' l' hC (htakes.cons hstep)

/-- Steps that cost something are paid for by the potential or by the steps that raise it. -/
theorem countP_run_le (cost credit : ℓ → Bool) (φ : σ → Nat)
    (hstep : ∀ s l s', I s → l ∈ ls → C s l → step s l = some s' →
      I s' ∧ (cost l).toNat + φ s' ≤ φ s + (credit l).toNat)
    (h : I s) (hmeets : Meets step C s ls) (hrun : run step s ls = some s') :
    ls.countP cost + φ s' ≤ φ s + ls.countP credit := by
  induction ls generalizing s with
  | nil =>
    obtain rfl : s = s' := by simpa using hrun
    simp
  | cons l ls ih =>
    obtain ⟨s₁, h₁, hrun⟩ := run_cons_eq_some_iff.mp hrun
    obtain ⟨hI, hcost⟩ := hstep s l s₁ h List.mem_cons_self hmeets.1 h₁
    have hrest := ih (fun s l s' hI hmem => hstep s l s' hI (List.mem_cons_of_mem _ hmem)) hI
      (hmeets.2 s₁ h₁) hrun
    have hcount : ∀ p : ℓ → Bool, (l :: ls).countP p = ls.countP p + (p l).toNat := by
      intro p
      rw [List.countP_cons]
      cases p l <;> rfl
    rw [hcount cost, hcount credit]
    omega

end Transition
