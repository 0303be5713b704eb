import NebulaRpc.Library.Transition

/-!
# Histories

A log of events is lawful if each of them was allowed after those before it. An event that is not
allowed again after one of its kind occurs at most once. The steps of a run write a log, and an
invariant may speak of it.
-/

namespace History

variable {ε : Type*} {legal : List ε → ε → Prop} {log events : List ε} {e : ε}

/-- Every event was allowed when it was written down. -/
def Lawful (legal : List ε → ε → Prop) (log : List ε) : Prop :=
  ∀ before e after, log = before ++ e :: after → legal before e

theorem lawful_nil : Lawful legal [] := by
  intro before e after h
  simp at h

theorem Lawful.snoc (h : Lawful legal log) (he : legal log e) : Lawful legal (log ++ [e]) := by
  intro before e' after heq
  obtain rfl | ⟨last, front, rfl⟩ := List.eq_nil_or_concat' after
  · obtain ⟨rfl, heq⟩ := List.append_inj' heq rfl
    obtain rfl : e = e' := by simpa using heq
    exact he
  · have heq' : log ++ [e] = (before ++ e' :: last) ++ [front] := by simpa using heq
    obtain ⟨rfl, -⟩ := List.append_inj' heq' rfl
    exact h before e' last rfl

/-- An event of a kind that is not allowed a second time occurs at most once. -/
theorem Lawful.countP_le_one {p : ε → Bool} (h : Lawful legal log)
    (honce : ∀ before e, legal before e → p e → ∀ e' ∈ before, ¬ p e') : log.countP p ≤ 1 := by
  induction log using List.reverseRecOn with
  | nil => simp
  | append_singleton log e ih =>
    have hlog : Lawful legal log := by
      rintro before e' after rfl
      exact h before e' (after ++ [e]) (by simp)
    rw [List.countP_append, List.countP_singleton]
    split
    · rename_i hp
      have hzero : log.countP p = 0 :=
        List.countP_eq_zero.mpr (honce log e (h log e [] rfl) hp)
      omega
    · simpa using ih hlog

/-! ## Runs -/

variable {σ ℓ : Type*} {step : σ → ℓ → Option σ} {see : σ → ℓ → σ → List ε} {C : σ → ℓ → Prop}
  {I : List ε → σ → Prop} {s s' : σ} {ls : List ℓ}

/-- What is seen of the steps of a run. -/
def recorded (step : σ → ℓ → Option σ) (see : σ → ℓ → σ → List ε) : σ → List ℓ → List ε
  | _, [] => []
  | s, l :: ls =>
    match step s l with
    | some s' => see s l s' ++ recorded step see s' ls
    | none => []

/-- As `Transition.invariant_run`, for an invariant that knows what has been seen. -/
theorem invariant_recorded
    (hstep : ∀ log s l s', I log s → C s l → step s l = some s' → I (log ++ see s l s') s')
    (h : I log s) (hmeets : Transition.Meets step C s ls)
    (hrun : Transition.run step s ls = some s') : I (log ++ recorded step see s ls) s' := by
  induction ls generalizing s log with
  | nil =>
    obtain rfl : s = s' := by simpa using hrun
    simpa [recorded] using h
  | cons l ls ih =>
    obtain ⟨s₁, h₁, hrun⟩ := Transition.run_cons_eq_some_iff.mp hrun
    have hrest := ih (hstep log s l s₁ h hmeets.1 h₁) (hmeets.2 s₁ h₁) hrun
    simpa [recorded, h₁] using hrest

end History
