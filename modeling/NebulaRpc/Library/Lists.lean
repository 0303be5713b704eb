import Mathlib.Tactic

/-!
# Lists that are indexed by number

A table in which things have the number at which they were entered: entries are appended, and an
entry is replaced at its number.
-/

namespace Lists

variable {α β : Type*} {xs : List α} {x y z : α} {n m : Nat}

theorem getElem?_concat_eq_some_iff :
    (xs ++ [y])[n]? = some x ↔ xs[n]? = some x ∨ n = xs.length ∧ x = y := by
  by_cases hlt : n < xs.length
  · rw [List.getElem?_append_left hlt]
    simp [Nat.ne_of_lt hlt]
  · have hold : xs[n]? = none := List.getElem?_eq_none (Nat.not_lt.mp hlt)
    rw [List.getElem?_append_right (Nat.not_lt.mp hlt), hold]
    obtain rfl | hne := eq_or_ne n xs.length
    · simp [eq_comm]
    · have hnone : [y][n - xs.length]? = none := by
        rw [List.getElem?_eq_none_iff, List.length_singleton]
        omega
      simp [hnone, hne]

/-- The entries behind the replacement of one of them. -/
theorem getElem?_set_eq_some (hget : xs[n]? = some x) (h : (xs.set n y)[m]? = some z) :
    m = n ∧ z = y ∨ m ≠ n ∧ xs[m]? = some z := by
  obtain rfl | hne := eq_or_ne n m
  · rw [List.getElem?_set_self (List.getElem?_eq_some_iff.mp hget).1, Option.some.injEq] at h
    exact .inl ⟨rfl, h.symm⟩
  · rw [List.getElem?_set_ne hne] at h
    exact .inr ⟨hne.symm, h⟩

/-- Every entry is in one of finitely many classes. -/
theorem sum_countP_eq_length [Fintype β] [DecidableEq β] (f : α → β) (xs : List α) :
    ∑ b, xs.countP (f · = b) = xs.length := by
  induction xs with
  | nil => simp
  | cons x xs ih => simp [List.countP_cons, Finset.sum_add_distrib, ih]

theorem countP_lt_succ (f : α → Nat) (n : Nat) (xs : List α) :
    xs.countP (f · < n + 1) = xs.countP (f · < n) + xs.countP (f · = n) := by
  induction xs with
  | nil => rfl
  | cons x xs ih =>
    simp only [List.countP_cons, ih, decide_eq_true_eq]
    split_ifs <;> omega

/-- Two tests that never pass together. -/
theorem countP_add_countP_le {p q : α → Bool} (h : ∀ x, p x = true → q x = false) (xs : List α) :
    xs.countP p + xs.countP q ≤ xs.length := by
  have hle : xs.countP q ≤ xs.countP fun x => !p x := by
    refine List.countP_mono_left fun x _ hq => ?_
    cases hp : p x with
    | false => rfl
    | true => exact absurd (h x hp) (by simp [hq])
  have hlength := xs.length_eq_countP_add_countP p
  simp only [Bool.not_eq_true, Bool.decide_eq_false] at hlength
  omega

/-- What the entries hold is what one of them holds and what the others hold. -/
theorem flatMap_perm_eraseIdx (f : α → List β) (hget : xs[n]? = some x) :
    (xs.flatMap f).Perm (f x ++ (xs.eraseIdx n).flatMap f) := by
  obtain ⟨hlt, rfl⟩ := List.getElem?_eq_some_iff.mp hget
  exact (List.getElem_cons_eraseIdx_perm hlt).symm.flatMap_right f

theorem flatMap_set_perm_eraseIdx (f : α → List β) (hget : xs[n]? = some x) (y : α) :
    ((xs.set n y).flatMap f).Perm (f y ++ (xs.eraseIdx n).flatMap f) := by
  obtain ⟨hlt, -⟩ := List.getElem?_eq_some_iff.mp hget
  exact (List.set_perm_cons_eraseIdx hlt y).flatMap_right f

end Lists
