import Mathlib.Data.List.Basic
import Mathlib.Tactic

/-!
# Intrusive doubly linked lists

Nodes are named by an index type and carry their own `prev` and `next` links; a list is given by
its two ends. `IsList` says which sequence of nodes such a list stands for. The two operations are
linking a node behind the tail and unlinking a node from anywhere; both are stated in terms of the
links after the operation, so that a client may keep its nodes in any store.
-/

namespace Intrusive

variable {ι : Type*}

/-- The list with the ends `head` and `tail` consists of the nodes `xs`, in this order. -/
structure IsList (prev next : ι → Option ι) (head tail : Option ι) (xs : List ι) : Prop where
  nodup : xs.Nodup
  head_eq : head = xs.head?
  tail_eq : tail = xs.getLast?
  links : ∀ l x r, xs = l ++ x :: r → prev x = l.getLast? ∧ next x = r.head?

namespace IsList

variable {prev next prev' next' : ι → Option ι} {head tail head' tail' : Option ι} {x : ι}
  {xs : List ι}

theorem nil : IsList prev next none none [] :=
  ⟨List.nodup_nil, rfl, rfl, by intro l x r h; simp at h⟩

/-- Only the links of the members matter. -/
theorem congr (h : IsList prev next head tail xs)
    (hp : ∀ y ∈ xs, prev' y = prev y) (hn : ∀ y ∈ xs, next' y = next y) :
    IsList prev' next' head tail xs := by
  refine ⟨h.nodup, h.head_eq, h.tail_eq, ?_⟩
  intro l y r heq
  have hy : y ∈ xs := by simp [heq]
  rw [hp y hy, hn y hy]
  exact h.links l y r heq

theorem tail_none_iff (h : IsList prev next head tail xs) : tail = none ↔ xs = [] := by
  rw [h.tail_eq, List.getLast?_eq_none_iff]

/-- Link a new node behind the tail. -/
theorem concat (h : IsList prev next head tail xs) (hx : x ∉ xs)
    (hpx : prev' x = tail) (hnx : next' x = none)
    (hp : ∀ y ∈ xs, prev' y = prev y)
    (hn : ∀ y ∈ xs, tail ≠ some y → next' y = next y)
    (ht : ∀ y ∈ xs, tail = some y → next' y = some x)
    (hhead : head' = if tail = none then some x else head) :
    IsList prev' next' head' (some x) (xs ++ [x]) := by
  refine ⟨?_, ?_, by simp, ?_⟩
  · rw [List.nodup_append]
    refine ⟨h.nodup, by simp, ?_⟩
    rintro a ha b hb rfl
    simp only [List.mem_singleton] at hb
    exact hx (hb ▸ ha)
  · rw [hhead]
    split
    · next hnone => simp [h.tail_none_iff.mp hnone]
    · next hsome =>
      cases xs with
      | nil => exact absurd (h.tail_none_iff.mpr rfl) hsome
      | cons a xs => simp [h.head_eq]
  · intro l y r heq
    obtain rfl | ⟨r, z, rfl⟩ := List.eq_nil_or_concat r
    · obtain ⟨rfl, rfl⟩ : xs = l ∧ x = y := by simpa using heq
      exact ⟨hpx.trans h.tail_eq, hnx⟩
    · obtain ⟨hxs, rfl⟩ : xs = l ++ y :: r ∧ x = z := by
        have hsplit : xs ++ [x] = (l ++ y :: r) ++ [z] := by simpa using heq
        obtain ⟨hxs, hz⟩ := List.append_inj' hsplit rfl
        exact ⟨hxs, by simpa using hz⟩
      have hy : y ∈ xs := by simp [hxs]
      obtain ⟨hprev, hnext⟩ := h.links l y r hxs
      refine ⟨(hp y hy).trans hprev, ?_⟩
      cases r with
      | nil =>
        have hlast : tail = some y := by rw [h.tail_eq, hxs]; simp
        simpa using ht y hy hlast
      | cons a r =>
        have hnot : tail ≠ some y := by
          rw [h.tail_eq, hxs]
          intro hlast
          have hnd := h.nodup
          rw [hxs] at hnd
          have hmem : y ∈ a :: r := by
            have : (a :: r).getLast? = some y := by simpa using hlast
            exact List.mem_of_getLast? this
          grind
        rw [hn y hy hnot, hnext]
        simp

/-- Unlink a node, wherever it stands. -/
theorem unlink [DecidableEq ι] {l r : List ι} (h : IsList prev next head tail (l ++ x :: r))
    (hp : ∀ y ∈ l ++ r, prev' y = if next x = some y then prev x else prev y)
    (hn : ∀ y ∈ l ++ r, next' y = if prev x = some y then next x else next y)
    (hhead : head' = if prev x = none then next x else head)
    (htail : tail' = if next x = none then prev x else tail) :
    IsList prev' next' head' tail' (l ++ r) := by
  have hnd := h.nodup
  have hnodup : (l ++ r).Nodup := by
    rw [List.nodup_append] at hnd ⊢
    grind
  obtain ⟨hprev, hnext⟩ := h.links l x r rfl
  refine ⟨hnodup, ?_, ?_, ?_⟩
  · rw [hhead, hprev, hnext, h.head_eq]
    cases l <;> simp
  · rw [htail, hprev, hnext, h.tail_eq]
    cases r <;> simp
  · intro l' y r' heq
    have hy : y ∈ l ++ r := by simp [heq]
    rw [hp y hy, hn y hy]
    obtain ⟨m, rfl, rfl⟩ | ⟨m, rfl, hm⟩ := List.append_eq_append_iff.mp heq
    · -- `y` stands behind the gap
      have hne : prev x ≠ some y := by
        rw [hprev]
        intro hlast
        have := List.mem_of_getLast? hlast
        grind
      rw [if_neg hne]
      cases m with
      | nil =>
        obtain ⟨hpy, hny⟩ := h.links (l ++ [x]) y r' (by simp)
        simp [hnext, hny, hprev]
      | cons a m =>
        obtain ⟨hpy, hny⟩ := h.links (l ++ x :: a :: m) y r' (by simp)
        have hne' : next x ≠ some y := by
          rw [hnext]
          intro hfirst
          grind
        rw [if_neg hne', hpy, hny]
        simp
    · -- `y` stands before the gap
      cases m with
      | nil =>
        simp only [List.append_nil, List.nil_append] at hm hprev
        subst hm
        obtain ⟨hpy, hny⟩ := h.links (l' ++ [x]) y r' (by simp)
        have hne : prev x ≠ some y := by
          rw [hprev]
          intro hlast
          have := List.mem_of_getLast? hlast
          grind
        have hfirst : next x = some y := by rw [hnext]; rfl
        rw [if_pos hfirst, if_neg hne, hprev, hny]
        simp
      | cons a m =>
        obtain ⟨rfl, rfl⟩ : y = a ∧ r' = m ++ r := by simpa using hm
        obtain ⟨hpy, hny⟩ := h.links l' y (m ++ x :: r) (by simp)
        have hne' : next x ≠ some y := by
          rw [hnext]
          intro hfirst
          have := List.mem_of_head? hfirst
          grind
        rw [if_neg hne', hpy, hny, hprev]
        refine ⟨rfl, ?_⟩
        cases m using List.reverseRecOn with
        | nil => simp [hnext]
        | append_singleton m b _ =>
          have hlast : (l' ++ y :: (m ++ [b])).getLast? = some b := by
            rw [show l' ++ y :: (m ++ [b]) = (l' ++ y :: m) ++ [b] by simp, List.getLast?_concat]
          have hne : some b ≠ some y := by grind
          rw [hlast, if_neg hne]
          cases m <;> rfl

end IsList

end Intrusive
