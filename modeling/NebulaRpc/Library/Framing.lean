import Mathlib.Data.List.Basic
import Mathlib.Tactic

/-!
# Framing a byte stream

A framer looks at the unconsumed input and says that it needs more, that the input is bad, or
that it starts with an item of a given size. If those verdicts are stable when input is appended,
draining the input item by item gives the same items however the input was cut into pieces.

The only induction principle a client needs is `drain_eq`, the equation of the drain loop.
-/

namespace Framing

variable {β ε α : Type*}

/-- What a framer says about the unconsumed input. -/
inductive Verdict (ε α : Type*) where
  | more
  | bad (error : ε)
  | ok (item : α) (size : Nat)

/-- A framer whose verdicts survive more input arriving. -/
structure Framer (β ε α : Type*) where
  next : List β → Verdict ε α
  size_pos : ∀ {s a n}, next s = .ok a n → 0 < n
  size_le : ∀ {s a n}, next s = .ok a n → n ≤ s.length
  ok_append : ∀ {s a n} t, next s = .ok a n → next (s ++ t) = .ok a n
  bad_append : ∀ {s e} t, next s = .bad e → next (s ++ t) = .bad e

/-- Everything that can be observed of a drained stream. -/
@[ext] structure Outcome (β ε α : Type*) where
  items : List α
  error : Option ε
  rest : List β

/-- Take items off the input until the framer asks for more or rejects it. -/
def drain (F : Framer β ε α) (s : List β) : Outcome β ε α :=
  match h : F.next s with
  | .more => ⟨[], none, s⟩
  | .bad e => ⟨[], some e, s⟩
  | .ok a n =>
    let d := drain F (s.drop n)
    ⟨a :: d.items, d.error, d.rest⟩
termination_by s.length
decreasing_by
  have hpos := F.size_pos h
  have hle := F.size_le h
  simp only [List.length_drop]
  omega

section Drain

variable {F : Framer β ε α} {s : List β}

theorem drain_of_more (h : F.next s = .more) : drain F s = ⟨[], none, s⟩ := by
  rw [drain]; split <;> simp_all

theorem drain_of_bad {e : ε} (h : F.next s = .bad e) : drain F s = ⟨[], some e, s⟩ := by
  rw [drain]; split <;> simp_all

theorem drain_of_ok {a : α} {n : Nat} (h : F.next s = .ok a n) :
    drain F s = ⟨a :: (drain F (s.drop n)).items, (drain F (s.drop n)).error,
      (drain F (s.drop n)).rest⟩ := by
  rw [drain]
  split
  · simp_all
  · simp_all
  · next a' n' h' =>
    rw [h] at h'
    cases h'
    rfl

end Drain

/-- Draining with more input behind: continue where the drain stopped. If it stopped at an
error, the new input is left behind the bad bytes. -/
theorem drain_append (F : Framer β ε α) (s t : List β) :
    drain F (s ++ t) =
      ⟨(drain F s).items ++ (drain F ((drain F s).rest ++ t)).items,
        (drain F ((drain F s).rest ++ t)).error, (drain F ((drain F s).rest ++ t)).rest⟩ := by
  induction hlen : s.length using Nat.strong_induction_on generalizing s with
  | _ k ih =>
    cases h : F.next s with
    | more => rw [drain_of_more h]; simp
    | bad e => rw [drain_of_bad h]; simp
    | ok a n =>
      have hpos := F.size_pos h
      have hle := F.size_le h
      have hrec := ih (s.drop n).length (by simp; omega) (s.drop n) rfl
      rw [drain_of_ok (F.ok_append t h), drain_of_ok h, List.drop_append_of_le_length hle, hrec]
      simp

/-- A drain that stopped at an error stays there, whatever is appended. -/
theorem drain_rest_append_of_error (F : Framer β ε α) (s t : List β) {e : ε}
    (h : (drain F s).error = some e) :
    drain F ((drain F s).rest ++ t) = ⟨[], some e, (drain F s).rest ++ t⟩ := by
  induction hlen : s.length using Nat.strong_induction_on generalizing s with
  | _ k ih =>
    cases hn : F.next s with
    | more => rw [drain_of_more hn] at h; simp at h
    | bad e' =>
      rw [drain_of_bad hn] at h ⊢
      cases h
      exact drain_of_bad (F.bad_append t hn)
    | ok a n =>
      have hpos := F.size_pos hn
      have hle := F.size_le hn
      rw [drain_of_ok hn] at h ⊢
      exact ih (s.drop n).length (by simp; omega) (s.drop n) h rfl

/-- A drain that did not stop at an error stopped where the framer asks for more. -/
theorem next_rest_of_no_error (F : Framer β ε α) (s : List β) (h : (drain F s).error = none) :
    F.next (drain F s).rest = .more := by
  induction hlen : s.length using Nat.strong_induction_on generalizing s with
  | _ k ih =>
    cases hn : F.next s with
    | more => rw [drain_of_more hn]; exact hn
    | bad e => rw [drain_of_bad hn] at h; cases h
    | ok a n =>
      have hpos := F.size_pos hn
      have hle := F.size_le hn
      rw [drain_of_ok hn] at h ⊢
      exact ih (s.drop n).length (by simp; omega) (s.drop n) h rfl

/-- Receive one piece of input behind what an earlier drain left. -/
def receive (F : Framer β ε α) (o : Outcome β ε α) (piece : List β) : Outcome β ε α :=
  let d := drain F (o.rest ++ piece)
  ⟨o.items ++ d.items, d.error, d.rest⟩

end Framing
