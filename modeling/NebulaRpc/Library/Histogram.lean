import NebulaRpc.Library.Lists

/-!
# Histograms with increasing bounds

Every value goes into the bucket of the first bound that it does not exceed, or into the last bucket.
Only the counts of the buckets are kept. The counts up to a bound add up to the number of the values
that do not exceed it, and so the first bucket up to which a given number of values has been counted
is the first bound with so many values below it.
-/

namespace Histogram

variable {α : Type*} [LinearOrder α] {bounds : List α}

/-- The bucket of a value. -/
def bucket (bounds : List α) (v : α) : Nat := bounds.findIdx (v ≤ ·)

theorem bucket_lt (bounds : List α) (v : α) : bucket bounds v < bounds.length + 1 :=
  Nat.lt_succ_of_le List.findIdx_le_length

/-- A value does not exceed a bound exactly if its bucket is not behind this bound. -/
theorem bucket_le_iff (hsorted : bounds.Pairwise (· < ·)) {i : Nat} (hi : i < bounds.length) (v : α) :
    bucket bounds v ≤ i ↔ v ≤ bounds[i] := by
  refine ⟨fun hle => ?_, fun hle => ?_⟩
  · have hlt : bucket bounds v < bounds.length := hle.trans_lt hi
    have hbucket : v ≤ bounds[bucket bounds v] :=
      of_decide_eq_true (bounds.findIdx_of_getElem?_eq_some (List.getElem?_eq_getElem hlt))
    obtain heq | hlt' := hle.eq_or_lt
    · simpa only [heq] using hbucket
    · exact hbucket.trans (List.pairwise_iff_getElem.mp hsorted _ _ hlt hi hlt').le
  · by_contra hnot
    have hfalse : decide (v ≤ bounds[i]) = false := List.not_of_lt_findIdx (Nat.lt_of_not_le hnot)
    simp [hle] at hfalse

/-- The counts of the buckets. -/
def counts (bounds values : List α) : List Nat :=
  (List.range (bounds.length + 1)).map fun i => values.countP (bucket bounds · = i)

theorem length_counts (bounds values : List α) : (counts bounds values).length = bounds.length + 1 := by
  simp [counts]

/-- The counts of the first buckets add up. -/
theorem sum_take_counts (bounds values : List α) {n : Nat} (hn : n ≤ bounds.length + 1) :
    ((counts bounds values).take n).sum = values.countP (bucket bounds · < n) := by
  induction n with
  | zero => simp
  | succ n ih =>
    have hsplit := Lists.countP_lt_succ (bucket bounds) n values
    rw [List.take_succ_eq_append_getElem (by rw [length_counts]; omega), List.sum_append, ih (by omega),
      hsplit]
    simp [counts]

/-- The values that do not exceed a bound are in the buckets up to it. -/
theorem sum_take_counts_bound (hsorted : bounds.Pairwise (· < ·)) (values : List α) {i : Nat}
    (hi : i < bounds.length) :
    ((counts bounds values).take (i + 1)).sum = values.countP (· ≤ bounds[i]) := by
  rw [sum_take_counts bounds values (by omega)]
  refine List.countP_congr fun v _ => ?_
  simpa [Nat.lt_succ_iff] using bucket_le_iff hsorted hi v

/-- The index of the first count with which the sum reaches the target. -/
def reachIndex (target : Nat) : Nat → List Nat → Nat
  | _, [] => 0
  | sum, count :: counts =>
    if target ≤ sum + count then 0 else reachIndex target (sum + count) counts + 1

theorem reachIndex_le_iff {target sum : Nat} {counts : List Nat} {i : Nat} (hi : i < counts.length) :
    reachIndex target sum counts ≤ i ↔ target ≤ sum + (counts.take (i + 1)).sum := by
  induction counts generalizing sum i with
  | nil => cases hi
  | cons count counts ih =>
    rw [reachIndex, List.take_succ_cons, List.sum_cons]
    split
    · next hreach =>
      refine ⟨fun _ => by omega, fun _ => Nat.zero_le _⟩
    · next hreach =>
      cases i with
      | zero => simp [hreach]
      | succ i =>
        have hnext : reachIndex target (sum + count) counts ≤ i ↔
            target ≤ sum + count + (counts.take (i + 1)).sum := ih (by simpa using hi)
        rw [Nat.add_le_add_iff_right, hnext, Nat.add_assoc]

end Histogram
