import NebulaRpc.Library.Histogram
import NebulaRpc.Rpc.Metrics

/-!
# Percentiles

`LatencyHistogram::PercentileUs`, with the target rank computed in rational numbers. It is the
smallest bound which so many of the latencies do not exceed.
-/

namespace NebulaRpc.Rpc

/-- The percentiles that are printed. -/
def percentiles : List ℚ := [1 / 2, 95 / 100, 99 / 100]

namespace LatencyHistogram

def recordAll (latencies : List Int) : LatencyHistogram := latencies.foldl record {}

/-- The upper bound of a bucket; the last one has none. -/
def boundUs (i : Fin kBucketCount) : Int :=
  if i.val < kBoundCount then kBoundsUs.getD i.val 0 else -1

/-- The loop of `PercentileUs` over the buckets. -/
def percentileLoop (h : LatencyHistogram) (target : UInt64) :
    UInt64 → List (Fin kBucketCount) → Int
  | _, [] => -1
  | accumulated, i :: is =>
    let accumulated := accumulated + h.buckets i
    if accumulated ≥ target then boundUs i else h.percentileLoop target accumulated is

def targetRank (total : UInt64) (percentile : ℚ) : UInt64 :=
  .ofNat ⌊total.toNat * percentile + 999999 / 1000000⌋₊

def percentileUs (h : LatencyHistogram) (percentile : ℚ) : Int :=
  let total := h.count
  if total = 0 then 0
  else h.percentileLoop (targetRank total percentile) 0 (List.finRange kBucketCount)

/-- So many of the latencies do not exceed the bound. -/
def Reaches (latencies : List Int) (p : ℚ) (bound : Int) : Prop :=
  p * latencies.length ≤ (latencies.countP (· ≤ bound) : ℕ)

/-- The smallest bound that is reached, or -1 if there is none. -/
structure IsPercentile (latencies : List Int) (p : ℚ) (v : Int) : Prop where
  empty : latencies = [] → v = 0
  smallest : latencies ≠ [] → v ≠ -1 → v ∈ kBoundsUs ∧ Reaches latencies p v ∧
    ∀ bound ∈ kBoundsUs, Reaches latencies p bound → v ≤ bound
  overflow : latencies ≠ [] → (v = -1 ↔ ∀ bound ∈ kBoundsUs, ¬Reaches latencies p bound)

/-- The order of the percentiles, in which -1 is the largest one. -/
def rank (v : Int) : WithTop Int := if v = -1 then ⊤ else v

/-! ## The loop -/

variable {h : LatencyHistogram} {latencies : List Int} {p q : ℚ}

theorem counts_recordAll (hlt : latencies.length < 2 ^ 64) : (recordAll latencies).Counts latencies := by
  induction latencies using List.reverseRecOn with
  | nil => exact counts_nil
  | append_singleton latencies latency ih =>
    rw [List.length_append, List.length_singleton] at hlt
    rw [recordAll, List.foldl_append]
    exact (ih (by omega)).record hlt latency

/-- The loop ends at the first bucket with which the target is reached. -/
theorem percentileLoop_eq (target accumulated : UInt64) (is : List (Fin kBucketCount))
    (hlt : accumulated.toNat + (is.map fun i => (h.buckets i).toNat).sum < 2 ^ 64) :
    h.percentileLoop target accumulated is =
      ((is[Histogram.reachIndex target.toNat accumulated.toNat
        (is.map fun i => (h.buckets i).toNat)]?).map boundUs).getD (-1) := by
  induction is generalizing accumulated with
  | nil => rfl
  | cons i is ih =>
    rw [List.map_cons, List.sum_cons] at hlt
    have hadd : (accumulated + h.buckets i).toNat = accumulated.toNat + (h.buckets i).toNat := by
      rw [UInt64.toNat_add]
      exact Nat.mod_eq_of_lt (by omega)
    have hnext := ih (accumulated + h.buckets i) (by omega)
    rw [hadd] at hnext
    simp only [percentileLoop, List.map_cons, Histogram.reachIndex, ge_iff_le, UInt64.le_iff_toNat_le,
      hadd, hnext]
    split
    · rfl
    · rfl

/-- The counts of the buckets, from the first one on. -/
theorem Counts.map_buckets (hcounts : h.Counts latencies) :
    ((List.finRange kBucketCount).map fun i => (h.buckets i).toNat) =
      Histogram.counts kBoundsUs latencies := by
  refine List.ext_getElem (by simp [Histogram.counts, kBucketCount, kBoundCount, kBoundsUs]) ?_
  intro n hn _
  simp only [List.getElem_map, List.getElem_finRange, Histogram.counts, List.getElem_range,
    hcounts.buckets]
  refine List.countP_congr fun v _ => ?_
  rw [decide_eq_true_iff, decide_eq_true_iff, Fin.ext_iff]
  rfl

theorem boundUs_eq (n : Nat) :
    (((List.finRange kBucketCount)[n]?).map boundUs).getD (-1) = (kBoundsUs[n]?).getD (-1) := by
  obtain hlt | hge := Nat.lt_or_ge n kBucketCount
  · have hall : ∀ n < kBucketCount, (((List.finRange kBucketCount)[n]?).map boundUs).getD (-1) =
        (kBoundsUs[n]?).getD (-1) := by decide
    exact hall n hlt
  · have hbound : kBoundsUs.length ≤ n := Nat.le_of_succ_le hge
    rw [List.getElem?_eq_none (by simpa using hge), List.getElem?_eq_none hbound]
    rfl

/-- What the loop returns. -/
theorem Counts.percentileLoop (hcounts : h.Counts latencies) (hlt : latencies.length < 2 ^ 64)
    (target : UInt64) : h.percentileLoop target 0 (List.finRange kBucketCount) =
      (kBoundsUs[Histogram.reachIndex target.toNat 0 (Histogram.counts kBoundsUs latencies)]?).getD
        (-1) := by
  have hsum : ((Histogram.counts kBoundsUs latencies).sum : ℕ) = latencies.length := by
    have htake := Histogram.sum_take_counts kBoundsUs latencies (Nat.le_refl _)
    rw [List.take_of_length_le (Histogram.length_counts _ _).le] at htake
    rw [htake]
    exact List.countP_eq_length.mpr fun v _ => decide_eq_true (Histogram.bucket_lt _ v)
  have hmap := hcounts.map_buckets
  rw [percentileLoop_eq, hmap, boundUs_eq]
  · rfl
  · rw [hmap, hsum]
    simpa using hlt

/-! ## The target -/

/-- The percentiles are fractions whose multiples are far enough from the next integer. -/
theorem exists_fraction (hp : p ∈ percentiles) :
    ∃ a d : ℕ, p = a / d ∧ 0 < d ∧ d ≤ 1000000 ∧ a ≤ d := by
  simp only [percentiles, List.mem_cons, List.not_mem_nil, or_false] at hp
  obtain rfl | rfl | rfl := hp
  · exact ⟨1, 2, by norm_num, by norm_num, by norm_num, by norm_num⟩
  · exact ⟨95, 100, by norm_num, by norm_num, by norm_num, by norm_num⟩
  · exact ⟨99, 100, by norm_num, by norm_num, by norm_num, by norm_num⟩

/-- The constant 0.999999 rounds up. -/
theorem floor_le_iff {a d : ℕ} (hd : 0 < d) (hmax : d ≤ 1000000) (n k : ℕ) :
    ⌊(n * (a / d) + 999999 / 1000000 : ℚ)⌋₊ ≤ k ↔ (n * (a / d) : ℚ) ≤ k := by
  have hd' : (0 : ℚ) < d := by exact_mod_cast hd
  have hmax' : (d : ℚ) ≤ 1000000 := by exact_mod_cast hmax
  have hmul : (n * (a / d) : ℚ) = ((n * a : ℕ) : ℚ) / d := by
    push_cast
    ring
  rw [← Nat.lt_succ_iff, Nat.floor_lt (by positivity), hmul]
  push_cast
  refine ⟨fun hlt => ?_, fun hle => by linarith⟩
  -- a multiple of `1 / d` that is below `k + 1 / 1000000` is not above `k`
  have hfraction : ((n * a : ℕ) : ℚ) / d < k + 1 / 1000000 := by
    push_cast
    linarith
  rw [div_lt_iff₀ hd'] at hfraction
  have hnat : n * a < k * d + 1 := by
    have hcast : ((n * a : ℕ) : ℚ) < ((k * d + 1 : ℕ) : ℚ) := by
      push_cast at hfraction ⊢
      linarith
    exact_mod_cast hcast
  rw [div_le_iff₀ hd']
  exact_mod_cast Nat.lt_succ_iff.mp hnat

/-- The target is the number of latencies that are asked for. -/
theorem toNat_targetRank_le_iff (hp : p ∈ percentiles) (total : UInt64) (k : ℕ) :
    (targetRank total p).toNat ≤ k ↔ p * total.toNat ≤ k := by
  obtain ⟨a, d, rfl, hd, hmax, hle⟩ := exists_fraction hp
  have hiff := floor_le_iff (a := a) hd hmax total.toNat
  have hlt : ⌊(total.toNat * (a / d) + 999999 / 1000000 : ℚ)⌋₊ < 2 ^ 64 := by
    refine ((hiff total.toNat).mpr ?_).trans_lt total.toNat_lt
    have hone : (a / d : ℚ) ≤ 1 := div_le_one_of_le₀ (by exact_mod_cast hle) (by positivity)
    exact mul_le_of_le_one_right (by positivity) hone
  rw [targetRank, UInt64.toNat_ofNat', Nat.mod_eq_of_lt hlt, hiff, mul_comm]

/-! ## The percentile is exact -/

theorem sorted_kBoundsUs : kBoundsUs.Pairwise (· < ·) := by decide

/-- The bucket with which the target is reached is not behind a bound exactly if this is reached. -/
theorem reachIndex_le_iff (hcounts : h.Counts latencies) (hp : p ∈ percentiles) {i : Nat}
    (hi : i < kBoundsUs.length) :
    Histogram.reachIndex (targetRank h.count p).toNat 0 (Histogram.counts kBoundsUs latencies) ≤ i ↔
      Reaches latencies p kBoundsUs[i] := by
  rw [Histogram.reachIndex_le_iff (by rw [Histogram.length_counts]; omega), Nat.zero_add,
    Histogram.sum_take_counts_bound sorted_kBoundsUs latencies hi, toNat_targetRank_le_iff hp,
    hcounts.count]
  rfl

theorem percentileUs_eq (hlt : latencies.length < 2 ^ 64) (hne : latencies ≠ []) (p : ℚ) :
    (recordAll latencies).percentileUs p =
      (kBoundsUs[Histogram.reachIndex (targetRank (recordAll latencies).count p).toNat 0
        (Histogram.counts kBoundsUs latencies)]?).getD (-1) := by
  have hcounts := counts_recordAll hlt
  have hzero : (recordAll latencies).count ≠ 0 := by
    intro hzero
    have hcount := hcounts.count
    rw [hzero] at hcount
    exact hne (List.eq_nil_of_length_eq_zero hcount.symm)
  rw [percentileUs, if_neg hzero, hcounts.percentileLoop hlt]

/-- The percentile is a bound, from which on the bounds are reached, or no bound is reached. -/
theorem percentileUs_cases (hlt : latencies.length < 2 ^ 64) (hne : latencies ≠ [])
    (hp : p ∈ percentiles) :
    (∃ (i : Nat) (hi : i < kBoundsUs.length), (recordAll latencies).percentileUs p = kBoundsUs[i] ∧
      ∀ (j : Nat) (hj : j < kBoundsUs.length), Reaches latencies p kBoundsUs[j] ↔ i ≤ j) ∨
    (recordAll latencies).percentileUs p = -1 ∧
      ∀ (j : Nat) (hj : j < kBoundsUs.length), ¬Reaches latencies p kBoundsUs[j] := by
  have hiff := fun (j : Nat) (hj : j < kBoundsUs.length) =>
    (reachIndex_le_iff (counts_recordAll hlt) hp hj).symm
  rw [percentileUs_eq hlt hne]
  generalize Histogram.reachIndex (targetRank (recordAll latencies).count p).toNat 0
    (Histogram.counts kBoundsUs latencies) = i at hiff ⊢
  obtain hi | hi := Nat.lt_or_ge i kBoundsUs.length
  · exact .inl ⟨i, hi, by rw [List.getElem?_eq_getElem hi]; rfl, hiff⟩
  · refine .inr ⟨by rw [List.getElem?_eq_none hi]; rfl, fun j hj hreaches => ?_⟩
    have hle := (hiff j hj).mp hreaches
    omega

theorem getElem_kBoundsUs_le {i j : Nat} (hle : i ≤ j) (hj : j < kBoundsUs.length) :
    kBoundsUs[i] ≤ kBoundsUs[j] := by
  obtain rfl | hlt := hle.eq_or_lt
  · exact le_refl _
  · exact (List.pairwise_iff_getElem.mp sorted_kBoundsUs i j _ hj hlt).le

theorem getElem_kBoundsUs_ne {i : Nat} (hi : i < kBoundsUs.length) : kBoundsUs[i] ≠ -1 := by
  have hall : ∀ b ∈ kBoundsUs, b ≠ -1 := by decide
  exact hall _ (List.getElem_mem hi)

theorem isPercentile (hlt : latencies.length < 2 ^ 64) (hp : p ∈ percentiles) :
    IsPercentile latencies p ((recordAll latencies).percentileUs p) := by
  refine ⟨?_, fun hne hv => ?_, fun hne => ?_⟩
  · rintro rfl
    rfl
  · obtain ⟨i, hi, heq, hreaches⟩ | ⟨heq, -⟩ := percentileUs_cases hlt hne hp
    · rw [heq]
      refine ⟨List.getElem_mem hi, (hreaches i hi).mpr le_rfl, fun b hb hreach => ?_⟩
      obtain ⟨j, hj, rfl⟩ := List.getElem_of_mem hb
      exact getElem_kBoundsUs_le ((hreaches j hj).mp hreach) hj
    · exact absurd heq hv
  · obtain ⟨i, hi, heq, hreaches⟩ | ⟨heq, hnone⟩ := percentileUs_cases hlt hne hp
    · refine ⟨fun hv => absurd (heq.symm.trans hv) (getElem_kBoundsUs_ne hi), fun hnone => ?_⟩
      exact absurd ((hreaches i hi).mpr le_rfl) (hnone _ (List.getElem_mem hi))
    · refine ⟨fun _ b hb => ?_, fun _ => heq⟩
      obtain ⟨j, hj, rfl⟩ := List.getElem_of_mem hb
      exact hnone j hj

/-- A bound that is reached for a percentile is reached for the smaller ones. -/
theorem Reaches.mono {b : Int} (h : Reaches latencies q b) (hle : p ≤ q) : Reaches latencies p b :=
  (mul_le_mul_of_nonneg_right hle (by positivity)).trans h

theorem rank_percentileUs_le (hlt : latencies.length < 2 ^ 64) (hp : p ∈ percentiles)
    (hq : q ∈ percentiles) (hle : p ≤ q) :
    rank ((recordAll latencies).percentileUs p) ≤ rank ((recordAll latencies).percentileUs q) := by
  obtain rfl | hne := eq_or_ne latencies []
  · exact le_rfl
  obtain ⟨j, hj, heq, hreaches⟩ | ⟨heq, -⟩ := percentileUs_cases hlt hne hq
  · have hreach := ((hreaches j hj).mpr le_rfl).mono hle
    obtain ⟨i, hi, heq', hreaches'⟩ | ⟨-, hnone⟩ := percentileUs_cases hlt hne hp
    · rw [heq, heq', rank, rank, if_neg (getElem_kBoundsUs_ne hi), if_neg (getElem_kBoundsUs_ne hj)]
      exact WithTop.coe_le_coe.mpr (getElem_kBoundsUs_le ((hreaches' j hj).mp hreach) hj)
    · exact absurd hreach (hnone j hj)
  · rw [heq]
    exact le_top

/-- The percentiles are exact, and they grow. -/
theorem percentile_exact (latencies : List Int) (hlt : latencies.length < 2 ^ 64) :
    (∀ p ∈ percentiles, IsPercentile latencies p ((recordAll latencies).percentileUs p)) ∧
      ∀ p ∈ percentiles, ∀ q ∈ percentiles, p ≤ q →
        rank ((recordAll latencies).percentileUs p) ≤ rank ((recordAll latencies).percentileUs q) :=
  ⟨fun _ hp => isPercentile hlt hp, fun _ hp _ hq hle => rank_percentileUs_le hlt hp hq hle⟩

/-- Half of these latencies do not exceed a millisecond, and one is above all bounds. -/
theorem percentile_exact_sample :
    (recordAll [700, -3, 4000, 2000000]).percentileUs (1 / 2) = 1000 ∧
      (recordAll [700, -3, 4000, 2000000]).percentileUs (99 / 100) = -1 ∧
      ∀ p ∈ percentiles, IsPercentile [700, -3, 4000, 2000000] p
        ((recordAll [700, -3, 4000, 2000000]).percentileUs p) :=
  ⟨by decide +kernel, by decide +kernel, (percentile_exact [700, -3, 4000, 2000000] (by decide)).1⟩

end LatencyHistogram

end NebulaRpc.Rpc
