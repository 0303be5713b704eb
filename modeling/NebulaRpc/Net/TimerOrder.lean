import NebulaRpc.Net.TimerRuns

/-!
# The order of timers with one deadline

Buckets are filled at the tail, so two timers with the same deadline stay in the order in which they
reach a common bucket. That is the order of their registration only if the later one does not get
ahead: it must be filed in the bucket where the earlier one is, or in a bucket that is cascaded at
the same tick as the earlier one's and after it. `Paired` is the invariant, `PairStaged` what becomes
of it while the levels are cascaded.
-/

namespace NebulaRpc.Net

namespace TimerQueue

variable {α : Type*} {q q' : TimerQueue α} {B B' : Nat × Nat → List Nat} {i j : Nat}

/-! ## Arithmetic -/

/-- Where `CascadeLevel` sends a timer. -/
def cascadeTarget (c e : Nat) : Nat × Nat :=
  if e ≤ c then (0, c % kWheelSize) else placeFor c e

/-- The digit of a deadline tick that a level goes by. -/
def digit (e level : Nat) : Nat := e / kWheelQuantumTicks level % kWheelSize

theorem Stage.bucket_eq {s c e L b r : Nat} (h : Stage s c e L b r) (hL : 1 ≤ L) :
    b = digit e L := by
  cases h with
  | ready hready =>
    unfold Ready at hready
    split at hready
    · omega
    · cases hready with
      | near => omega
      | overdue => omega
      | tens => rfl
      | hundreds => rfl
      | thousands => rfl
  | due _ _ hcur _ heq => rw [hcur.2, digit, heq]
  | waiting hL3 _ hcur _ _ hmod =>
    subst hL3
    rw [hcur.2, digit]
    exact hmod.symm

/-- A timer stands at least as high as a new one for the same tick would. -/
theorem Placed.level_ge {c e L b r : Nat} (h : Placed c e L b r) (hlt : c < e) :
    wheelLevelFor (e - c) ≤ L := by
  unfold wheelLevelFor
  cases h with
  | near => split_ifs <;> omega
  | overdue => omega
  | tens => split_ifs <;> omega
  | hundreds => split_ifs <;> omega
  | thousands => split_ifs <;> omega

/-- On the same level two timers for the same tick are in the same bucket. -/
theorem Placed.bucket_unique {c e L b b' r r' : Nat} (h : Placed c e L b r)
    (h' : Placed c e L b' r') : b = b' := by
  cases h <;> cases h' <;> first | rfl | omega

/-- Levels above `s` have been cascaded, so their timers are not due in this bucket. -/
theorem Stage.lt_digit {s c e L b r : Nat} (h : Stage s c e L b r) (hs : s < L) (hL : 1 ≤ L) :
    c / kWheelQuantumTicks L < e / kWheelQuantumTicks L := by
  cases h with
  | ready hready =>
    unfold Ready at hready
    split at hready
    · omega
    · cases hready with
      | near => omega
      | overdue => omega
      | tens _ h => exact h
      | hundreds _ h => exact h
      | thousands h => exact h
  | due _ h => omega
  | waiting h h' => omega

theorem Stage.le_three {s c e L b r : Nat} (h : Stage s c e L b r) (hs : s ≤ 3) : L ≤ 3 := by
  cases h with
  | ready hready =>
    unfold Ready at hready
    split at hready
    · omega
    · cases hready <;> omega
  | due _ h => omega
  | waiting h => omega

/-- A timer leaves a coarse bucket together with those of a finer level whose digit is zero, or
lands above them. -/
theorem catch_up {s c e l : Nat} (hs : s < 3) (hc : c % kWheelQuantumTicks (s + 1) = 0)
    (he : e / kWheelQuantumTicks (s + 1) = c / kWheelQuantumTicks (s + 1)) (hl : 1 ≤ l)
    (hls : l ≤ s) (hdigit : digit e l = 0) :
    (c % kWheelQuantumTicks l = 0 ∧ e / kWheelQuantumTicks l = c / kWheelQuantumTicks l) ∨
      l < (cascadeTarget c e).1 := by
  unfold digit kWheelSize at hdigit
  have hcases : (s = 1 ∧ l = 1) ∨ (s = 2 ∧ l = 2) ∨ (s = 2 ∧ l = 1) := by omega
  rcases hcases with ⟨rfl, rfl⟩ | ⟨rfl, rfl⟩ | ⟨rfl, rfl⟩
  · simp only [kWheelQuantumTicks] at *
    left; omega
  · simp only [kWheelQuantumTicks] at *
    left; omega
  · simp only [kWheelQuantumTicks] at *
    by_cases hhundreds : e / 100 = c / 100
    · left; omega
    · right
      rw [cascadeTarget, if_neg (by omega), placeFor, wheelLevelFor, if_neg (by omega),
        if_neg (by omega), if_pos (by omega)]
      exact Nat.one_lt_two

theorem cascadeTarget_level_lt {c e l : Nat} (hl : 1 ≤ l) (hl3 : l ≤ 3)
    (hc : c % kWheelQuantumTicks l = 0) (he : e / kWheelQuantumTicks l = c / kWheelQuantumTicks l) :
    (cascadeTarget c e).1 < l := by
  unfold cascadeTarget
  split
  · exact hl
  · obtain ⟨s, rfl⟩ : ∃ s, l = s + 1 := ⟨l - 1, by omega⟩
    exact Nat.lt_succ_of_le (level_placeFor_lt (by omega) hc he)

/-! ## Lists -/

theorem sublist_pair_append {xs ys : List Nat} (hi : i ∈ xs) (hj : j ∈ ys) :
    [i, j].Sublist (xs ++ ys) :=
  (List.singleton_sublist.mpr hi).append (List.singleton_sublist.mpr hj)

theorem sublist_pair_or {xs : List Nat} (hi : i ∈ xs) (hj : j ∈ xs) (hne : i ≠ j) :
    [i, j].Sublist xs ∨ [j, i].Sublist xs := by
  obtain ⟨l, r, rfl⟩ := List.append_of_mem hi
  rcases List.mem_append.mp hj with hj | hj
  · right
    exact sublist_pair_append hj (by simp)
  · rcases List.mem_cons.mp hj with rfl | hj
    · exact absurd rfl hne
    · left
      have hi : i ∈ l ++ [i] := by simp
      simpa using sublist_pair_append hi hj

theorem sublist_pair_asymm {xs : List Nat} (hnodup : xs.Nodup) (h : [i, j].Sublist xs) :
    ¬ [j, i].Sublist xs := by
  intro h'
  induction xs with
  | nil => cases h
  | cons a xs ih =>
    obtain ⟨ha, hnodup⟩ := List.nodup_cons.mp hnodup
    cases h with
    | cons _ h =>
      cases h' with
      | cons _ h' => exact ih hnodup h h'
      | cons_cons _ h' => exact ha (h.subset (by simp))
    | cons_cons _ h =>
      cases h' with
      | cons _ h' => exact ha (h'.subset (by simp))
      | cons_cons _ h' => exact ha (h.subset (by simp))

/-- Taking out other elements does not change the order of two. -/
theorem sublist_pair_of_sublist {xs xs' : List Nat} (hnodup : xs.Nodup) (hsub : xs'.Sublist xs)
    (h : [i, j].Sublist xs) (hi : i ∈ xs') (hj : j ∈ xs') : [i, j].Sublist xs' := by
  have hne : i ≠ j := by
    rintro rfl
    have := hnodup.sublist h
    simp at this
  exact (sublist_pair_or hi hj hne).resolve_right fun h' =>
    sublist_pair_asymm hnodup h (h'.trans hsub)

/-! ## Two timers in the wheel -/

/-- The slot `i` stays ahead of the slot `j`: it is before it in the same bucket, or it is on a
coarser level and will be cascaded in time. -/
def Paired (q : TimerQueue α) (B : Nat × Nat → List Nat) (i j : Nat) (f g : Filed α) : Prop :=
  (f.place = g.place ∧ [i, j].Sublist (B f.place)) ∨
    (1 ≤ g.place.1 ∧ g.place.1 < f.place.1 ∧ digit (q.dueTick g) g.place.1 = 0)

/-- The same while the levels up to `s` wait to be cascaded: the slot `i` may also have arrived
where `j` will be put. -/
def PairStaged (s : Nat) (q : TimerQueue α) (B : Nat × Nat → List Nat) (i j : Nat)
    (f g : Filed α) : Prop :=
  Paired q B i j f g ∨
    (1 ≤ g.place.1 ∧ g.place.1 ≤ s ∧ Current q.currentTick g.place.1 g.place.2 ∧
      q.dueTick g / kWheelQuantumTicks g.place.1 =
        q.currentTick / kWheelQuantumTicks g.place.1 ∧
      f.place = cascadeTarget q.currentTick (q.dueTick g))

theorem place_cascaded {level c e : Nat} {f : Filed α} (hgo : ¬ (level = 3 ∧ f.rounds > 0)) :
    (f.cascaded level c e).place = cascadeTarget c e := by
  rw [Filed.cascaded, if_neg hgo, cascadeTarget]
  split <;> rfl

theorem place_cascaded_wait {level c e : Nat} {f : Filed α} (hwait : level = 3 ∧ f.rounds > 0) :
    (f.cascaded level c e).place = f.place := by
  rw [Filed.cascaded, if_pos hwait]

/-- Timers for the same tick in the current bucket have the same rounds to wait. -/
theorem Stage.rounds_pos_iff {c e b r r' : Nat} (h : Stage 3 c e 3 b r) (h' : Stage 3 c e 3 b r')
    (hcur : Current c 3 b) : r > 0 ↔ r' > 0 := by
  have hno : ∀ r, Stage 3 c e 3 b r → (r > 0 ↔ c / 1000 < e / 1000) := by
    intro r h
    cases h with
    | ready _ h => exact absurd hcur (h (by omega) le_rfl)
    | due _ _ _ hr heq =>
      have heq' : e / 1000 = c / 1000 := heq
      have := hr rfl
      omega
    | waiting _ _ _ hpos hlt => omega
  rw [hno r h, hno r' h']

section Cascade

variable {s : Nat} (hs : s < 3) (hco : Coherent q B)
  (hc : q.currentTick % kWheelQuantumTicks (s + 1) = 0) (hst : Staged (s + 1) q)
  (hcas : Cascaded q B (s + 1) (q.currentBucket (s + 1)) [] (B (q.currentBucket (s + 1))) q' B')
  {f g : Filed α} (hf : q.filed i = some f) (hg : q.filed j = some g)
  (hdue : q.dueTick f = q.dueTick g)

include hcas in
theorem Cascaded.dueTick_eq (f : Filed α) : q'.dueTick f = q.dueTick f := by
  rw [dueTick, dueTick, hcas.clock.deadlineTick]

include hco hcas hf in
theorem Cascaded.filed_stay (hne : f.place ≠ q.currentBucket (s + 1)) : q'.filed i = some f := by
  have hnot : i ∉ B (q.currentBucket (s + 1)) := by
    intro hmem
    obtain ⟨f', hf', hplace⟩ := (hco.mem_iff _).mp hmem
    obtain rfl : f = f' := by simpa using hf.symm.trans hf'
    exact hne hplace
  rw [hcas.filed, if_neg hnot, hf]

include hco hcas hf in
theorem Cascaded.filed_move (heq : f.place = q.currentBucket (s + 1)) :
    q'.filed i = some (f.cascaded (s + 1) q.currentTick (q.dueTick f)) ∧
      i ∈ q.recastTo (s + 1) (f.cascaded (s + 1) q.currentTick (q.dueTick f)).place
        (B (q.currentBucket (s + 1))) := by
  have hmem : i ∈ B (q.currentBucket (s + 1)) := (hco.mem_iff _).mpr ⟨f, hf, heq⟩
  refine ⟨by rw [hcas.filed, if_pos hmem, recast, hf]; rfl, ?_⟩
  rw [recastTo, List.mem_filter]
  exact ⟨hmem, by simp [recast, hf]⟩

include hs hco hc hst hcas hf hg hdue

/-- Cascading a level keeps the earlier of two timers ahead. -/
theorem PairStaged.cascade (hpair : PairStaged (s + 1) q B i j f g) :
    ∃ f' g', q'.filed i = some f' ∧ q'.filed j = some g' ∧ PairStaged s q' B' i j f' g' := by
  set p := q.currentBucket (s + 1) with hp
  have hcurrent : ∀ h : Filed α, h.place = p ↔
      h.place.1 = s + 1 ∧ Current q.currentTick h.place.1 h.place.2 :=
    fun h => place_eq_currentBucket_iff hc
  have hlevel : p.1 = s + 1 := rfl
  have hstf := hst i f hf
  have hstg := hst j g hg
  rw [hdue] at hstf
  have hinto : ∀ p', p' ≠ p → B' p' = B p' ++ q.recastTo (s + 1) p' (B p) := by
    intro p' hp'
    rw [hcas.bucket, if_neg hp']
  -- a timer of a coarser level is not due in this bucket
  have hcoarser : g.place.1 < f.place.1 → g.place ≠ p := by
    intro hlt hgp
    obtain ⟨hgl, hgc⟩ := (hcurrent g).mp hgp
    have hf3 := hstf.le_three (by omega)
    have hdig := hst.digit_eq hc hg hgp (by omega)
    have hltd := hstf.lt_digit (by omega) (by omega)
    have hcases : (s = 0 ∧ (f.place.1 = 2 ∨ f.place.1 = 3)) ∨ (s = 1 ∧ f.place.1 = 3) := by omega
    rcases hcases with ⟨rfl, hl | hl⟩ | ⟨rfl, hl⟩ <;> rw [hl] at hltd <;>
      simp only [kWheelQuantumTicks] at hdig hltd <;> omega
  rcases hpair with (⟨hsame, hsub⟩ | ⟨hg1, hlt, hdigit⟩) | ⟨hg1, hgs, hgc, hgd, hft⟩
  · by_cases hfp : f.place = p
    · -- both are in the bucket: they move, or stay, together
      have hgp : g.place = p := hsame ▸ hfp
      obtain ⟨hf', hfi⟩ := hcas.filed_move hco hf hfp
      obtain ⟨hg', hgj⟩ := hcas.filed_move hco hg hgp
      have hplace : (f.cascaded (s + 1) q.currentTick (q.dueTick f)).place =
          (g.cascaded (s + 1) q.currentTick (q.dueTick g)).place := by
        by_cases hwait : s + 1 = 3 ∧ f.rounds > 0
        · obtain ⟨h3, hr⟩ := hwait
          obtain ⟨hfl, hfc⟩ := (hcurrent f).mp hfp
          rw [hfl, h3] at hstf hfc
          rw [← hsame, hfl, h3] at hstg
          have hr' := (hstf.rounds_pos_iff hstg hfc).mp hr
          rw [place_cascaded_wait ⟨h3, hr⟩, place_cascaded_wait ⟨h3, hr'⟩, hsame]
        · have hwait' : ¬ (s + 1 = 3 ∧ g.rounds > 0) := by
            rintro ⟨h3, hr⟩
            obtain ⟨hfl, hfc⟩ := (hcurrent f).mp hfp
            rw [hfl, h3] at hstf hfc
            rw [← hsame, hfl, h3] at hstg
            exact hwait ⟨h3, (hstf.rounds_pos_iff hstg hfc).mpr hr⟩
          rw [place_cascaded hwait, place_cascaded hwait', hdue]
      refine ⟨_, _, hf', hg', .inl (.inl ⟨hplace, ?_⟩)⟩
      rw [hcas.bucket]
      refine List.Sublist.trans ?_ (List.sublist_append_right _ _)
      rw [hfp] at hsub
      have hfilter := hsub.filter fun i => (q.recast (s + 1) i).any fun h =>
        h.place = (f.cascaded (s + 1) q.currentTick (q.dueTick f)).place
      rwa [List.filter_eq_self.mpr ?_] at hfilter
      intro k hk
      rcases List.mem_cons.mp hk with rfl | hk
      · exact (List.mem_filter.mp hfi).2
      · obtain rfl := List.mem_singleton.mp hk
        rw [hplace]
        exact (List.mem_filter.mp hgj).2
    · have hgp : g.place ≠ p := hsame ▸ hfp
      refine ⟨f, g, hcas.filed_stay hco hf hfp, hcas.filed_stay hco hg hgp,
        .inl (.inl ⟨hsame, ?_⟩)⟩
      rw [hinto _ hfp]
      exact hsub.trans (List.sublist_append_left _ _)
  · have hgp := hcoarser hlt
    have hg' := hcas.filed_stay hco hg hgp
    by_cases hfp : f.place = p
    · obtain ⟨hf', hfi⟩ := hcas.filed_move hco hf hfp
      refine ⟨_, g, hf', hg', ?_⟩
      by_cases hwait : s + 1 = 3 ∧ f.rounds > 0
      · refine .inl (.inr ⟨hg1, ?_, ?_⟩)
        · rw [place_cascaded_wait hwait]; exact hlt
        · rw [hcas.dueTick_eq]; exact hdigit
      · -- the earlier timer leaves a coarser bucket
        have hdig := hst.digit_eq hc hf hfp hwait
        rw [hdue] at hdig
        have hgs : g.place.1 ≤ s := by
          have := ((hcurrent f).mp hfp).1
          omega
        rcases catch_up hs hc hdig hg1 hgs hdigit with ⟨hgc, hgd⟩ | hup
        · refine .inr ⟨hg1, hgs, ?_, ?_, ?_⟩
          · rw [hcas.clock.currentTick]
            refine ⟨hgc, ?_⟩
            rw [hstg.bucket_eq hg1, digit, hgd]
          · rw [hcas.dueTick_eq, hcas.clock.currentTick]; exact hgd
          · rw [place_cascaded hwait, hcas.dueTick_eq, hcas.clock.currentTick, hdue]
        · refine .inl (.inr ⟨hg1, ?_, ?_⟩)
          · rw [place_cascaded hwait, hdue]; exact hup
          · rw [hcas.dueTick_eq]; exact hdigit
    · refine ⟨f, g, hcas.filed_stay hco hf hfp, hg', .inl (.inr ⟨hg1, hlt, ?_⟩)⟩
      rw [hcas.dueTick_eq]; exact hdigit
  · -- the earlier timer has arrived, the later one is still to come
    have hg3 := hstg.le_three (by omega)
    have hfl : f.place.1 < g.place.1 := by
      rw [hft]
      exact cascadeTarget_level_lt hg1 hg3 hgc.1 hgd
    have hfp : f.place ≠ p := by
      intro heq
      rw [heq, hlevel] at hfl
      omega
    have hf' := hcas.filed_stay hco hf hfp
    by_cases hgl : g.place.1 = s + 1
    · have hgp : g.place = p := (hcurrent g).mpr ⟨hgl, hgc⟩
      obtain ⟨hg', hgj⟩ := hcas.filed_move hco hg hgp
      have hwait : ¬ (s + 1 = 3 ∧ g.rounds > 0) := by
        rintro ⟨h3, hr⟩
        rw [hgl, h3] at hstg hgd hgc
        cases hstg with
        | ready _ h => exact h (by omega) le_rfl hgc
        | due _ _ _ h => exact absurd (h rfl) (by omega)
        | waiting _ _ _ _ h =>
          simp only [kWheelQuantumTicks] at hgd
          omega
      have hplace : f.place = (g.cascaded (s + 1) q.currentTick (q.dueTick g)).place := by
        rw [place_cascaded hwait, hft]
      refine ⟨f, _, hf', hg', .inl (.inl ⟨hplace, ?_⟩)⟩
      rw [hinto _ hfp]
      refine sublist_pair_append ((hco.mem_iff _).mpr ⟨f, hf, rfl⟩) ?_
      rw [hplace]
      exact hgj
    · have hgp : g.place ≠ p := fun heq => hgl (by rw [heq, hlevel])
      refine ⟨f, g, hf', hcas.filed_stay hco hg hgp, .inr ⟨hg1, by omega, ?_, ?_, ?_⟩⟩
      · rw [hcas.clock.currentTick]; exact hgc
      · rw [hcas.dueTick_eq, hcas.clock.currentTick]; exact hgd
      · rw [hcas.dueTick_eq, hcas.clock.currentTick]; exact hft

end Cascade

end TimerQueue

namespace TimerRun

open TimerQueue

variable {β : Type*} {q q' : TimerQueue (Nat × β)} {B B' : Nat × Nat → List Nat}

/-! ## All timers of one deadline -/

/-- Of two timers with one deadline, the one registered first is ahead. -/
def Ordered (q : TimerQueue (Nat × β)) (B : Nat × Nat → List Nat) : Prop :=
  ∀ i j f g, q.filed i = some f → q.filed j = some g → f.timer.deadline = g.timer.deadline →
    f.timer.action.1 < g.timer.action.1 → Paired q B i j f g

def OrderStaged (s : Nat) (q : TimerQueue (Nat × β)) (B : Nat × Nat → List Nat) : Prop :=
  ∀ i j f g, q.filed i = some f → q.filed j = some g → f.timer.deadline = g.timer.deadline →
    f.timer.action.1 < g.timer.action.1 → PairStaged s q B i j f g

theorem OrderStaged.stageStep {s : Nat} (hs : s < 3) (hco : Coherent q B)
    (hst : Staged (s + 1) q) (hord : OrderStaged (s + 1) q B) :
    ∃ B', Coherent (q.stageStep s) B' ∧ SameTimers q (q.stageStep s) ∧
      Staged s (q.stageStep s) ∧ OrderStaged s (q.stageStep s) B' := by
  unfold TimerQueue.stageStep
  split
  · next hc =>
    obtain ⟨B', hcas, hstaged⟩ := hco.cascadeLevel hs hc hst
    refine ⟨B', hcas.coherent, hcas.sameTimers, hstaged, ?_⟩
    intro i j f' g' hf' hg' hdead hlt
    obtain ⟨f, hf, hft⟩ := timer_of_sameTimers hcas.sameTimers hf'
    obtain ⟨g, hg, hgt⟩ := timer_of_sameTimers hcas.sameTimers hg'
    rw [← hft, ← hgt] at hdead hlt
    have hdue : q.dueTick f = q.dueTick g := by rw [dueTick, dueTick, hdead]
    obtain ⟨f'', g'', hf'', hg'', hpair⟩ := (hord i j f g hf hg hdead hlt).cascade hs hco hc hst
      hcas hf hg hdue
    obtain rfl : f' = f'' := by simpa using hf'.symm.trans hf''
    obtain rfl : g' = g'' := by simpa using hg'.symm.trans hg''
    exact hpair
  · next hc =>
    refine ⟨B, hco, ⟨.refl q, rfl, fun _ => rfl⟩, fun i f hf => (hst i f hf).skip ?_, ?_⟩
    · rintro ⟨hL, hcur⟩
      exact hc (hL ▸ hcur.1)
    · intro i j f g hf hg hdead hlt
      rcases hord i j f g hf hg hdead hlt with h | ⟨h₁, h₂, h₃, h₄, h₅⟩
      · exact .inl h
      · have hne : g.place.1 ≠ s + 1 := fun heq => hc (heq ▸ h₃.1)
        exact .inr ⟨h₁, by omega, h₃, h₄, h₅⟩

/-- A turn of the wheel keeps the order. -/
theorem Ordered.advanceTick (hord : Ordered q B) (hco : Coherent q B) (hset : Settled q) :
    ∃ B', Coherent q.advanceTick B' ∧ SameTimers q.nextTick q.advanceTick ∧
      Staged 0 q.advanceTick ∧ Ordered q.advanceTick B' := by
  have hco₃ : Coherent q.nextTick B := hco.congr rfl rfl rfl rfl rfl rfl
  have hord₃ : OrderStaged 3 q.nextTick B := fun i j f g hf hg hdead hlt =>
    .inl (hord i j f g hf hg hdead hlt)
  obtain ⟨B₂, hco₂, hsame₂, hst₂, hord₂⟩ := hord₃.stageStep (by omega) hco₃ hset.staged
  obtain ⟨B₁, hco₁, hsame₁, hst₁, hord₁⟩ := hord₂.stageStep (by omega) hco₂ hst₂
  obtain ⟨B₀, hco₀, hsame₀, hst₀, hord₀⟩ := hord₁.stageStep (by omega) hco₁ hst₁
  refine ⟨B₀, hco₀, (hsame₂.trans hsame₁).trans hsame₀, hst₀, ?_⟩
  intro i j f g hf hg hdead hlt
  exact (hord₀ i j f g hf hg hdead hlt).resolve_right fun h => by omega

/-! ## Runs -/

variable {r : TimerRun β} {ds : List Int}

/-- The deadlines of the registrations, by their numbers. -/
def deadlines (ops : List (TimerOp β)) : List Int :=
  ops.filterMap fun
    | .addTimer deadline .. => some deadline
    | _ => none

/-- The timers of a run with the deadlines `ds` so far have been invoked, and stand, in order. -/
structure InOrder (ds : List Int) (r : TimerRun β) : Prop where
  inv : Inv r
  ordered : ∃ B, Coherent r.queue B ∧ Ordered r.queue B
  length : ds.length = r.registered
  deadline : ∀ i f, r.queue.filed i = some f → ds[f.timer.action.1]? = some f.timer.deadline
  unique : ∀ i j f g, r.queue.filed i = some f → r.queue.filed j = some g →
    f.timer.action.1 = g.timer.action.1 → i = j
  logged : r.log.Pairwise fun a b => ds[a.2.1]? = ds[b.2.1]? → a.2.1 < b.2.1
  ahead : ∀ event ∈ r.log, ∀ i f, r.queue.filed i = some f →
    ds[event.2.1]? = some f.timer.deadline → event.2.1 < f.timer.action.1

theorem InOrder.empty : InOrder [] ({} : TimerRun β) where
  inv := .empty
  ordered := ⟨_, .empty, by
    intro i j f g hf
    simp [TimerQueue.filed, TimerSlot.filed] at hf⟩
  length := rfl
  deadline := by
    intro i f hf
    simp [TimerQueue.filed, TimerSlot.filed] at hf
  unique := by
    intro i j f g hf
    simp [TimerQueue.filed, TimerSlot.filed] at hf
  logged := .nil
  ahead := by simp

/-- In one tick the timers of one deadline are invoked in the order of their registration. -/
theorem InOrder.tick (h : InOrder ds r) : InOrder ds (r.step (.advanceWheel 1)) := by
  obtain ⟨B, hco, hord⟩ := h.ordered
  obtain ⟨B₁, hco₁, hsame, hst, hord₁⟩ := hord.advanceTick hco h.inv.sound.resting
  obtain ⟨B', ht⟩ := hst.tick hco₁ hsame
  have hinv' : Inv (r.step (.advanceWheel 1)) := h.inv.step trivial
  set q₁ := r.queue.advanceTick with hq₁
  set b := q₁.currentTick % kWheelSize with hb
  have hdead₁ : ∀ i f, q₁.filed i = some f → ds[f.timer.action.1]? = some f.timer.deadline := by
    intro i f hf
    obtain ⟨f', hf', heq⟩ := timer_of_sameTimers hsame hf
    exact heq ▸ h.deadline i f' hf'
  have hunique₁ : ∀ i j f g, q₁.filed i = some f → q₁.filed j = some g →
      f.timer.action.1 = g.timer.action.1 → i = j := by
    intro i j f g hf hg heq
    obtain ⟨f', hf', hft⟩ := timer_of_sameTimers hsame hf
    obtain ⟨g', hg', hgt⟩ := timer_of_sameTimers hsame hg
    exact h.unique i j f' g' hf' hg' (by rw [hft, hgt, heq])
  have hactions := ht.drained.actions_eq
  have hqueue : (r.step (.advanceWheel 1)).queue = q₁.expireCurrentBucket.2 := rfl
  have hfiled : ∀ j f, (r.step (.advanceWheel 1)).queue.filed j = some f →
      q₁.filed j = some f ∧ j ∉ B₁ (0, b) := by
    intro j f hf
    rw [hqueue, ht.drained.filed] at hf
    split at hf
    · cases hf
    · next hnot => exact ⟨hf, hnot⟩
  have hlog : (r.step (.advanceWheel 1)).log =
      r.log ++ q₁.expireCurrentBucket.1.map (q₁.currentTick, ·) := by
    show r.log ++ (_ ++ []) = _
    rw [List.append_nil]
    rfl
  have hmem : ∀ a ∈ q₁.expireCurrentBucket.1, ∃ i f, i ∈ B₁ (0, b) ∧ q₁.filed i = some f ∧
      f.timer.action = a := by
    intro a ha
    rw [hactions] at ha
    obtain ⟨i, hi, hmap⟩ := List.mem_filterMap.mp ha
    obtain ⟨f, hf, heq⟩ := Option.map_eq_some_iff.mp hmap
    exact ⟨i, f, hi, hf, heq⟩
  refine ⟨hinv', ⟨B', ht.drained.coherent, ?_⟩, h.length, ?_, ?_, ?_, ?_⟩
  · intro i j f g hf hg hdead hlt
    obtain ⟨hf, hi⟩ := hfiled i f hf
    obtain ⟨hg, -⟩ := hfiled j g hg
    rcases hord₁ i j f g hf hg hdead hlt with ⟨hplace, hsub⟩ | ⟨h₁, h₂, h₃⟩
    · refine .inl ⟨hplace, ?_⟩
      have hne : f.place ≠ (0, b) := fun heq => hi ((hco₁.mem_iff _).mpr ⟨f, hf, heq⟩)
      rw [ht.drained.bucket, if_neg hne]
      exact hsub
    · refine .inr ⟨h₁, h₂, ?_⟩
      rw [hqueue, dueTick, ht.drained.clock.deadlineTick]
      exact h₃
  · intro i f hf
    exact hdead₁ i f (hfiled i f hf).1
  · intro i j f g hf hg heq
    exact hunique₁ i j f g (hfiled i f hf).1 (hfiled j g hg).1 heq
  · rw [hlog, List.pairwise_append]
    refine ⟨h.logged, ?_, ?_⟩
    · -- the bucket holds the timers of one deadline in order
      rw [List.pairwise_map, hactions, List.pairwise_filterMap, List.pairwise_iff_forall_sublist]
      intro i j hsub a ha a' ha' hds
      obtain ⟨f, hf, rfl⟩ := Option.map_eq_some_iff.mp ha
      obtain ⟨g, hg, rfl⟩ := Option.map_eq_some_iff.mp ha'
      have hdead : f.timer.deadline = g.timer.deadline := by
        have heq := ((hdead₁ i f hf).symm.trans hds).trans (hdead₁ j g hg)
        simpa using heq
      have hnodup := (hco₁.linked.list (0, b)).nodup
      have hne : f.timer.action.1 ≠ g.timer.action.1 := by
        intro heq
        obtain rfl := hunique₁ i j f g hf hg heq
        have := hnodup.sublist hsub
        simp at this
      show f.timer.action.1 < g.timer.action.1
      by_contra hnot
      have hgplace : g.place = (0, b) := by
        obtain ⟨g', hg', hplace⟩ := (hco₁.mem_iff (0, b)).mp (hsub.subset (by simp : j ∈ [i, j]))
        obtain rfl : g = g' := by simpa using hg.symm.trans hg'
        exact hplace
      have hfplace : f.place = (0, b) := by
        obtain ⟨f', hf', hplace⟩ := (hco₁.mem_iff (0, b)).mp (hsub.subset (by simp : i ∈ [i, j]))
        obtain rfl : f = f' := by simpa using hf.symm.trans hf'
        exact hplace
      rcases hord₁ j i g f hg hf hdead.symm (by omega) with ⟨-, hsub'⟩ | ⟨hlevel, -⟩
      · rw [hgplace] at hsub'
        exact sublist_pair_asymm hnodup hsub hsub'
      · rw [hfplace] at hlevel
        exact absurd hlevel (Nat.not_succ_le_zero 0)
    · intro event hevent new hnew hds
      obtain ⟨a, ha, rfl⟩ := List.mem_map.mp hnew
      obtain ⟨i, f, -, hf, rfl⟩ := hmem a ha
      obtain ⟨f', hf', heq⟩ := timer_of_sameTimers hsame hf
      rw [← heq]
      refine h.ahead event hevent i f' hf' ?_
      rw [hds, heq]
      exact hdead₁ i f hf
  · intro event hevent j g hg hds
    obtain ⟨hg, hj⟩ := hfiled j g hg
    rw [hlog] at hevent
    rcases List.mem_append.mp hevent with hevent | hevent
    · obtain ⟨g', hg', heq⟩ := timer_of_sameTimers hsame hg
      rw [← heq]
      exact h.ahead event hevent j g' hg' (heq ▸ hds)
    · -- a timer with the deadline of one that was invoked was due as well
      exfalso
      obtain ⟨a, ha, rfl⟩ := List.mem_map.mp hevent
      obtain ⟨i, f, hi, hf, rfl⟩ := hmem a ha
      have hdead : f.timer.deadline = g.timer.deadline := by
        have heq := (hdead₁ i f hf).symm.trans hds
        simpa using heq
      have hdue := (hst.mem_bucket_iff hco₁ hf).mp hi
      refine hj ((hst.mem_bucket_iff hco₁ hg).mpr ?_)
      rwa [dueTick, ← hdead]

theorem step_advanceWheel_succ (r : TimerRun β) (n : Nat) :
    r.step (.advanceWheel (n + 1)) = (r.step (.advanceWheel 1)).step (.advanceWheel n) := by
  simp only [step, advanceWheel_succ, List.append_assoc]
  rfl

theorem InOrder.advanceWheel (h : InOrder ds r) (n : Nat) :
    InOrder ds (r.step (.advanceWheel n)) := by
  induction n generalizing r with
  | zero =>
    have heq : r.step (.advanceWheel 0) = r := by
      simp only [step, TimerQueue.advanceWheel, List.append_nil]
    rw [heq]
    exact h
  | succ n ih =>
    rw [step_advanceWheel_succ]
    exact ih h.tick

theorem InOrder.cancel (h : InOrder ds r) (id : TimerId) : InOrder ds (r.step (.cancel id)) := by
  obtain ⟨B, hco, hord⟩ := h.ordered
  obtain ⟨B', hcut⟩ := hco.cancelInLoop h.inv.sound.idle id
  have hfiled' : ∀ i f, (r.step (.cancel id)).queue.filed i = some f →
      r.queue.filed i = some f := by
    intro i f hf
    simp only [step] at hf
    rw [hcut.filed, Option.filter_eq_some_iff] at hf
    exact hf.1
  refine ⟨h.inv.step trivial, ⟨B', hcut.coherent, ?_⟩, h.length, ?_, ?_, h.logged, ?_⟩
  · intro i j f g hf hg hdead hlt
    rcases hord i j f g (hfiled' i f hf) (hfiled' j g hg) hdead hlt with
      ⟨hplace, hpair⟩ | ⟨h₁, h₂, h₃⟩
    · refine .inl ⟨hplace, ?_⟩
      exact sublist_pair_of_sublist (hco.linked.list _).nodup (hcut.sublist _) hpair
        ((hcut.coherent.mem_iff _).mpr ⟨f, hf, rfl⟩)
        ((hcut.coherent.mem_iff _).mpr ⟨g, hg, hplace.symm⟩)
    · refine .inr ⟨h₁, h₂, ?_⟩
      simp only [step, dueTick, TimerQueue.deadlineTick, hcut.wheelEpoch]
      exact h₃
  · exact fun i f hf => h.deadline i f (hfiled' i f hf)
  · exact fun i j f g hf hg => h.unique i j f g (hfiled' i f hf) (hfiled' j g hg)
  · exact fun event hevent i f hf => h.ahead event hevent i f (hfiled' i f hf)

/-- The registration does not overtake a timer with its deadline: every such timer is on the level
where the new one is put, or that level is not the finest and its digit of the deadline is zero. -/
def KeepsOrder (r : TimerRun β) : TimerOp β → Prop
  | .addTimer deadline _ _ env =>
    let c := (r.queue.synced env.syncNow).currentTick
    let e := r.queue.deadlineTick deadline
    let level := wheelLevelFor (expiryFor c e - c)
    ∀ i f, r.queue.filed i = some f → f.timer.deadline = deadline →
      f.place.1 = level ∨ 1 ≤ level ∧ digit e level = 0
  | _ => True

theorem InOrder.addTimer (h : InOrder ds r) {deadline : Int} {a : β} {x : Nat}
    {env : TimerQueue.AddEnv} (hx : r.queue.FreshExternal x)
    (hkeeps : r.KeepsOrder (.addTimer deadline a x env)) :
    InOrder (ds ++ [deadline]) (r.step (.addTimer deadline a x env)) := by
  obtain ⟨B, hco, hord⟩ := h.ordered
  have hinv' : Inv (r.step (.addTimer deadline a x env)) := h.inv.step hx
  have hnumber : ∀ i f, r.queue.filed i = some f → f.timer.action.1 < r.registered := by
    intro i f hf
    by_contra hge
    exact (h.inv.fresh _ (by omega)).1 i f hf rfl
  have hevent : ∀ event ∈ r.log, event.2.1 < r.registered := by
    intro event hevent
    by_contra hge
    have hnone := (h.inv.fresh event.2.1 (by omega)).2
    have hmem : event ∈ invocations event.2.1 r.log := by
      simp [invocations, hevent]
    rw [hnone] at hmem
    cases hmem
  have hold : ∀ n, n < r.registered → (ds ++ [deadline])[n]? = ds[n]? := fun n hn =>
    List.getElem?_append_left (by rw [h.length]; exact hn)
  have hnew : (ds ++ [deadline])[r.registered]? = some deadline := by
    rw [← h.length]
    simp
  have hspec := hco.addTimerInLoop deadline (r.registered, a) hx env
  have hqueue : (r.step (.addTimer deadline a x env)).queue =
      (r.queue.addTimerInLoop deadline (r.registered, a) x env).2 := rfl
  have hlogged : r.log.Pairwise fun a b =>
      (ds ++ [deadline])[a.2.1]? = (ds ++ [deadline])[b.2.1]? → a.2.1 < b.2.1 := by
    refine h.logged.imp_of_mem fun {a b} ha hb hab => ?_
    rwa [hold _ (hevent a ha), hold _ (hevent b hb)]
  generalize r.queue.addTimerInLoop deadline (r.registered, a) x env = result at hspec hqueue
  obtain ⟨_ | id, q'⟩ := result
  · -- nothing was added
    have hfiled : ∀ i f, (r.step (.addTimer deadline a x env)).queue.filed i = some f →
        r.queue.filed i = some f := by
      intro i f hf
      rw [hqueue, hspec.filed] at hf
      exact hf
    refine ⟨hinv', ⟨B, hqueue ▸ hspec.coherent, ?_⟩, by simp [h.length, step], ?_, ?_, hlogged, ?_⟩
    · intro i j f g hf hg hdead hlt
      rcases hord i j f g (hfiled i f hf) (hfiled j g hg) hdead hlt with hpair | ⟨h₁, h₂, h₃⟩
      · exact .inl hpair
      · refine .inr ⟨h₁, h₂, ?_⟩
        rw [hqueue, dueTick, TimerQueue.deadlineTick, hspec.wheelEpoch]
        exact h₃
    · intro i f hf
      rw [hold _ (hnumber i f (hfiled i f hf))]
      exact h.deadline i f (hfiled i f hf)
    · exact fun i j f g hf hg => h.unique i j f g (hfiled i f hf) (hfiled j g hg)
    · intro event hev i f hf hds
      rw [hold _ (hevent event hev)] at hds
      exact h.ahead event hev i f (hfiled i f hf) hds
  · obtain ⟨k, new, hadd⟩ := hspec
    have hk : q'.filed k = some new := by rw [hadd.filed, if_pos rfl]
    have hfiled : ∀ i f, q'.filed i = some f →
        r.queue.filed i = some f ∧ i ≠ k ∨ i = k ∧ f = new := by
      intro i f hf
      rw [hadd.filed] at hf
      split at hf
      · next hi => exact .inr ⟨hi, by simpa using hf.symm⟩
      · next hi => exact .inl ⟨hf, hi⟩
    have hdueTick : ∀ f : Filed (Nat × β), q'.dueTick f = r.queue.dueTick f := by
      intro f
      rw [dueTick, TimerQueue.deadlineTick, hadd.wheelEpoch]
      rfl
    refine ⟨hinv', ⟨push B new.place k, hqueue ▸ hadd.coherent, ?_⟩, by simp [h.length, step], ?_,
      ?_, hlogged, ?_⟩
    · rw [hqueue]
      intro i j f g hf hg hdead hlt
      rcases hfiled j g hg with ⟨hg, hjk⟩ | ⟨rfl, rfl⟩
      · rcases hfiled i f hf with ⟨hf, hik⟩ | ⟨rfl, rfl⟩
        · rcases hord i j f g hf hg hdead hlt with ⟨hplace, hpair⟩ | ⟨h₁, h₂, h₃⟩
          · refine .inl ⟨hplace, ?_⟩
            unfold push
            by_cases hp : f.place = new.place
            · rw [hp, Function.update_self, ← hp]
              exact hpair.trans (List.sublist_append_left _ _)
            · rw [Function.update_of_ne hp]
              exact hpair
          · exact .inr ⟨h₁, h₂, by rw [hdueTick]; exact h₃⟩
        · have := hnumber j g hg
          rw [hadd.action_eq] at hlt
          exact absurd hlt (by omega)
      · rcases hfiled i f hf with ⟨hf, hik⟩ | ⟨rfl, rfl⟩
        · -- an older timer and the new one
          have harmed := h.inv.sound.armed hf
          have hsync : (r.queue.synced env.syncNow).currentTick = r.queue.currentTick := by
            rw [synced, if_pos harmed]
          have htick : q'.currentTick = r.queue.currentTick := hadd.currentTick.trans hsync
          rw [hadd.deadline_eq] at hdead
          have hkeep := hkeeps i f hf hdead
          have hplaced := h.inv.sound.resting i f hf
          have hdf : r.queue.dueTick f = r.queue.deadlineTick deadline := by rw [dueTick, hdead]
          have hdn : q'.dueTick g = r.queue.deadlineTick deadline := by
            rw [hdueTick, dueTick, hadd.deadline_eq]
          have hplacen : Placed r.queue.currentTick (r.queue.deadlineTick deadline) g.place.1
              g.place.2 g.rounds := by
            rw [hadd.place_eq, hadd.rounds_eq, htick]
            exact placed_expiryFor _ _
          have hlevel : g.place.1 = wheelLevelFor (expiryFor r.queue.currentTick
              (r.queue.deadlineTick deadline) - r.queue.currentTick) := by
            rw [hadd.place_eq, htick]
            rfl
          simp only [hsync, ← hlevel] at hkeep
          rw [hdf] at hplaced
          by_cases heq : f.place.1 = g.place.1
          · have hplace : f.place = g.place := by
              rw [heq] at hplaced
              exact Prod.ext heq (hplaced.bucket_unique hplacen)
            refine .inl ⟨hplace, ?_⟩
            rw [hplace, push, Function.update_self]
            exact sublist_pair_append ((hco.mem_iff _).mpr ⟨f, hf, hplace⟩) (by simp)
          · obtain ⟨hone, hdigit⟩ := hkeep.resolve_left heq
            have hlater : r.queue.currentTick < r.queue.deadlineTick deadline := by
              by_contra hdue
              rw [hlevel, expiryFor, if_pos (by omega), Nat.add_sub_cancel_left] at hone
              exact absurd hone (by decide)
            have hge := hplaced.level_ge hlater
            rw [expiryFor, if_neg (by omega)] at hlevel
            exact .inr ⟨hone, by omega, by rw [hdn]; exact hdigit⟩
        · exact absurd hlt (lt_irrefl _)
    · rw [hqueue]
      intro i f hf
      rcases hfiled i f hf with ⟨hf, -⟩ | ⟨-, rfl⟩
      · rw [hold _ (hnumber i f hf)]
        exact h.deadline i f hf
      · rw [hadd.action_eq, hadd.deadline_eq]
        exact hnew
    · rw [hqueue]
      intro i j f g hf hg heq
      rcases hfiled i f hf with ⟨hf, -⟩ | ⟨rfl, rfl⟩ <;>
        rcases hfiled j g hg with ⟨hg, -⟩ | ⟨rfl, rfl⟩
      · exact h.unique i j f g hf hg heq
      · have := hnumber i f hf
        rw [hadd.action_eq] at heq
        exact absurd heq this.ne
      · have := hnumber j g hg
        rw [hadd.action_eq] at heq
        exact absurd heq.symm this.ne
      · rfl
    · rw [hqueue]
      intro event hev i f hf hds
      rcases hfiled i f hf with ⟨hf, -⟩ | ⟨-, rfl⟩
      · rw [hold _ (hevent event hev)] at hds
        exact h.ahead event hev i f hf hds
      · rw [hadd.action_eq]
        exact hevent event hev

/-- No registration of the run overtakes an older timer. -/
def KeepsOrderThroughout (r : TimerRun β) : List (TimerOp β) → Prop
  | [] => True
  | op :: ops => r.KeepsOrder op ∧ KeepsOrderThroughout (r.step op) ops

theorem InOrder.run (h : InOrder ds r) {ops : List (TimerOp β)} (hadm : r.Admissible ops)
    (hkeeps : r.KeepsOrderThroughout ops) : InOrder (ds ++ deadlines ops) (r.run ops) := by
  induction ops generalizing r ds with
  | nil =>
    simp only [deadlines, List.filterMap_nil, List.append_nil]
    exact h
  | cons op ops ih =>
    have hsplit : ds ++ deadlines (op :: ops) = ds ++ deadlines [op] ++ deadlines ops := by
      rw [List.append_assoc, deadlines, deadlines, deadlines, ← List.filterMap_append]
      rfl
    rw [hsplit]
    refine ih ?_ hadm.2 hkeeps.2
    cases op with
    | addTimer deadline a x env => exact h.addTimer hadm.1 hkeeps.1
    | cancel id =>
      have hds : ds ++ deadlines [(.cancel id : TimerOp β)] = ds := List.append_nil ds
      rw [hds]
      exact h.cancel id
    | advanceWheel n =>
      have hds : ds ++ deadlines [(.advanceWheel n : TimerOp β)] = ds := List.append_nil ds
      rw [hds]
      exact h.advanceWheel n
    | finishRead =>
      have hds : ds ++ deadlines [(.finishRead : TimerOp β)] = ds := List.append_nil ds
      rw [hds]
      obtain ⟨B, hco, hord⟩ := h.ordered
      have heq := finishRead_eq r.queue
      have hstep : (r.step .finishRead).queue = r.queue.finishRead := rfl
      rw [heq] at hstep
      refine ⟨h.inv.step trivial, ⟨B, ?_, ?_⟩, h.length, ?_, ?_, h.logged, ?_⟩
      all_goals rw [hstep]
      · exact hco.congr rfl rfl rfl rfl rfl rfl
      · exact hord
      · exact h.deadline
      · exact h.unique
      · exact h.ahead

/-- Every invocation of the timer `k` comes after one of the timer `j`. -/
def InvokedAfter (j k : Nat) (log : List (Nat × Nat × β)) : Prop :=
  ∀ before event after, log = before ++ event :: after → event.2.1 = k →
    ∃ earlier ∈ before, earlier.2.1 = j

/-- In a run whose registrations do not overtake, a timer that is not cancelled is invoked before
every timer with the same deadline that is registered behind it. -/
theorem invoked_in_registration_order (before between after : List (TimerOp β)) (deadline : Int)
    (a a' : β) (x x' : Nat) (env env' : AddEnv) (id : TimerId) (q₁ : TimerQueue (Nat × β))
    (hadm : Admissible {} (before ++ .addTimer deadline a x env ::
      (between ++ .addTimer deadline a' x' env' :: after)))
    (hkeeps : KeepsOrderThroughout {} (before ++ .addTimer deadline a x env ::
      (between ++ .addTimer deadline a' x' env' :: after)))
    (hadd : (run {} before).queue.addTimerInLoop deadline ((run {} before).registered, a) x env =
      (some id, q₁))
    (hnot : ¬ CancelledBefore ((run {} before).step (.addTimer deadline a x env))
      (fun id' => id' = id ∨ x ≠ 0 ∧ q₁.findTimerSlot id' = q₁.findTimerSlot id)
      (max ((run {} before).queue.deadlineTick deadline)
        (((run {} before).queue.synced env.syncNow).currentTick + 1))
      (between ++ .addTimer deadline a' x' env' :: after)) :
    InvokedAfter (run {} before).registered
      (run {} (before ++ .addTimer deadline a x env :: between)).registered
      (run {} (before ++ .addTimer deadline a x env ::
        (between ++ .addTimer deadline a' x' env' :: after))).log := by
  obtain ⟨hbefore, hallow, hafter⟩ := admissible_append.mp hadm
  have hinv₀ : Inv (run {} before) := Inv.empty.run hbefore
  set r₀ := run {} before with hr₀
  set r₁ := r₀.step (.addTimer deadline a x env) with hr₁
  set ops := before ++ TimerOp.addTimer deadline a x env ::
    (between ++ .addTimer deadline a' x' env' :: after) with hops
  obtain ⟨y, hlive, haction, hfire, hnames⟩ := live_addTimer hinv₀ hallow hadd
  have hq₁ : r₁.queue = q₁ := congrArg Prod.snd hadd
  have hrun : run {} ops = r₁.run (between ++ .addTimer deadline a' x' env' :: after) :=
    run_append _ _ _
  have horder : InOrder (deadlines ops) (run {} ops) := InOrder.empty.run hadm hkeeps
  -- the numbers of the two timers lead to the same deadline
  have hcount : ∀ l : List (TimerOp β), (run {} l).registered = (deadlines l).length := by
    intro l
    have hgen : ∀ (l : List (TimerOp β)) (r : TimerRun β),
        (r.run l).registered = r.registered + (deadlines l).length := by
      intro l
      induction l with
      | nil => intro r; rfl
      | cons op l ih =>
        intro r
        refine (ih (r.step op)).trans ?_
        cases op with
        | addTimer =>
          simp only [step, deadlines, List.filterMap_cons, List.length_cons]
          omega
        | cancel => rfl
        | advanceWheel => rfl
        | finishRead => rfl
    simpa using hgen l {}
  have hd : ∀ l l' : List (TimerOp β), deadlines (l ++ l') = deadlines l ++ deadlines l' :=
    fun l l' => List.filterMap_append
  have hj : (deadlines ops)[r₀.registered]? = some deadline := by
    rw [hr₀, hcount, hops, hd, List.getElem?_append_right le_rfl, Nat.sub_self]
    rfl
  set k := (run {} (before ++ .addTimer deadline a x env :: between)).registered with hk
  have hkd : (deadlines ops)[k]? = some deadline := by
    have hops' : ops = (before ++ TimerOp.addTimer deadline a x env :: between) ++
        .addTimer deadline a' x' env' :: after := by simp [hops]
    rw [hk, hcount, hops', hd, List.getElem?_append_right le_rfl, Nat.sub_self]
    rfl
  have hjk : r₀.registered < k := by
    rw [hk, hr₀, hcount, hcount, hd]
    simp [deadlines]
  -- the first timer has been invoked, or is still ahead of the second
  have hmine := (Live.run (x := y) (hinv₀.step hallow) hafter
    (by show Live r₁.queue y; rw [hq₁]; exact hlive)
    (by rw [haction]; exact Nat.lt_succ_self _)).2 (by
      show ¬ CancelledBefore r₁ y.Named (fireTick r₁.queue y) _
      rw [hq₁, hfire, show y.Named = _ from funext fun id' => propext (hnames id')]
      exact hnot)
  rw [← hr₁, ← hrun, haction] at hmine
  intro l event rest hlog hevent
  have hfired : ∃ mine ∈ (run {} ops).log, mine.2.1 = r₀.registered := by
    split at hmine
    · have hmem : (fireTick r₁.queue y, y.action) ∈ invocations r₀.registered (run {} ops).log := by
        rw [hmine]
        simp [haction]
      exact ⟨_, (List.mem_filter.mp hmem).1, by simp [haction]⟩
    · obtain ⟨-, i, f, hf, hfy, -⟩ := hmine
      have hlt := horder.ahead event (by simp [hlog]) i f hf (by
        rw [hevent, hkd, ← horder.deadline i f hf, hfy, haction, hj])
      rw [hevent, hfy, haction] at hlt
      exact absurd hlt (by simpa using hjk.le)
  obtain ⟨mine, hmem, hnumber⟩ := hfired
  rw [hlog] at hmem
  rcases List.mem_append.mp hmem with hmem | hmem
  · exact ⟨mine, hmem, hnumber⟩
  · exfalso
    rcases List.mem_cons.mp hmem with rfl | hmem
    · omega
    · have hpair := horder.logged
      rw [hlog, List.pairwise_append] at hpair
      have hlt := (List.pairwise_cons.mp hpair.2.1).1 mine hmem (by
        rw [hevent, hnumber, hkd, hj])
      omega

/-- The first timer is put on the level of the hundreds and the second, registered fifty ticks later,
on the level of the tens; both are cascaded at tick 100, the coarser level first. -/
theorem invoked_in_registration_order_cascade :
    InvokedAfter 0 1 (run ({} : TimerRun Unit)
      [.addTimer 103000000 () 0 ⟨0, 0, false, false⟩, .advanceWheel 50,
        .addTimer 103000000 () 0 ⟨0, 0, false, false⟩, .advanceWheel 60]).log := by
  refine invoked_in_registration_order [] [.advanceWheel 50] [.advanceWheel 60] 103000000 () () 0 0
    ⟨0, 0, false, false⟩ ⟨0, 0, false, false⟩ ⟨2 ^ 31 + 1, by decide⟩
    (TimerQueue.addTimerInLoop {} 103000000 (0, ()) 0 ⟨0, 0, false, false⟩).2
    ⟨.inl rfl, trivial, .inl rfl, trivial, trivial⟩ ⟨?_, trivial, ?_, trivial, trivial⟩ rfl ?_
  · intro i f hf
    cases hf
  · -- the tens of 103 are zero
    intro i f _ _
    right
    decide +kernel
  · rintro ⟨before, id, rest, heq, -⟩
    rcases before with _ | ⟨op, _ | ⟨op', _ | ⟨op'', _ | ⟨op₃, before⟩⟩⟩⟩ <;> simp at heq

/-- The second timer is put on the finest level when the first is still on the next one, and is
invoked before it. -/
theorem later_registration_invoked_first :
    (run ({} : TimerRun Unit)
      [.addTimer 25000000 () 0 ⟨0, 0, false, false⟩, .advanceWheel 17,
        .addTimer 25000000 () 0 ⟨0, 0, false, false⟩, .advanceWheel 10]).log =
          [(25, 1, ()), (25, 0, ())] ∧
      ¬ InvokedAfter 0 1 (run ({} : TimerRun Unit)
        [.addTimer 25000000 () 0 ⟨0, 0, false, false⟩, .advanceWheel 17,
          .addTimer 25000000 () 0 ⟨0, 0, false, false⟩, .advanceWheel 10]).log := by
  have hlog : (run ({} : TimerRun Unit)
      [.addTimer 25000000 () 0 ⟨0, 0, false, false⟩, .advanceWheel 17,
        .addTimer 25000000 () 0 ⟨0, 0, false, false⟩, .advanceWheel 10]).log =
          [(25, 1, ()), (25, 0, ())] := by decide
  refine ⟨hlog, fun h => ?_⟩
  rw [hlog] at h
  obtain ⟨earlier, hmem, -⟩ := h [] (25, 1, ()) [(25, 0, ())] rfl rfl
  cases hmem

end TimerRun

end NebulaRpc.Net
