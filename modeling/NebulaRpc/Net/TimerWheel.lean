import NebulaRpc.Net.TimerSet

/-!
# Turning the wheel

Placement goes by the distance to the deadline, cascading by absolute bucket numbers. `Placed`
says where a timer stands between two ticks and `Stage` where it may stand while the levels are
cascaded, coarsest first; that a turn of the wheel leads from one to the other is arithmetic about
a single timer. The queue is then followed bucket by bucket: `CascadeLevel` empties the current
bucket in order and appends its timers elsewhere.
-/

namespace NebulaRpc.Net

variable {α : Type*}

namespace TimerQueue

/-! ## One timer -/

/-- Where the wheel keeps, at the tick `c`, a timer with the deadline tick `e`: level, bucket and
rounds. A timer whose deadline has passed when it is added waits for the next tick. -/
inductive Placed (c e : Nat) : Nat → Nat → Nat → Prop
  | near (r : Nat) : c < e → e < c + 10 → Placed c e 0 (e % 10) r
  | overdue (r : Nat) : e ≤ c → Placed c e 0 ((c + 1) % 10) r
  | tens (r : Nat) : c / 10 < e / 10 → e < c + 100 → Placed c e 1 (e / 10 % 10) r
  | hundreds (r : Nat) : c / 100 < e / 100 → e < c + 1000 →
      Placed c e 2 (e / 100 % 10) r
  | thousands : c / 1000 < e / 1000 →
      Placed c e 3 (e / 1000 % 10) ((e / 1000 - c / 1000 - 1) / 10)

/-- Where a timer stands when `ExpireCurrentBucket` is called at the tick `c`. -/
def Ready (c e L b r : Nat) : Prop :=
  if e ≤ c then L = 0 ∧ b = c % 10 else Placed c e L b r

/-- The bucket is the one that `AdvanceWheel` cascades at the tick `c`. -/
def Current (c L b : Nat) : Prop :=
  c % kWheelQuantumTicks L = 0 ∧ b = c / kWheelQuantumTicks L % kWheelSize

/-- Where a timer stands at the tick `c` when the levels above `s` have been cascaded: it is where
it belongs, or in a bucket that is about to be cascaded. -/
inductive Stage (s c e L b r : Nat) : Prop
  | ready : Ready c e L b r → (1 ≤ L → L ≤ s → ¬ Current c L b) → Stage s c e L b r
  | due : 1 ≤ L → L ≤ s → Current c L b → (L = 3 → r = 0) →
      e / kWheelQuantumTicks L = c / kWheelQuantumTicks L → Stage s c e L b r
  | waiting : L = 3 → s = 3 → Current c 3 b → 0 < r → c / 1000 < e / 1000 →
      e / 1000 % 10 = c / 1000 % 10 → r = (e / 1000 - c / 1000 - 1) / 10 + 1 → Stage s c e L b r

theorem placed_placeFor {c e : Nat} (h : c < e) :
    Placed c e (placeFor c e).1 (placeFor c e).2 (wheelRoundsFor c e) := by
  by_cases h₁ : e - c < 10
  · have hlevel : wheelLevelFor (e - c) = 0 := by simp [wheelLevelFor, h₁]
    simp only [placeFor, hlevel, kWheelQuantumTicks, Nat.div_one]
    exact .near _ h (by omega)
  by_cases h₂ : e - c < 100
  · have hlevel : wheelLevelFor (e - c) = 1 := by simp [wheelLevelFor, h₁, h₂]
    simp only [placeFor, hlevel]
    exact .tens _ (by omega) (by omega)
  by_cases h₃ : e - c < 1000
  · have hlevel : wheelLevelFor (e - c) = 2 := by simp [wheelLevelFor, h₁, h₂, h₃]
    simp only [placeFor, hlevel]
    exact .hundreds _ (by omega) (by omega)
  · have hlevel : wheelLevelFor (e - c) = 3 := by simp [wheelLevelFor, h₁, h₂, h₃]
    simp only [placeFor, wheelRoundsFor, hlevel]
    exact .thousands (by omega)

theorem placed_expiryFor (c e : Nat) :
    Placed c e (placeFor c (expiryFor c e)).1 (placeFor c (expiryFor c e)).2
      (wheelRoundsFor c (expiryFor c e)) := by
  unfold expiryFor
  split
  · next h =>
    have hd : c + 1 - c = 1 := by omega
    simpa [placeFor, wheelLevelFor, hd, kWheelQuantumTicks, kWheelSize] using Placed.overdue _ h
  · next h => exact placed_placeFor (by omega)

theorem stage_of_placed {c e L b r : Nat} (h : Placed c e L b r) : Stage 3 (c + 1) e L b r := by
  cases h with
  | near _ hlt hnear =>
    refine .ready ?_ (by omega)
    unfold Ready
    split
    · exact ⟨rfl, by omega⟩
    · exact .near _ (by omega) (by omega)
  | overdue _ hle =>
    refine .ready ?_ (by omega)
    rw [Ready, if_pos (by omega)]
    exact ⟨rfl, rfl⟩
  | tens _ hlt hle =>
    by_cases hcur : Current (c + 1) 1 (e / 10 % 10)
    · obtain ⟨hdvd, hb⟩ := id hcur
      simp only [kWheelQuantumTicks, kWheelSize] at hdvd hb
      refine .due le_rfl (by omega) hcur (by omega) ?_
      simp only [kWheelQuantumTicks]
      omega
    · have hmod : ¬ ((c + 1) % 10 = 0 ∧ e / 10 % 10 = (c + 1) / 10 % 10) := hcur
      refine .ready ?_ fun _ _ => hcur
      rw [Ready, if_neg (by omega)]
      exact .tens _ (by omega) (by omega)
  | hundreds _ hlt hle =>
    by_cases hcur : Current (c + 1) 2 (e / 100 % 10)
    · obtain ⟨hdvd, hb⟩ := id hcur
      simp only [kWheelQuantumTicks, kWheelSize] at hdvd hb
      refine .due (by omega) (by omega) hcur (by omega) ?_
      simp only [kWheelQuantumTicks]
      omega
    · have hmod : ¬ ((c + 1) % 100 = 0 ∧ e / 100 % 10 = (c + 1) / 100 % 10) := hcur
      refine .ready ?_ fun _ _ => hcur
      rw [Ready, if_neg (by omega)]
      exact .hundreds _ (by omega) (by omega)
  | thousands hlt =>
    by_cases hcur : Current (c + 1) 3 (e / 1000 % 10)
    · obtain ⟨hdvd, hb⟩ := id hcur
      simp only [kWheelQuantumTicks, kWheelSize] at hdvd hb
      by_cases hr : (e / 1000 - c / 1000 - 1) / 10 = 0
      · refine .due (by omega) le_rfl hcur (fun _ => hr) ?_
        simp only [kWheelQuantumTicks]
        omega
      · exact .waiting rfl rfl hcur (by omega) (by omega) hb (by omega)
    · have hmod : ¬ ((c + 1) % 1000 = 0 ∧ e / 1000 % 10 = (c + 1) / 1000 % 10) := hcur
      refine .ready ?_ fun _ _ => hcur
      rw [Ready, if_neg (by omega)]
      have hrounds : (e / 1000 - c / 1000 - 1) / 10 = (e / 1000 - (c + 1) / 1000 - 1) / 10 := by
        omega
      rw [hrounds]
      exact .thousands (by omega)

theorem Stage.skip {s c e L b r : Nat} (h : Stage (s + 1) c e L b r)
    (hb : ¬ (L = s + 1 ∧ Current c L b)) : Stage s c e L b r := by
  cases h with
  | ready h₁ h₂ => exact .ready h₁ fun h h' => h₂ h (by omega)
  | due h₁ h₂ h₃ h₄ h₅ => exact .due h₁ (by by_contra hlt; exact hb ⟨by omega, h₃⟩) h₃ h₄ h₅
  | waiting h₁ h₂ h₃ => exact absurd ⟨by omega, h₁ ▸ h₃⟩ hb

theorem Stage.wait {c e b r : Nat} (h : Stage 3 c e 3 b r) (hb : Current c 3 b) (hr : 0 < r) :
    Stage 2 c e 3 b (r - 1) := by
  cases h with
  | ready _ h₂ => exact absurd hb (h₂ (by omega) le_rfl)
  | due _ _ _ h₄ => exact absurd (h₄ rfl) (by omega)
  | waiting _ _ _ _ hlt hmod heq =>
    refine .ready ?_ (by omega)
    rw [Ready, if_neg (by omega), hb.2, heq]
    simp only [kWheelQuantumTicks, kWheelSize, ← hmod]
    exact .thousands hlt

/-- A timer taken out of its bucket falls due before that bucket comes round again. -/
theorem Stage.digit_eq {s c e b r : Nat} (h : Stage (s + 1) c e (s + 1) b r)
    (hb : Current c (s + 1) b) (hr : s + 1 = 3 → r = 0) :
    e / kWheelQuantumTicks (s + 1) = c / kWheelQuantumTicks (s + 1) := by
  cases h with
  | ready _ h₂ => exact absurd hb (h₂ (by omega) le_rfl)
  | due _ _ _ _ h => exact h
  | waiting h₁ _ _ h₄ => exact absurd (hr h₁) (by omega)

theorem stage_overdue {c e r : Nat} (s : Nat) (h : e ≤ c) : Stage s c e 0 (c % 10) r :=
  .ready (by rw [Ready, if_pos h]; exact ⟨rfl, rfl⟩) (by omega)

theorem level_placeFor_lt {s c e : Nat} (hs : s < 3) (hc : c % kWheelQuantumTicks (s + 1) = 0)
    (he : e / kWheelQuantumTicks (s + 1) = c / kWheelQuantumTicks (s + 1)) :
    (placeFor c e).1 ≤ s := by
  unfold placeFor wheelLevelFor
  interval_cases s <;> simp only [kWheelQuantumTicks] at hc he <;> split_ifs <;> omega

theorem stage_placeFor {s c e : Nat} (hs : s < 3) (hc : c % kWheelQuantumTicks (s + 1) = 0)
    (he : e / kWheelQuantumTicks (s + 1) = c / kWheelQuantumTicks (s + 1)) (hlt : c < e) :
    Stage s c e (placeFor c e).1 (placeFor c e).2 (wheelRoundsFor c e) := by
  have hlevel := level_placeFor_lt hs hc he
  refine .ready (by rw [Ready, if_neg (by omega)]; exact placed_placeFor hlt) ?_
  unfold Current kWheelSize
  unfold placeFor wheelLevelFor kWheelSize at hlevel ⊢
  interval_cases s <;> simp only [kWheelQuantumTicks] at hc he <;> split_ifs at hlevel ⊢ <;>
    simp only [kWheelQuantumTicks] <;> omega

theorem ready_of_stage {c e L b r : Nat} (h : Stage 0 c e L b r) : Ready c e L b r := by
  cases h with
  | ready h => exact h
  | due h₁ h₂ => omega
  | waiting _ h => omega

/-! ## One bucket -/

end TimerQueue

/-- What `CascadeLevel` makes of a timer in the current bucket. -/
def Filed.cascaded (level c e : Nat) (f : Filed α) : Filed α :=
  if level = 3 ∧ f.rounds > 0 then { f with rounds := f.rounds - 1 }
  else if e ≤ c then { f with place := (0, c % kWheelSize) }
  else { f with
    place := TimerQueue.placeFor c e
    rounds := TimerQueue.wheelRoundsFor c e }

@[simp]
theorem Filed.timer_cascaded (level c e : Nat) (f : Filed α) :
    (f.cascaded level c e).timer = f.timer := by
  unfold Filed.cascaded
  split_ifs <;> rfl

namespace TimerQueue

variable {q q' : TimerQueue α} {B B' : Nat × Nat → List Nat} {i level : Nat}

/-- The tick at which a timer is due. -/
def dueTick (q : TimerQueue α) (f : Filed α) : Nat := q.deadlineTick f.timer.deadline

/-- What a slot holds once `CascadeLevel` has passed it. -/
def recast (q : TimerQueue α) (level i : Nat) : Option (Filed α) :=
  (q.filed i).map fun f => f.cascaded level q.currentTick (q.dueTick f)

/-- The slots of a list that `CascadeLevel` leaves in, or sends to, the bucket `p`. -/
def recastTo (q : TimerQueue α) (level : Nat) (p : Nat × Nat) (xs : List Nat) : List Nat :=
  xs.filter fun i => (q.recast level i).any fun f => f.place = p

/-- What cascading the slots `xs` of the bucket `p` does. -/
structure Cascaded (q : TimerQueue α) (B : Nat × Nat → List Nat) (level : Nat) (p : Nat × Nat)
    (kept xs : List Nat) (q' : TimerQueue α) (B' : Nat × Nat → List Nat) : Prop where
  coherent : Coherent q' B'
  clock : SameClock q q'
  count : q'.activeTimerCount = q.activeTimerCount
  slotCount : q'.slotCount = q.slotCount
  filed : ∀ j, q'.filed j = if j ∈ xs then q.recast level j else q.filed j
  bucket : ∀ p', B' p' = (if p' = p then kept else B p') ++ q.recastTo level p' xs

theorem Coherent.setRounds (h : Coherent q B) (i rounds : Nat) :
    let q' := q.setSlot i { q.slots i with wheelRounds := rounds }
    Coherent q' B ∧ SameClock q q' ∧ ∀ j, q'.filed j =
      if j = i then (q.filed i).map fun f => { f with rounds := rounds } else q.filed j := by
  intro q'
  have hself : q'.slots i = { q.slots i with wheelRounds := rounds } := by simp [q', setSlot]
  have hother : ∀ j, j ≠ i → q'.slots j = q.slots j := by
    intro j hj
    simp [q', setSlot, hj]
  have hre : Relinked q q' := by
    refine ⟨fun j => ?_, rfl, rfl, rfl, rfl, rfl, rfl, rfl, rfl, rfl⟩
    by_cases hj : j = i
    · subst hj; rw [hself]; rfl
    · rw [hother j hj]
  have hlinks : ∀ j, (q'.slots j).wheelPrev = (q.slots j).wheelPrev ∧
      (q'.slots j).wheelNext = (q.slots j).wheelNext ∧ (q'.slots j).place = (q.slots j).place := by
    intro j
    by_cases hj : j = i
    · subst hj; rw [hself]; exact ⟨rfl, rfl, rfl⟩
    · rw [hother j hj]; exact ⟨rfl, rfl, rfl⟩
  refine ⟨⟨hre.stored h.stored, ⟨fun p => ?_, fun p j => ?_⟩, fun j => ?_⟩, hre.sameClock,
    fun j => ?_⟩
  · exact (h.linked.list p).congr (fun j _ => (hlinks j).1) fun j _ => (hlinks j).2.1
  · rw [(hlinks j).2.2]; exact h.linked.mem_iff p j
  · rw [hre.active, (hlinks j).2.2]; exact h.active_iff j
  · split
    · next hj =>
      subst hj
      rw [TimerQueue.filed, TimerQueue.filed, hself]
      exact TimerSlot.filed_setRounds _ j rounds
    · next hj => rw [TimerQueue.filed, hother j hj]; rfl

theorem Coherent.notMem_of_ne (h : Coherent q B) {p p' : Nat × Nat} (hi : i ∈ B p)
    (hp : p' ≠ p) : i ∉ B p' := by
  intro hi'
  obtain ⟨f, hf, rfl⟩ := (h.mem_iff p).mp hi
  obtain ⟨g, hg, rfl⟩ := (h.mem_iff p').mp hi'
  obtain rfl : f = g := by simpa using hf.symm.trans hg
  exact hp rfl

theorem recast_congr (hclock : SameClock q q') {j : Nat} (hj : q'.filed j = q.filed j) :
    q'.recast level j = q.recast level j := by
  simp only [recast, dueTick, hj, hclock.currentTick, hclock.deadlineTick]

theorem recastTo_congr (hclock : SameClock q q') {xs : List Nat}
    (hxs : ∀ j ∈ xs, q'.filed j = q.filed j) (p : Nat × Nat) :
    q'.recastTo level p xs = q.recastTo level p xs := by
  unfold recastTo
  refine List.filter_congr fun j hj => ?_
  rw [recast_congr hclock (hxs j hj)]

theorem recastTo_cons (p : Nat × Nat) {xs : List Nat} {f : Filed α}
    (hf : q.recast level i = some f) :
    q.recastTo level p (i :: xs) =
      (if f.place = p then [i] else []) ++ q.recastTo level p xs := by
  unfold recastTo
  rw [List.filter_cons, hf]
  by_cases hp : f.place = p <;> simp [hp]

/-- The first slot of the list is passed, then the others. -/
theorem Cascaded.cons {q₁ : TimerQueue α} (B₁ : Nat × Nat → List Nat) {p : Nat × Nat}
    {kept xs : List Nat} (hi : i ∉ xs) {f : Filed α} (hf : q.recast level i = some f)
    (hclock : SameClock q q₁) (hcount : q₁.activeTimerCount = q.activeTimerCount)
    (hslot : q₁.slotCount = q.slotCount)
    (hfiled : ∀ j, q₁.filed j = if j = i then some f else q.filed j)
    (hB : ∀ p', p' ≠ p → B₁ p' = B p' ++ if f.place = p' then [i] else [])
    (h : Cascaded q₁ B₁ level p (kept ++ if f.place = p then [i] else []) xs q' B') :
    Cascaded q B level p kept (i :: xs) q' B' := by
  have hsame : ∀ j ∈ xs, q₁.filed j = q.filed j := by
    intro j hj
    have hji : j ≠ i := fun e => hi (e ▸ hj)
    rw [hfiled, if_neg hji]
  refine ⟨h.coherent, hclock.trans h.clock, h.count.trans hcount, h.slotCount.trans hslot,
    fun j => ?_, fun p' => ?_⟩
  · rw [h.filed]
    by_cases hj : j ∈ xs
    · rw [if_pos hj, if_pos (List.mem_cons_of_mem _ hj), recast_congr hclock (hsame j hj)]
    · rw [if_neg hj, hfiled]
      by_cases hji : j = i
      · subst hji; simp [hf]
      · simp [hji, hj]
  · rw [h.bucket, recastTo_congr hclock hsame, recastTo_cons p' hf]
    by_cases hp : p' = p
    · subst hp; simp
    · simp [hp, hB p' hp]

theorem cascadeLoop_succ {next : Option Nat} (hnext : (q.slots i).wheelNext = next) (fuel : Nat) :
    TimerQueue.cascadeLoop level (fuel + 1) (some i) q =
      if level = 3 ∧ (q.slots i).wheelRounds > 0 then
        TimerQueue.cascadeLoop level fuel next
          (q.setSlot i { q.slots i with wheelRounds := (q.slots i).wheelRounds - 1 })
      else
        let q' := q.unlinkTimerSlot i
        let expiryTick := q'.deadlineTick (q.slots i).deadline
        if expiryTick ≤ q'.currentTick then
          TimerQueue.cascadeLoop level fuel next
            (q'.linkTimerSlot i 0 (q'.currentTick % kWheelSize))
        else TimerQueue.cascadeLoop level fuel next (q'.placeTimerSlot i expiryTick) := by
  subst hnext
  rfl

/-- The loop of `CascadeLevel` passes each slot of the bucket once, in order. -/
theorem Coherent.cascadeLoop (h : Coherent q B) {p : Nat × Nat}
    {kept xs : List Nat} (hB : B p = kept ++ xs) {fuel : Nat} (hfuel : xs.length ≤ fuel)
    (hmove : ∀ i ∈ xs, ∀ f, q.filed i = some f → ¬ (level = 3 ∧ f.rounds > 0) →
      (f.cascaded level q.currentTick (q.dueTick f)).place ≠ p) :
    ∃ B', Cascaded q B level p kept xs (TimerQueue.cascadeLoop level fuel xs.head? q) B' := by
  induction xs generalizing q B kept fuel with
  | nil =>
    refine ⟨B, ?_⟩
    have hloop : TimerQueue.cascadeLoop level fuel ([] : List Nat).head? q = q := by
      cases fuel <;> rfl
    rw [hloop]
    refine ⟨h, .refl q, rfl, rfl, by simp, fun p' => ?_⟩
    by_cases hp : p' = p
    · subst hp; simp [hB, recastTo]
    · simp [hp, recastTo]
  | cons i xs ih =>
    obtain ⟨fuel, rfl⟩ : ∃ n, fuel = n + 1 := ⟨fuel - 1, by simp at hfuel; omega⟩
    have hmem : i ∈ B p := by simp [hB]
    obtain ⟨f, hf, hplace⟩ := (h.mem_iff p).mp hmem
    obtain ⟨hactive, -, hslotplace, hrounds, -, -, hdead⟩ := TimerSlot.filed_eq_some_iff.mp hf
    have hnodup : (kept ++ i :: xs).Nodup := hB ▸ (h.linked.list p).nodup
    have hi : i ∉ xs := by grind
    have hnext : (q.slots i).wheelNext = xs.head? := ((h.linked.list p).links kept i xs hB).2
    have hrecast : q.recast level i = some (f.cascaded level q.currentTick (q.dueTick f)) := by
      simp [recast, hf]
    have hmove' : ∀ q₁ : TimerQueue α, SameClock q q₁ → (∀ j, j ≠ i → q₁.filed j = q.filed j) →
        ∀ j ∈ xs, ∀ g, q₁.filed j = some g → ¬ (level = 3 ∧ g.rounds > 0) →
          (g.cascaded level q₁.currentTick (q₁.dueTick g)).place ≠ p := by
      intro q₁ hclock hsame j hj g hg hr
      rw [hsame j (fun e => hi (e ▸ hj))] at hg
      rw [hclock.currentTick, dueTick, hclock.deadlineTick]
      exact hmove j (by simp [hj]) g hg hr
    have hlen : xs.length ≤ fuel := by simpa using hfuel
    have hnotMem : ∀ p', p' ≠ p → i ∉ B p' := fun p' => h.notMem_of_ne hmem
    rw [List.head?_cons, cascadeLoop_succ hnext, ← hrounds]
    by_cases hwait : level = 3 ∧ f.rounds > 0
    · -- the timer has rounds left and stays
      rw [if_pos hwait]
      obtain ⟨hco, hclock, hfiled⟩ := h.setRounds i (f.rounds - 1)
      have hcast : f.cascaded level q.currentTick (q.dueTick f) =
          { f with rounds := f.rounds - 1 } := by
        rw [Filed.cascaded, if_pos hwait]
      rw [hcast] at hrecast
      have hB₁ : B p = (kept ++ [i]) ++ xs := by simp [hB]
      obtain ⟨B', hB'⟩ := ih hco hB₁ hlen
        (hmove' _ hclock fun j hj => by rw [hfiled, if_neg hj])
      refine ⟨B', Cascaded.cons B hi hrecast hclock rfl rfl ?_ ?_ ?_⟩
      · intro j
        rw [hfiled, hf]
        rfl
      · intro p' hp'
        simp [hplace, Ne.symm hp']
      · simpa [hplace] using hB'
    · -- the timer is moved
      rw [if_neg hwait]
      have hto := hmove i (by simp) f hf hwait
      have hstep : ∀ level' bucket rounds, level' ≠ kInvalidWheelLevel →
          f.cascaded level q.currentTick (q.dueTick f) =
            { f with place := (level', bucket), rounds := rounds } →
          ∃ B', Cascaded q B level p kept (i :: xs)
            (TimerQueue.cascadeLoop level fuel xs.head?
              (((q.unlinkTimerSlot i).setSlot i
                { (q.unlinkTimerSlot i).slots i with wheelRounds := rounds }).linkTimerSlot i level'
                bucket)) B' := by
        intro level' bucket rounds hvalid hcast
        have hre := h.refile hactive level' bucket rounds hvalid
        rw [hcast] at hrecast hto
        have hBp : push (pull B i) (level', bucket) i p = kept ++ xs := by
          have hkept : i ∉ kept := by grind
          rw [push, Function.update_of_ne (Ne.symm hto), pull, hB,
            List.erase_append_right _ hkept, List.erase_cons_head]
        obtain ⟨B', hB'⟩ := ih hre.coherent hBp hlen
          (hmove' _ hre.clock fun j hj => by rw [hre.filed, if_neg hj])
        refine ⟨B', Cascaded.cons (push (pull B i) (level', bucket) i) hi hrecast hre.clock
          hre.count hre.slotCount ?_ ?_ ?_⟩
        · intro j
          rw [hre.filed, hf]
          rfl
        · intro p' hp'
          unfold push pull
          by_cases hpl : p' = (level', bucket)
          · subst hpl
            simp [List.erase_of_not_mem (hnotMem _ hp')]
          · simp [hpl, Ne.symm hpl, List.erase_of_not_mem (hnotMem _ hp')]
        · simpa [hto] using hB'
      obtain ⟨-, hre, hsame, -⟩ := h.unlink hactive
      dsimp only
      rw [hre.deadlineTick, hre.currentTick, ← hdead]
      by_cases hdue : q.dueTick f ≤ q.currentTick
      · have hcast : f.cascaded level q.currentTick (q.dueTick f) =
            { f with place := (0, q.currentTick % kWheelSize), rounds := f.rounds } := by
          rw [Filed.cascaded, if_neg hwait, if_pos hdue]
        have hlink := hstep 0 (q.currentTick % kWheelSize) f.rounds (by decide) hcast
        have hself : (q.unlinkTimerSlot i).setSlot i
            { (q.unlinkTimerSlot i).slots i with wheelRounds := f.rounds } =
              q.unlinkTimerSlot i := by
          have hr : (q.slots i).wheelRounds = f.rounds := hrounds.symm
          rw [setSlot, ← hr, ← hsame]
          simp
        rw [hself] at hlink
        have hdue' : q.deadlineTick f.timer.deadline ≤ q.currentTick := hdue
        rw [if_pos hdue']
        exact hlink
      · have hcast : f.cascaded level q.currentTick (q.dueTick f) =
            { f with
              place := placeFor q.currentTick (q.dueTick f)
              rounds := wheelRoundsFor q.currentTick (q.dueTick f) } := by
          rw [Filed.cascaded, if_neg hwait, if_neg hdue]
        have hlink := hstep _ _ _ (wheelLevelFor_ne _) hcast
        have hdue' : ¬ q.deadlineTick f.timer.deadline ≤ q.currentTick := hdue
        rw [if_neg hdue', placeTimerSlot, hre.currentTick]
        exact hlink

/-! ## The whole queue -/

/-- Every timer is where it may be when the levels above `s` have been cascaded. -/
def Staged (s : Nat) (q : TimerQueue α) : Prop :=
  ∀ i f, q.filed i = some f → Stage s q.currentTick (q.dueTick f) f.place.1 f.place.2 f.rounds

/-- Every timer is where it belongs between two ticks. -/
def Settled (q : TimerQueue α) : Prop :=
  ∀ i f, q.filed i = some f → Placed q.currentTick (q.dueTick f) f.place.1 f.place.2 f.rounds

theorem Coherent.length_bucket_le (h : Coherent q B) (p : Nat × Nat) :
    (B p).length ≤ q.slotCount := by
  rw [← List.toFinset_card_of_nodup (h.linked.list p).nodup, ← Finset.card_range q.slotCount]
  refine Finset.card_le_card fun i hi => ?_
  obtain ⟨f, hf, -⟩ := (h.mem_iff p).mp (List.mem_toFinset.mp hi)
  rw [Finset.mem_range]
  exact h.stored.lt_slotCount i (TimerSlot.filed_eq_some_iff.mp hf).1

/-- The bucket that is cascaded at a level. -/
def currentBucket (q : TimerQueue α) (level : Nat) : Nat × Nat :=
  (level, q.currentTick / kWheelQuantumTicks level % kWheelSize)

theorem place_eq_currentBucket_iff {f : Filed α} (hc : q.currentTick % kWheelQuantumTicks level = 0) :
    f.place = q.currentBucket level ↔
      f.place.1 = level ∧ Current q.currentTick f.place.1 f.place.2 := by
  obtain ⟨t, ⟨L, b⟩, r⟩ := f
  simp only [currentBucket, Prod.mk.injEq, Current]
  constructor
  · rintro ⟨rfl, rfl⟩
    exact ⟨rfl, hc, rfl⟩
  · rintro ⟨rfl, -, rfl⟩
    exact ⟨rfl, rfl⟩

section Cascade

variable {s : Nat} (hs : s < 3) (hc : q.currentTick % kWheelQuantumTicks (s + 1) = 0)
  (hst : Staged (s + 1) q) {f : Filed α} (hf : q.filed i = some f)
  (hcur : f.place = q.currentBucket (s + 1)) (hgo : ¬ (s + 1 = 3 ∧ f.rounds > 0))

include hc hst hf hcur hgo

theorem Staged.digit_eq : q.dueTick f / kWheelQuantumTicks (s + 1) =
    q.currentTick / kWheelQuantumTicks (s + 1) := by
  have hstage := hst i f hf
  obtain ⟨hL, hb⟩ := (place_eq_currentBucket_iff hc).mp hcur
  rw [hL] at hstage hb
  exact hstage.digit_eq hb (by omega)

include hs

/-- A timer taken out of the current bucket goes to a finer level. -/
theorem Staged.level_cascaded_le :
    (f.cascaded (s + 1) q.currentTick (q.dueTick f)).place.1 ≤ s := by
  rw [Filed.cascaded, if_neg hgo]
  split
  · exact Nat.zero_le _
  · exact level_placeFor_lt hs hc (hst.digit_eq hc hf hcur hgo)

theorem Staged.place_cascaded_ne :
    (f.cascaded (s + 1) q.currentTick (q.dueTick f)).place ≠ q.currentBucket (s + 1) := by
  intro heq
  have hle := hst.level_cascaded_le hs hc hf hcur hgo
  rw [heq] at hle
  exact absurd hle (by simp [currentBucket])

end Cascade

/-- A timer that `CascadeLevel` has passed needs no more than the finer levels. -/
theorem Staged.stage_cascaded {s : Nat} (hs : s < 3)
    (hc : q.currentTick % kWheelQuantumTicks (s + 1) = 0) (hst : Staged (s + 1) q) {f : Filed α}
    (hf : q.filed i = some f) (hcur : f.place = q.currentBucket (s + 1)) :
    let g := f.cascaded (s + 1) q.currentTick (q.dueTick f)
    Stage s q.currentTick (q.dueTick f) g.place.1 g.place.2 g.rounds := by
  intro g
  have hstage := hst i f hf
  obtain ⟨hL, hb⟩ := (place_eq_currentBucket_iff hc).mp hcur
  rw [hL] at hstage hb
  by_cases hwait : s + 1 = 3 ∧ f.rounds > 0
  · obtain rfl : s = 2 := by omega
    have hg : g = { f with rounds := f.rounds - 1 } := if_pos hwait
    rw [hg]
    show Stage 2 _ _ f.place.1 _ _
    rw [hL]
    exact hstage.wait hb hwait.2
  · by_cases hdue : q.dueTick f ≤ q.currentTick
    · have hg : g = { f with place := (0, q.currentTick % kWheelSize) } := by
        simp only [g, Filed.cascaded, if_neg hwait, if_pos hdue]
      rw [hg]
      exact stage_overdue s hdue
    · have hg : g = { f with
          place := placeFor q.currentTick (q.dueTick f)
          rounds := wheelRoundsFor q.currentTick (q.dueTick f) } := by
        simp only [g, Filed.cascaded, if_neg hwait, if_neg hdue]
      rw [hg]
      exact stage_placeFor hs hc (hst.digit_eq hc hf hcur hwait) (by omega)

/-- `CascadeLevel` empties the current bucket of its level, in order. -/
theorem Coherent.cascadeLevel (h : Coherent q B) {s : Nat} (hs : s < 3)
    (hc : q.currentTick % kWheelQuantumTicks (s + 1) = 0) (hst : Staged (s + 1) q) :
    ∃ B', Cascaded q B (s + 1) (q.currentBucket (s + 1)) [] (B (q.currentBucket (s + 1)))
        (q.cascadeLevel (s + 1)) B' ∧ Staged s (q.cascadeLevel (s + 1)) := by
  set p := q.currentBucket (s + 1) with hp
  have hhead : (q.wheel p).head = (B p).head? := (h.linked.list p).head_eq
  have hsplit : B p = [] ++ B p := rfl
  obtain ⟨B', hB'⟩ := h.cascadeLoop hsplit (h.length_bucket_le p) (by
      intro i hi f hf hgo
      obtain ⟨g, hg, hplace⟩ := (h.mem_iff p).mp hi
      obtain rfl : f = g := by simpa using hf.symm.trans hg
      exact hst.place_cascaded_ne hs hc hf hplace hgo)
  have heq : q.cascadeLevel (s + 1) =
      TimerQueue.cascadeLoop (s + 1) q.slotCount (B p).head? q := by
    rw [← hhead]
    rfl
  rw [heq]
  refine ⟨B', hB', ?_⟩
  intro j g hg
  rw [hB'.clock.currentTick, dueTick, hB'.clock.deadlineTick]
  rw [hB'.filed] at hg
  split at hg
  · next hj =>
    obtain ⟨f, hf, hplace⟩ := (h.mem_iff p).mp hj
    obtain rfl : f.cascaded (s + 1) q.currentTick (q.dueTick f) = g := by
      simpa [recast, hf] using hg
    rw [Filed.timer_cascaded]
    exact hst.stage_cascaded hs hc hf hplace
  · next hj =>
    refine (hst j g hg).skip fun hcur => hj ?_
    exact (h.mem_iff p).mpr ⟨g, hg, (place_eq_currentBucket_iff hc).mpr hcur⟩

/-! ## A tick -/

/-- Cascading, or not, one level at the tick just reached. -/
def stageStep (q : TimerQueue α) (s : Nat) : TimerQueue α :=
  if q.currentTick % kWheelQuantumTicks (s + 1) = 0 then q.cascadeLevel (s + 1) else q

/-- The same timers in the same slots, at the same time. -/
structure SameTimers (q q' : TimerQueue α) : Prop where
  clock : SameClock q q'
  count : q'.activeTimerCount = q.activeTimerCount
  timer : ∀ j, (q'.filed j).map Filed.timer = (q.filed j).map Filed.timer

theorem SameTimers.trans {q'' : TimerQueue α} (h : SameTimers q q') (h' : SameTimers q' q'') :
    SameTimers q q'' :=
  ⟨h.clock.trans h'.clock, h'.count.trans h.count, fun j => (h'.timer j).trans (h.timer j)⟩

theorem Cascaded.sameTimers {p : Nat × Nat} {kept xs : List Nat}
    (h : Cascaded q B level p kept xs q' B') : SameTimers q q' := by
  refine ⟨h.clock, h.count, fun j => ?_⟩
  rw [h.filed]
  split
  · simp [recast, Function.comp_def]
  · rfl

theorem Coherent.stageStep (h : Coherent q B) {s : Nat} (hs : s < 3) (hst : Staged (s + 1) q) :
    ∃ B', Coherent (q.stageStep s) B' ∧ SameTimers q (q.stageStep s) ∧
      Staged s (q.stageStep s) := by
  unfold TimerQueue.stageStep
  split
  · next hc =>
    obtain ⟨B', hB', hstaged⟩ := h.cascadeLevel hs hc hst
    exact ⟨B', hB'.coherent, hB'.sameTimers, hstaged⟩
  · next hc =>
    refine ⟨B, h, ⟨.refl q, rfl, fun _ => rfl⟩, fun i f hf => (hst i f hf).skip ?_⟩
    rintro ⟨hL, hcur⟩
    exact hc (hL ▸ hcur.1)

/-- The wheel at the next tick, before any level is cascaded. -/
def nextTick (q : TimerQueue α) : TimerQueue α := { q with currentTick := q.currentTick + 1 }

theorem Settled.staged (h : Settled q) : Staged 3 q.nextTick :=
  fun i f hf => stage_of_placed (h i f hf)

/-- One turn of the wheel: no timer is lost, and each is either due and in the bucket of this tick,
or where it belongs. -/
theorem Coherent.advanceTick (h : Coherent q B) (hset : Settled q) :
    ∃ B', Coherent q.advanceTick B' ∧ SameTimers q.nextTick q.advanceTick ∧
      Staged 0 q.advanceTick := by
  have hco : Coherent q.nextTick B := h.congr rfl rfl rfl rfl rfl rfl
  obtain ⟨B₂, hco₂, hsame₂, hst₂⟩ := hco.stageStep (s := 2) (by omega) hset.staged
  obtain ⟨B₁, hco₁, hsame₁, hst₁⟩ := hco₂.stageStep (s := 1) (by omega) hst₂
  obtain ⟨B₀, hco₀, hsame₀, hst₀⟩ := hco₁.stageStep (s := 0) (by omega) hst₁
  exact ⟨B₀, hco₀, (hsame₂.trans hsame₁).trans hsame₀, hst₀⟩

/-! ## Draining the current bucket -/

/-- While the bucket `b` is drained, the timers that are due may stand there. -/
def Draining (b : Nat) (q : TimerQueue α) : Prop :=
  ∀ i f, q.filed i = some f →
    q.dueTick f ≤ q.currentTick ∧ f.place = (0, b) ∨
      Placed q.currentTick (q.dueTick f) f.place.1 f.place.2 f.rounds

theorem Settled.draining (h : Settled q) (b : Nat) : Draining b q :=
  fun i f hf => .inr (h i f hf)

theorem Staged.draining (h : Staged 0 q) : Draining (q.currentTick % kWheelSize) q := by
  intro i f hf
  have hready := ready_of_stage (h i f hf)
  unfold Ready at hready
  split at hready
  · next hdue => exact .inl ⟨hdue, Prod.ext hready.1 hready.2⟩
  · exact .inr hready

/-- Once the bucket is empty, every timer is where it belongs. -/
theorem Draining.settled {b : Nat} (hd : Draining b q) (h : Coherent q B)
    (hempty : B (0, b) = []) : Settled q := by
  intro i f hf
  refine (hd i f hf).resolve_left fun ⟨_, hplace⟩ => ?_
  have hmem := (h.mem_iff (0, b)).mpr ⟨f, hf, hplace⟩
  rw [hempty] at hmem
  cases hmem

/-- Where the timers are between two operations: where they belong, up to those that are due in the
bucket that is being drained. -/
def Resting : Option Nat → TimerQueue α → Prop
  | none, q => Settled q
  | some b, q => Draining b q

/-- Timers that an operation leaves alone rest where they were; the others are placed anew. -/
theorem Resting.of_placed {b : Option Nat} (h : Resting b q)
    (hnew : ∀ i f, q'.filed i = some f →
      q.filed i = some f ∧ q'.currentTick = q.currentTick ∧ q'.dueTick f = q.dueTick f ∨
        Placed q'.currentTick (q'.dueTick f) f.place.1 f.place.2 f.rounds) : Resting b q' := by
  cases b with
  | none =>
    intro i f hf
    rcases hnew i f hf with ⟨hf, htick, hdue⟩ | hplaced
    · rw [htick, hdue]
      exact h i f hf
    · exact hplaced
  | some b =>
    intro i f hf
    rcases hnew i f hf with ⟨hf, htick, hdue⟩ | hplaced
    · rw [htick, hdue]
      exact h i f hf
    · exact .inr hplaced

/-- What one iteration of `ExpireCurrentBucket` does. -/
theorem Coherent.expireStep (h : Coherent q B) (b : Nat) :
    match q.expireStep b with
    | .done => B (0, b) = []
    | .replaced q' => ∃ i rest f, B (0, b) = i :: rest ∧ q.filed i = some f ∧
        q.currentTick < q.dueTick f ∧
        Refiled q B i (placeFor q.currentTick (q.dueTick f))
          (wheelRoundsFor q.currentTick (q.dueTick f)) q'
    | .due deadline action q' => ∃ i rest f, B (0, b) = i :: rest ∧ q.filed i = some f ∧
        q.dueTick f ≤ q.currentTick ∧ deadline = f.timer.deadline ∧
        action = some f.timer.action ∧ Emptied q B i q' := by
  have hhead : (q.wheel (0, b)).head = (B (0, b)).head? := (h.linked.list (0, b)).head_eq
  unfold TimerQueue.expireStep
  rw [hhead]
  cases hB : B (0, b) with
  | nil => rfl
  | cons i rest =>
    have hmem : i ∈ B (0, b) := by simp [hB]
    obtain ⟨f, hf, hplace⟩ := (h.mem_iff (0, b)).mp hmem
    obtain ⟨hactive, haction, -, -, -, -, hdead⟩ := TimerSlot.filed_eq_some_iff.mp hf
    dsimp only [List.head?_cons]
    rw [← hdead]
    by_cases hdue : q.deadlineTick f.timer.deadline > q.currentTick
    · rw [if_pos hdue]
      obtain ⟨-, hre, -⟩ := h.unlink hactive
      refine ⟨i, rest, f, rfl, hf, hdue, ?_⟩
      have hmove := h.refile hactive _ (q.dueTick f /
        kWheelQuantumTicks (wheelLevelFor (q.dueTick f - q.currentTick)) % kWheelSize)
        (wheelRoundsFor q.currentTick (q.dueTick f))
        (wheelLevelFor_ne (q.dueTick f - q.currentTick))
      rw [placeTimerSlot, hre.currentTick]
      exact hmove
    · rw [if_neg hdue]
      refine ⟨i, rest, f, rfl, hf, not_lt.mp hdue, rfl, haction, ?_⟩
      have hslot := (h.linked.mem_iff (0, b) i).mp hmem
      have hem := h.removeTimerSlot hactive
      rw [← removeTimerSlot_setAction hactive (h.linked.prev_ne hslot)
        (h.linked.next_ne hslot)] at hem
      rw [hdead]
      exact hem

end TimerQueue

end NebulaRpc.Net
