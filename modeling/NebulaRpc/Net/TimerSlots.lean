import NebulaRpc.Net.TimerLinks

/-!
# Slots and timer ids

`Stored` is the invariant of the slot storage: which slots are free, how many are in use, and which
external ids lead to them. `Taken` and `Freed` say what allocating and removing a slot do to it;
under the invariant a timer id leads to at most one slot.
-/

namespace NebulaRpc.Net.TimerQueue

variable {α : Type*} {q q' : TimerQueue α} {i : Nat}

/-! ## Timer ids -/

theorem value_makeSlotTimerId {g : Nat} (hi : i + 1 < 2 ^ 31) (hg : g < 2 ^ 32) :
    (makeSlotTimerId i g).value = g * 2 ^ 31 + (i + 1) := by
  have hor : g <<< 31 ||| (i + 1) = g * 2 ^ 31 + (i + 1) := by
    rw [← Nat.shiftLeft_add_eq_or_of_lt hi, Nat.shiftLeft_eq]
  simp only [makeSlotTimerId, TimerId.ofNat, hor]
  omega

/-- The mask tests the highest bit. -/
theorem isExternalTimerId_iff (id : TimerId) : isExternalTimerId id = true ↔ 2 ^ 63 ≤ id.value := by
  have hlt := id.value_lt
  have hmask : kExternalTimerMask = 2 ^ 63 := by decide
  simp only [isExternalTimerId, hmask, ne_eq, decide_eq_true_eq]
  constructor
  · intro hne
    by_contra hsmall
    refine hne (Nat.eq_of_testBit_eq fun n => ?_)
    rw [Nat.testBit_and, Nat.testBit_two_pow, Nat.zero_testBit]
    by_cases hn : 63 = n
    · subst hn
      rw [Nat.testBit_lt_two_pow (by omega), Bool.false_and]
    · simp [hn]
  · intro hbig hzero
    have hbit := congrArg (Nat.testBit · 63) hzero
    have hset : id.value.testBit 63 = true :=
      Nat.testBit_of_two_pow_le_and_two_pow_add_one_gt hbig (by omega)
    rw [Nat.testBit_and, hset, Nat.testBit_two_pow_self] at hbit
    simp at hbit

theorem decodeSlotTimerId_eq (id : TimerId) :
    decodeSlotTimerId id =
      if id.value < 2 ^ 63 ∧ id.value % 2 ^ 31 ≠ 0 ∧ id.value / 2 ^ 31 ≠ 0 then
        some (id.value % 2 ^ 31 - 1, id.value / 2 ^ 31)
      else none := by
  have htoken : id.value &&& kSlotIndexMask = id.value % 2 ^ 31 :=
    Nat.and_two_pow_sub_one_eq_mod id.value 31
  have hgen : (id.value >>> 31) &&& kGenerationMask = id.value / 2 ^ 31 % 2 ^ 32 := by
    rw [Nat.shiftRight_eq_div_pow]
    exact Nat.and_two_pow_sub_one_eq_mod _ 32
  have hext := isExternalTimerId_iff id
  simp only [decodeSlotTimerId, htoken, hgen]
  by_cases hbig : id.value < 2 ^ 63
  · have hno : isExternalTimerId id = false := by
      rw [Bool.eq_false_iff, Ne, hext]
      omega
    have hmod : id.value / 2 ^ 31 % 2 ^ 32 = id.value / 2 ^ 31 := by omega
    by_cases hzero : id.value % 2 ^ 31 = 0
    · simp only [hzero, if_true, ne_eq, not_true, false_and, and_false, if_false, ite_self]
    · have hvalid : id.valid = true := by
        simp only [TimerId.valid, ne_eq, decide_eq_true_eq]
        omega
      simp only [hno, hvalid, hmod, hzero, hbig, Bool.not_true, Bool.or_self, Bool.false_eq_true,
        if_false, ne_eq, not_false_eq_true, true_and]
  · have hyes : isExternalTimerId id = true := hext.mpr (by omega)
    simp only [hyes, hbig, Bool.or_true, if_true, false_and, if_false]

/-- Decoding inverts `makeSlotTimerId`. -/
theorem decodeSlotTimerId_eq_some_iff {id : TimerId} {g : Nat} :
    decodeSlotTimerId id = some (i, g) ↔
      i + 1 < 2 ^ 31 ∧ 0 < g ∧ g < 2 ^ 32 ∧ id = makeSlotTimerId i g := by
  rw [decodeSlotTimerId_eq]
  constructor
  · intro h
    split at h
    · next hid =>
      obtain ⟨rfl, rfl⟩ : id.value % 2 ^ 31 - 1 = i ∧ id.value / 2 ^ 31 = g := by simpa using h
      have hg : id.value / 2 ^ 31 < 2 ^ 32 := by omega
      have hi : id.value % 2 ^ 31 - 1 + 1 < 2 ^ 31 := by omega
      refine ⟨hi, by omega, hg, ?_⟩
      ext
      rw [value_makeSlotTimerId hi hg]
      omega
    · cases h
  · rintro ⟨hi, hg0, hg, rfl⟩
    rw [value_makeSlotTimerId hi hg, if_pos (by omega)]
    simp only [Option.some.injEq, Prod.mk.injEq]
    omega

/-! ## The storage invariant -/

/-- The free slots in the order in which they will be taken. -/
def FreeList (next : Nat → Option Nat) : Option Nat → List Nat → Prop
  | head, [] => head = none
  | head, i :: rest => head = some i ∧ FreeList next (next i) rest

theorem FreeList.congr {next next' : Nat → Option Nat} {xs : List Nat} {head : Option Nat}
    (h : FreeList next head xs) (heq : ∀ i ∈ xs, next' i = next i) : FreeList next' head xs := by
  induction xs generalizing head with
  | nil => exact h
  | cons i rest ih =>
    refine ⟨h.1, ?_⟩
    rw [heq i (by simp)]
    exact ih h.2 fun j hj => heq j (by simp [hj])

def activeSlots (q : TimerQueue α) : Finset Nat :=
  (Finset.range q.slotCount).filter fun i => (q.slots i).active

/-- The slot storage, the free list, the counter and the map of external ids agree. -/
structure Stored (q : TimerQueue α) : Prop where
  slotCount_le : q.slotCount ≤ kSlotIndexMask
  lt_slotCount : ∀ i, (q.slots i).active = true → i < q.slotCount
  count : q.activeTimerCount = q.activeSlots.card
  free : ∃ xs : List Nat, xs.Nodup ∧
    FreeList (fun i => (q.slots i).nextFree) q.freeSlotHead xs ∧
      ∀ i, i ∈ xs ↔ i < q.slotCount ∧ (q.slots i).active = false
  external : ∀ x i, q.externalTimerSlots x = some i ↔
    x ≠ 0 ∧ (q.slots i).active = true ∧ (q.slots i).externalTimerId = x
  masked : ∀ i, (q.slots i).active = true → (q.slots i).externalTimerId ≠ 0 →
    2 ^ 63 ≤ (q.slots i).externalTimerId ∧ (q.slots i).externalTimerId < 2 ^ 64
  generation_lt : ∀ i, (q.slots i).generation < 2 ^ 32
  generation_pos : ∀ i, (q.slots i).active = true → 0 < (q.slots i).generation
  action : ∀ i, (q.slots i).active = true → ∃ a, (q.slots i).action = some a

theorem Stored.empty : Stored ({} : TimerQueue α) where
  slotCount_le := Nat.zero_le _
  lt_slotCount := by simp
  count := by simp [activeSlots]
  free := ⟨[], by simp, rfl, by simp⟩
  external := by simp
  masked := by simp
  generation_lt := by simp
  generation_pos := by simp
  action := by simp

/-- Only the slots in use matter, up to their links. -/
theorem Stored.of_agree (h : Stored q) (hle : q'.slotCount ≤ kSlotIndexMask)
    (hge : q.slotCount ≤ q'.slotCount) (hcount : q'.activeTimerCount = q.activeTimerCount)
    (hmap : q'.externalTimerSlots = q.externalTimerSlots)
    (hactive : ∀ i, (q'.slots i).active = (q.slots i).active)
    (hcore : ∀ i, (q.slots i).active = true → (q'.slots i).core = (q.slots i).core)
    (hgen : ∀ i, (q'.slots i).generation < 2 ^ 32)
    (hfree : ∃ xs : List Nat, xs.Nodup ∧
      FreeList (fun i => (q'.slots i).nextFree) q'.freeSlotHead xs ∧
        ∀ i, i ∈ xs ↔ i < q'.slotCount ∧ (q'.slots i).active = false) : Stored q' := by
  have hext : ∀ i, (q.slots i).active = true →
      (q'.slots i).externalTimerId = (q.slots i).externalTimerId := fun i hi =>
    show (q'.slots i).core.externalTimerId = (q.slots i).core.externalTimerId from
      congrArg _ (hcore i hi)
  refine ⟨hle, ?_, ?_, hfree, ?_, ?_, hgen, ?_, ?_⟩
  · intro i hi
    rw [hactive] at hi
    exact (h.lt_slotCount i hi).trans_le hge
  · rw [hcount, h.count]
    congr 1
    ext i
    simp only [activeSlots, Finset.mem_filter, Finset.mem_range, hactive]
    refine and_congr_left fun hi => ⟨fun hlt => hlt.trans_le hge, fun _ => h.lt_slotCount i hi⟩
  · intro x i
    rw [hmap, h.external, hactive]
    refine and_congr_right fun _ => and_congr_right fun hi => ?_
    rw [hext i hi]
  · intro i hi
    rw [hactive] at hi
    rw [hext i hi]
    exact h.masked i hi
  · intro i hi
    rw [hactive] at hi
    have hg : (q'.slots i).core.generation = (q.slots i).core.generation := congrArg _ (hcore i hi)
    exact hg ▸ h.generation_pos i hi
  · intro i hi
    rw [hactive] at hi
    have ha : (q'.slots i).core.action = (q.slots i).core.action := congrArg _ (hcore i hi)
    obtain ⟨a, hsome⟩ := h.action i hi
    exact ⟨a, ha.trans hsome⟩

theorem Relinked.stored (h : Relinked q q') (hq : Stored q) : Stored q' := by
  refine hq.of_agree (h.slotCount ▸ hq.slotCount_le) h.slotCount.ge h.activeTimerCount
    h.externalTimerSlots h.active (fun i _ => h.core i) ?_ ?_
  · simpa only [h.generation] using hq.generation_lt
  · obtain ⟨xs, hnd, hxs, hfree⟩ := hq.free
    refine ⟨xs, hnd, ?_, ?_⟩
    · rw [h.freeSlotHead]
      exact hxs.congr fun i _ => h.nextFree i
    · simpa only [h.slotCount, h.active] using hfree

theorem Stored.mem_activeSlots (h : Stored q) : i ∈ q.activeSlots ↔ (q.slots i).active = true := by
  simp only [activeSlots, Finset.mem_filter, Finset.mem_range]
  exact ⟨And.right, fun hi => ⟨h.lt_slotCount i hi, hi⟩⟩

theorem Stored.count_eq_zero_iff (h : Stored q) :
    q.activeTimerCount = 0 ↔ ∀ i, (q.slots i).active = false := by
  rw [h.count, Finset.card_eq_zero, Finset.eq_empty_iff_forall_notMem]
  simp [h.mem_activeSlots]

/-! ## Taking and giving back a slot -/

/-- A slot just filled by `AllocateSlot`. -/
def freshSlot (deadline : Int) (a : α) (x g : Nat) : TimerSlot α :=
  { deadline := deadline, action := some a, externalTimerId := x, generation := g, active := true }

/-- What `AllocateSlot` does: it fills a slot that was not in use and leaves the others. -/
structure Taken (q : TimerQueue α) (slot : Nat → TimerSlot α) (i : Nat) (q' : TimerQueue α) :
    Prop where
  inactive : (q.slots i).active = false
  lt_slotCount : i < q'.slotCount
  slotCount_ge : q.slotCount ≤ q'.slotCount
  slotCount_le : q'.slotCount ≤ kSlotIndexMask
  filled : ∃ g, 0 < g ∧ g < 2 ^ 32 ∧ q'.slots = Function.update q.slots i (slot g)
  free : ∃ xs : List Nat, xs.Nodup ∧ i ∉ xs ∧
    FreeList (fun i => (q.slots i).nextFree) q'.freeSlotHead xs ∧
      ∀ j, j ∈ xs ↔ j ≠ i ∧ j < q'.slotCount ∧ (q.slots j).active = false
  rest : q' = { q with
    slots := q'.slots, slotCount := q'.slotCount, freeSlotHead := q'.freeSlotHead }

theorem Stored.allocateSlot (h : Stored q) {deadline : Int} {a : α} {x : Nat}
    (halloc : q.allocateSlot deadline a x = some (i, q')) :
    Taken q (freshSlot deadline a x) i q' := by
  have hgen : ∀ j, 0 < (if (q.slots j).generation = 2 ^ 32 - 1 then 1
      else (q.slots j).generation + 1) ∧ (if (q.slots j).generation = 2 ^ 32 - 1 then 1
      else (q.slots j).generation + 1) < 2 ^ 32 := by
    intro j
    have := h.generation_lt j
    split <;> omega
  obtain ⟨xs, hnd, hxs, hfree⟩ := h.free
  unfold TimerQueue.allocateSlot at halloc
  cases hhead : q.freeSlotHead with
  | some j =>
    simp only [hhead, Option.some.injEq, Prod.mk.injEq] at halloc
    obtain ⟨rfl, rfl⟩ := halloc
    cases xs with
    | nil =>
      have hnone : q.freeSlotHead = none := hxs
      rw [hhead] at hnone
      cases hnone
    | cons k xs =>
      obtain ⟨hk, hxs⟩ := hxs
      obtain rfl : k = j := by simpa [hhead] using hk.symm
      obtain ⟨hknot, hnd⟩ := List.nodup_cons.mp hnd
      obtain ⟨hlt, hinactive⟩ := (hfree k).mp List.mem_cons_self
      refine ⟨hinactive, hlt, le_rfl, h.slotCount_le, ⟨_, (hgen k).1, (hgen k).2, rfl⟩,
        ⟨xs, hnd, hknot, hxs, fun j => ?_⟩, rfl⟩
      show j ∈ xs ↔ j ≠ k ∧ j < q.slotCount ∧ (q.slots j).active = false
      rw [← hfree j, List.mem_cons]
      refine ⟨fun hj => ⟨fun heq => hknot (heq ▸ hj), .inr hj⟩, ?_⟩
      rintro ⟨hne, hj⟩
      exact hj.resolve_left hne
  | none =>
    simp only [hhead] at halloc
    split at halloc
    · cases halloc
    · next hroom =>
      simp only [Option.some.injEq, Prod.mk.injEq] at halloc
      obtain ⟨rfl, rfl⟩ := halloc
      have hinactive : (q.slots q.slotCount).active = false := by
        by_contra hactive
        exact absurd (h.lt_slotCount _ (by simpa using hactive)) (lt_irrefl _)
      -- The free list is empty, so every slot of the vector is in use.
      obtain rfl : xs = [] := by
        cases xs with
        | nil => rfl
        | cons k xs => cases hhead.symm.trans hxs.1
      refine ⟨hinactive, Nat.lt_succ_self _, Nat.le_succ _, Nat.lt_of_not_le hroom,
        ⟨1, by decide, by decide, ?_⟩, ⟨[], by simp, by simp, rfl, fun j => ?_⟩, rfl⟩
      · simp [setSlot, freshSlot]
      · refine iff_of_false List.not_mem_nil ?_
        rintro ⟨hne, hlt, hj⟩
        exact List.not_mem_nil ((hfree j).mpr ⟨Nat.lt_of_le_of_ne (Nat.le_of_lt_succ hlt) hne, hj⟩)

/-- A slot taken and given back at once, as when inserting the external id throws. -/
theorem Taken.releaseSlot (h : Stored q) {slot : Nat → TimerSlot α} (ht : Taken q slot i q') 
    (hslot : ∀ g, (slot g).generation = g) : Stored (q'.releaseSlot i) := by
  obtain ⟨g, hg0, hg, hslots⟩ := ht.filled
  obtain ⟨xs, hnd, hi, hxs, hfree⟩ := ht.free
  have hrest := ht.rest
  have hother : ∀ j, j ≠ i → (q'.releaseSlot i).slots j = q.slots j := by
    intro j hj
    simp [TimerQueue.releaseSlot, setSlot, hslots, hj]
  have hself : ((q'.releaseSlot i).slots i).active = false ∧
      ((q'.releaseSlot i).slots i).generation = g ∧
      ((q'.releaseSlot i).slots i).nextFree = q'.freeSlotHead := by
    simp [TimerQueue.releaseSlot, setSlot, hslots, hslot]
  refine h.of_agree ht.slotCount_le ht.slotCount_ge (by rw [hrest]; rfl) (by rw [hrest]; rfl)
    ?_ ?_ ?_ ?_
  · intro j
    by_cases hj : j = i
    · subst hj; rw [hself.1, ht.inactive]
    · rw [hother j hj]
  · intro j hactive
    have hj : j ≠ i := by
      rintro rfl
      simp [ht.inactive] at hactive
    rw [hother j hj]
  · intro j
    by_cases hj : j = i
    · subst hj; rw [hself.2.1]; exact hg
    · rw [hother j hj]; exact h.generation_lt j
  · refine ⟨i :: xs, List.nodup_cons.mpr ⟨hi, hnd⟩, ⟨rfl, ?_⟩, ?_⟩
    · dsimp only
      rw [hself.2.2]
      refine hxs.congr fun j hj => ?_
      rw [hother j (fun e => hi (e ▸ hj))]
    · intro j
      rw [List.mem_cons, hfree j]
      by_cases hj : j = i
      · subst hj
        exact iff_of_true (.inl rfl) ⟨ht.lt_slotCount, hself.1⟩
      · rw [hother j hj]
        exact ⟨fun h => (h.resolve_left hj).2, fun h => .inr ⟨hj, h⟩⟩

/-- Put the taken slot into use: count it and enter its external id. -/
theorem Taken.stored (h : Stored q) {deadline : Int} {a : α} {x : Nat}
    (ht : Taken q (freshSlot deadline a x) i q')
    (hx : x = 0 ∨ 2 ^ 63 ≤ x ∧ x < 2 ^ 64 ∧ q.externalTimerSlots x = none) :
    Stored { (if x ≠ 0 then q'.emplaceExternal x i else q') with
      activeTimerCount := q.activeTimerCount + 1 } := by
  obtain ⟨g, hg0, hg, hslots⟩ := ht.filled
  obtain ⟨xs, hnd, hi, hxs, hfree⟩ := ht.free
  have hmap : q'.externalTimerSlots = q.externalTimerSlots := by rw [ht.rest]
  set q₂ : TimerQueue α := { (if x ≠ 0 then q'.emplaceExternal x i else q') with
      activeTimerCount := q.activeTimerCount + 1 } with hq₂
  have hslots₂ : q₂.slots = Function.update q.slots i (freshSlot deadline a x g) := by
    rw [← hslots, hq₂]
    split
    · unfold emplaceExternal
      split <;> rfl
    · rfl
  have hcount₂ : q₂.slotCount = q'.slotCount := by
    rw [hq₂]
    split
    · unfold emplaceExternal
      split <;> rfl
    · rfl
  have hfree₂ : q₂.freeSlotHead = q'.freeSlotHead := by
    rw [hq₂]
    split
    · unfold emplaceExternal
      split <;> rfl
    · rfl
  have hmap₂ : q₂.externalTimerSlots =
      if x = 0 then q.externalTimerSlots else Function.update q.externalTimerSlots x (some i) := by
    rcases hx with rfl | ⟨hbig, -, hnone⟩
    · simp [hq₂, hmap]
    · have h0 : x ≠ 0 := by omega
      simp [hq₂, h0, emplaceExternal, hmap, hnone]
  have hother : ∀ j, j ≠ i → q₂.slots j = q.slots j := by
    intro j hj
    rw [hslots₂, Function.update_of_ne hj]
  have hself : q₂.slots i = freshSlot deadline a x g := by rw [hslots₂, Function.update_self]
  have hne : ∀ j, (q.slots j).active = true → j ≠ i := by
    rintro j hj rfl
    rw [ht.inactive] at hj
    cases hj
  refine ⟨hcount₂ ▸ ht.slotCount_le, ?_, ?_, ?_, ?_, ?_, ?_, ?_, ?_⟩
  · intro j hj
    rw [hcount₂]
    by_cases hji : j = i
    · exact hji ▸ ht.lt_slotCount
    · rw [hother j hji] at hj
      exact (h.lt_slotCount j hj).trans_le ht.slotCount_ge
  · have hset : q₂.activeSlots = insert i q.activeSlots := by
      ext j
      rw [Finset.mem_insert, h.mem_activeSlots]
      simp only [activeSlots, Finset.mem_filter, Finset.mem_range, hcount₂]
      by_cases hji : j = i
      · subst hji
        simp [hself, freshSlot, ht.lt_slotCount]
      · rw [hother j hji]
        simp only [hji, false_or, and_iff_right_iff_imp]
        exact fun hj => (h.lt_slotCount j hj).trans_le ht.slotCount_ge
    have hnot : i ∉ q.activeSlots := by simp [h.mem_activeSlots, ht.inactive]
    rw [hset, Finset.card_insert_of_notMem hnot, ← h.count]
  · refine ⟨xs, hnd, ?_, ?_⟩
    · rw [hfree₂]
      refine hxs.congr fun j hj => ?_
      rw [hother j (fun e => hi (e ▸ hj))]
    · intro j
      rw [hcount₂, hfree j]
      by_cases hj : j = i
      · subst hj
        exact iff_of_false (fun h => h.1 rfl) (by simp [hself, freshSlot])
      · rw [hother j hj]
        exact and_iff_right hj
  · intro y j
    rw [hmap₂]
    by_cases hji : j = i
    · subst hji
      rw [hself]
      rcases hx with rfl | ⟨hbig, -, hnone⟩
      · have hno : q.externalTimerSlots y ≠ some j := by
          intro hsome
          exact absurd rfl (hne j ((h.external y j).mp hsome).2.1)
        simp only [if_true, hno, freshSlot, false_iff]
        rintro ⟨hy, -, rfl⟩
        exact hy rfl
      · have h0 : x ≠ 0 := by omega
        by_cases hyx : y = x
        · subst hyx
          simp [h0, freshSlot]
        · have hno : q.externalTimerSlots y ≠ some j := by
            intro hsome
            exact absurd rfl (hne j ((h.external y j).mp hsome).2.1)
          simp [h0, hyx, hno, freshSlot, Ne.symm hyx]
    · rw [hother j hji, ← h.external]
      rcases hx with rfl | ⟨hbig, -, hnone⟩
      · simp
      · have h0 : x ≠ 0 := by omega
        by_cases hyx : y = x
        · subst hyx
          simp [h0, hnone, Ne.symm hji]
        · simp [h0, hyx]
  · intro j hj
    by_cases hji : j = i
    · subst hji
      rw [hself]
      intro h0
      have h0 : x ≠ 0 := h0
      exact ⟨by simp only [freshSlot]; omega, by simp only [freshSlot]; omega⟩
    · rw [hother j hji] at hj ⊢
      exact h.masked j hj
  · intro j
    by_cases hji : j = i
    · subst hji; rw [hself]; exact hg
    · rw [hother j hji]; exact h.generation_lt j
  · intro j hj
    by_cases hji : j = i
    · subst hji; rw [hself]; exact hg0
    · rw [hother j hji] at hj ⊢; exact h.generation_pos j hj
  · intro j hj
    by_cases hji : j = i
    · subst hji; rw [hself]; exact ⟨a, rfl⟩
    · rw [hother j hji] at hj ⊢; exact h.action j hj

/-- What `RemoveTimerSlot` does to the storage: the slot is free, the others are as they were. -/
structure Freed (q : TimerQueue α) (i : Nat) (q' : TimerQueue α) : Prop where
  slotCount : q'.slotCount = q.slotCount
  count : q'.activeTimerCount = q.activeTimerCount - 1
  freeSlotHead : q'.freeSlotHead = some i
  nextFree : (q'.slots i).nextFree = q.freeSlotHead
  inactive : (q'.slots i).active = false
  generation : (q'.slots i).generation = (q.slots i).generation
  core : ∀ j, j ≠ i → (q'.slots j).core = (q.slots j).core
  externalTimerSlots : q'.externalTimerSlots =
    if (q.slots i).externalTimerId ≠ 0 then
      Function.update q.externalTimerSlots (q.slots i).externalTimerId none
    else q.externalTimerSlots

theorem Freed.stored (h : Stored q) (hi : (q.slots i).active = true) (hf : Freed q i q') :
    Stored q' := by
  have hactive : ∀ j, j ≠ i → (q'.slots j).active = (q.slots j).active := fun j hj =>
    show (q'.slots j).core.active = (q.slots j).core.active from congrArg _ (hf.core j hj)
  have hgen : ∀ j, (q'.slots j).generation = (q.slots j).generation := by
    intro j
    by_cases hj : j = i
    · rw [hj]; exact hf.generation
    · exact show (q'.slots j).core.generation = (q.slots j).core.generation from
        congrArg _ (hf.core j hj)
  have hext : ∀ j, j ≠ i → (q'.slots j).externalTimerId = (q.slots j).externalTimerId :=
    fun j hj => show (q'.slots j).core.externalTimerId = (q.slots j).core.externalTimerId from
      congrArg _ (hf.core j hj)
  have hact : ∀ j, j ≠ i → (q'.slots j).action = (q.slots j).action := fun j hj =>
    show (q'.slots j).core.action = (q.slots j).core.action from congrArg _ (hf.core j hj)
  have hne : ∀ j, (q'.slots j).active = true → j ≠ i := by
    rintro j hj rfl
    rw [hf.inactive] at hj
    cases hj
  refine ⟨hf.slotCount ▸ h.slotCount_le, ?_, ?_, ?_, ?_, ?_, ?_, ?_, ?_⟩
  · intro j hj
    rw [hactive j (hne j hj)] at hj
    rw [hf.slotCount]
    exact h.lt_slotCount j hj
  · have hset : q'.activeSlots = q.activeSlots.erase i := by
      ext j
      rw [Finset.mem_erase, h.mem_activeSlots]
      simp only [activeSlots, Finset.mem_filter, Finset.mem_range, hf.slotCount]
      by_cases hji : j = i
      · subst hji
        simp [hf.inactive]
      · rw [hactive j hji]
        simp only [ne_eq, hji, not_false_eq_true, true_and, and_iff_right_iff_imp]
        exact h.lt_slotCount j
    rw [hset, Finset.card_erase_of_mem (h.mem_activeSlots.mpr hi), hf.count, h.count]
  · obtain ⟨xs, hnd, hxs, hfree⟩ := h.free
    have hni : i ∉ xs := by
      intro hmem
      rw [((hfree i).mp hmem).2] at hi
      cases hi
    refine ⟨i :: xs, List.nodup_cons.mpr ⟨hni, hnd⟩, ⟨hf.freeSlotHead, ?_⟩, ?_⟩
    · dsimp only
      rw [hf.nextFree]
      refine hxs.congr fun j hj => ?_
      exact show (q'.slots j).core.nextFree = (q.slots j).core.nextFree from
        congrArg _ (hf.core j fun e => hni (e ▸ hj))
    · intro j
      rw [hf.slotCount, List.mem_cons, hfree j]
      by_cases hj : j = i
      · subst hj
        exact iff_of_true (.inl rfl) ⟨h.lt_slotCount j hi, hf.inactive⟩
      · rw [hactive j hj]
        exact or_iff_right hj
  · intro x j
    have holds := h.external x j
    have hat := h.external x i
    rw [hf.externalTimerSlots]
    by_cases hji : j = i
    · subst hji
      by_cases h0 : (q.slots j).externalTimerId = 0
      · simp only [h0, ne_eq, not_true, if_false, hf.inactive, Bool.false_eq_true, false_and,
          and_false, iff_false]
        intro hsome
        obtain ⟨hx, -, heq⟩ := holds.mp hsome
        exact hx (heq ▸ h0)
      · simp only [h0, ne_eq, not_false_eq_true, if_true, hf.inactive, Bool.false_eq_true,
          false_and, and_false, iff_false]
        by_cases hx : x = (q.slots j).externalTimerId
        · simp [hx]
        · rw [Function.update_of_ne hx]
          intro hsome
          exact hx (holds.mp hsome).2.2.symm
    · rw [hactive j hji, hext j hji, ← holds]
      by_cases h0 : (q.slots i).externalTimerId = 0
      · simp [h0]
      · by_cases hx : x = (q.slots i).externalTimerId
        · have hsome := hat.mpr ⟨hx ▸ h0, hi, hx.symm⟩
          simp only [hx, ne_eq, h0, not_false_eq_true, if_true, Function.update_self, reduceCtorEq,
            false_iff]
          rw [← hx, hsome]
          simpa using Ne.symm hji
        · simp [h0, hx]
  · intro j hj
    have hji := hne j hj
    rw [hactive j hji] at hj
    rw [hext j hji]
    exact h.masked j hj
  · intro j
    rw [hgen]
    exact h.generation_lt j
  · intro j hj
    rw [hactive j (hne j hj)] at hj
    rw [hgen]
    exact h.generation_pos j hj
  · intro j hj
    rw [hact j (hne j hj)]
    rw [hactive j (hne j hj)] at hj
    exact h.action j hj

/-! ## Finding a slot by its id -/

/-- The id under which `CancelInLoop` finds the timer in a slot without the map. -/
def slotTimerIdOf (q : TimerQueue α) (i : Nat) : TimerId :=
  makeSlotTimerId i (q.slots i).generation

theorem Stored.succ_lt (h : Stored q) (hi : (q.slots i).active = true) : i + 1 < 2 ^ 31 := by
  have h₁ := h.lt_slotCount i hi
  have h₂ : q.slotCount ≤ 2 ^ 31 - 1 := h.slotCount_le
  omega

theorem Stored.value_slotTimerIdOf_lt (h : Stored q) (hi : (q.slots i).active = true) :
    (q.slotTimerIdOf i).value < 2 ^ 63 := by
  have h₁ := h.succ_lt hi
  have h₂ := h.generation_lt i
  rw [slotTimerIdOf, value_makeSlotTimerId h₁ h₂]
  omega

/-- An id leads to the active slot it names: by the slot and its generation, or by the external id
that was handed out for it. -/
theorem Stored.findTimerSlot_eq_some_iff (h : Stored q) (id : TimerId) :
    q.findTimerSlot id = some i ↔ (q.slots i).active = true ∧
      (id = q.slotTimerIdOf i ∨
        (q.slots i).externalTimerId ≠ 0 ∧ id.value = (q.slots i).externalTimerId) := by
  unfold findTimerSlot
  split
  · next hext =>
    rw [isExternalTimerId_iff] at hext
    rw [h.external]
    constructor
    · rintro ⟨h0, hactive, heq⟩
      exact ⟨hactive, .inr ⟨heq ▸ h0, heq.symm⟩⟩
    · rintro ⟨hactive, rfl | ⟨h0, heq⟩⟩
      · have := h.value_slotTimerIdOf_lt hactive
        omega
      · exact ⟨heq ▸ h0, hactive, heq.symm⟩
  · next hext =>
    rw [isExternalTimerId_iff] at hext
    have hslot : ((q.slots i).active = true ∧ (id = q.slotTimerIdOf i ∨
        (q.slots i).externalTimerId ≠ 0 ∧ id.value = (q.slots i).externalTimerId)) ↔
        (q.slots i).active = true ∧ decodeSlotTimerId id = some (i, (q.slots i).generation) := by
      refine and_congr_right fun hactive => ?_
      rw [decodeSlotTimerId_eq_some_iff]
      constructor
      · rintro (hid | ⟨h0, heq⟩)
        · exact ⟨h.succ_lt hactive, h.generation_pos i hactive, h.generation_lt i, hid⟩
        · have := (h.masked i hactive h0).1
          omega
      · exact fun hid => .inl hid.2.2.2
    rw [hslot]
    cases decodeSlotTimerId id with
    | none => simp
    | some p =>
      obtain ⟨j, g⟩ := p
      dsimp only
      constructor
      · intro hfind
        split at hfind
        · cases hfind
        split at hfind
        · cases hfind
        next hlive =>
        obtain rfl : j = i := by simpa using hfind
        obtain ⟨hactive, rfl⟩ : (q.slots j).active = true ∧ (q.slots j).generation = g := by
          simpa using hlive
        exact ⟨hactive, rfl⟩
      · rintro ⟨hactive, hp⟩
        obtain ⟨rfl, rfl⟩ : j = i ∧ g = (q.slots i).generation := by simpa using hp
        have hlt := h.lt_slotCount j hactive
        simp [hactive, Nat.not_le.mpr hlt]

end NebulaRpc.Net.TimerQueue
