import NebulaRpc.Net.TimerSlots

/-!
# The queue as a set of timers

`filed` is what the queue holds in a slot, without the links: a timer, its bucket and the rounds it
has to wait there. `Coherent` is the invariant of the whole data structure, and each operation is
described by what it does to `filed`, to the buckets and to the clock. From here on no proof looks
at links, free lists or ids again.
-/

namespace NebulaRpc.Net

/-- What was added: a timer with the slot id it was given and the external id it came with. -/
structure Timer (α : Type*) where
  slotId : TimerId
  externalId : Nat
  deadline : Int
  action : α

namespace Timer

variable {α : Type*}

/-- The id that `AddTimer` returns. -/
def id (x : Timer α) : TimerId := if x.externalId ≠ 0 then .ofNat x.externalId else x.slotId

/-- `CancelInLoop` takes this id for the timer. -/
def Named (x : Timer α) (id : TimerId) : Prop :=
  id = x.slotId ∨ x.externalId ≠ 0 ∧ id.value = x.externalId

instance (x : Timer α) (id : TimerId) : Decidable (x.Named id) :=
  inferInstanceAs (Decidable (_ ∨ _))

end Timer

/-- A timer in its bucket. -/
structure Filed (α : Type*) where
  timer : Timer α
  place : Nat × Nat
  rounds : Nat

variable {α : Type*}

def TimerSlot.unlinked (s : TimerSlot α) : TimerSlot α :=
  { s with wheelPrev := none, wheelNext := none }

def TimerSlot.filed (i : Nat) (s : TimerSlot α) : Option (Filed α) :=
  match s.active, s.action, s.place with
  | true, some a, some p =>
    some ⟨⟨TimerQueue.makeSlotTimerId i s.generation, s.externalTimerId, s.deadline, a⟩, p,
      s.wheelRounds⟩
  | _, _, _ => none

theorem TimerSlot.filed_congr {s s' : TimerSlot α} (h : s'.unlinked = s.unlinked) (i : Nat) :
    s'.filed i = s.filed i :=
  show s'.unlinked.filed i = s.unlinked.filed i by rw [h]

theorem TimerSlot.place_congr {s s' : TimerSlot α} (h : s'.unlinked = s.unlinked) :
    s'.place = s.place :=
  show s'.unlinked.place = s.unlinked.place by rw [h]

theorem TimerSlot.filed_setRounds (s : TimerSlot α) (i rounds : Nat) :
    TimerSlot.filed i { s with wheelRounds := rounds } =
      (s.filed i).map fun f => { f with rounds := rounds } := by
  have hplace : TimerSlot.place { s with wheelRounds := rounds } = s.place := rfl
  simp only [TimerSlot.filed, hplace]
  cases s.active <;> cases s.action <;> cases s.place <;> rfl

theorem TimerSlot.filed_eq_some_iff {s : TimerSlot α} {i : Nat} {f : Filed α} :
    s.filed i = some f ↔ s.active = true ∧ s.action = some f.timer.action ∧
      s.place = some f.place ∧ f.rounds = s.wheelRounds ∧
      f.timer.slotId = TimerQueue.makeSlotTimerId i s.generation ∧
      f.timer.externalId = s.externalTimerId ∧ f.timer.deadline = s.deadline := by
  obtain ⟨⟨slotId, externalId, deadline, action⟩, place, rounds⟩ := f
  unfold TimerSlot.filed
  cases s.active <;> cases s.action <;> cases s.place <;> simp
  grind

namespace TimerQueue

variable {q q' q'' : TimerQueue α} {B : Nat × Nat → List Nat} {i : Nat}

/-- What stands in a slot. -/
def filed (q : TimerQueue α) (i : Nat) : Option (Filed α) := (q.slots i).filed i

/-- The timers that were added and neither cancelled nor invoked. -/
def timers (q : TimerQueue α) : Set (Timer α) := {x | ∃ i f, q.filed i = some f ∧ f.timer = x}

/-- Storage, links and places agree. -/
structure Coherent (q : TimerQueue α) (B : Nat × Nat → List Nat) : Prop where
  stored : Stored q
  linked : Linked q B
  active_iff : ∀ i, (q.slots i).active = true ↔ (q.slots i).place ≠ none

/-- As `Coherent`, but for a slot in use that stands in no bucket. -/
structure Loose (q : TimerQueue α) (B : Nat × Nat → List Nat) (i : Nat) : Prop where
  stored : Stored q
  linked : Linked q B
  active : (q.slots i).active = true
  place : (q.slots i).place = none
  active_iff : ∀ j, j ≠ i → ((q.slots j).active = true ↔ (q.slots j).place ≠ none)

/-- The timerfd stands still only when there is no timer. -/
def IdleDisarmed (q : TimerQueue α) : Prop := q.timerFdArmed = false → q.activeTimerCount = 0

/-- The operation did not touch the clock, nor the counter of external ids. -/
structure SameClock (q q' : TimerQueue α) : Prop where
  wheelEpoch : q'.wheelEpoch = q.wheelEpoch
  currentTick : q'.currentTick = q.currentTick
  timerFdArmed : q'.timerFdArmed = q.timerFdArmed
  timerFd : q'.timerFd = q.timerFd
  nextExternalTimerId : q'.nextExternalTimerId = q.nextExternalTimerId

theorem SameClock.refl (q : TimerQueue α) : SameClock q q := ⟨rfl, rfl, rfl, rfl, rfl⟩

theorem SameClock.trans (h : SameClock q q') (h' : SameClock q' q'') : SameClock q q'' :=
  ⟨h'.wheelEpoch.trans h.wheelEpoch, h'.currentTick.trans h.currentTick,
    h'.timerFdArmed.trans h.timerFdArmed, h'.timerFd.trans h.timerFd,
    h'.nextExternalTimerId.trans h.nextExternalTimerId⟩

theorem SameClock.deadlineTick (h : SameClock q q') (d : Int) :
    q'.deadlineTick d = q.deadlineTick d := by
  simp only [TimerQueue.deadlineTick, h.wheelEpoch]

theorem Relinked.sameClock (h : Relinked q q') : SameClock q q' :=
  ⟨h.wheelEpoch, h.currentTick, h.timerFdArmed, h.timerFd, h.nextExternalTimerId⟩

theorem Coherent.empty : Coherent ({} : TimerQueue α) fun _ => [] where
  stored := .empty
  linked := ⟨fun _ => .nil, by simp [TimerSlot.place]⟩
  active_iff := by simp [TimerSlot.place]

/-! ## Slots in their buckets -/

theorem Coherent.exists_filed (h : Coherent q B) (hi : (q.slots i).active = true) :
    ∃ f, q.filed i = some f := by
  obtain ⟨a, ha⟩ := h.stored.action i hi
  obtain ⟨p, hp⟩ := Option.ne_none_iff_exists'.mp ((h.active_iff i).mp hi)
  exact ⟨⟨⟨makeSlotTimerId i (q.slots i).generation, (q.slots i).externalTimerId,
    (q.slots i).deadline, a⟩, p, (q.slots i).wheelRounds⟩,
    TimerSlot.filed_eq_some_iff.mpr ⟨hi, ha, hp, rfl, rfl, rfl, rfl⟩⟩

theorem filed_eq_none (hi : (q.slots i).active = false) : q.filed i = none := by
  simp [filed, TimerSlot.filed, hi]

theorem Coherent.filed_eq_none_iff (h : Coherent q B) :
    q.filed i = none ↔ (q.slots i).active = false := by
  refine ⟨fun hnone => ?_, filed_eq_none⟩
  by_contra hactive
  obtain ⟨f, hf⟩ := h.exists_filed (by simpa using hactive)
  rw [hnone] at hf
  cases hf

/-- The buckets hold the filed slots. -/
theorem Coherent.mem_iff (h : Coherent q B) (p : Nat × Nat) :
    i ∈ B p ↔ ∃ f, q.filed i = some f ∧ f.place = p := by
  rw [h.linked.mem_iff]
  constructor
  · intro hp
    obtain ⟨f, hf⟩ := h.exists_filed ((h.active_iff i).mpr (by simp [hp]))
    obtain ⟨-, -, hplace, -⟩ := TimerSlot.filed_eq_some_iff.mp hf
    exact ⟨f, hf, by simpa [hplace] using hp⟩
  · rintro ⟨f, hf, rfl⟩
    exact (TimerSlot.filed_eq_some_iff.mp hf).2.2.1

/-- The clock and the counter of external ids do not matter. -/
theorem Coherent.congr (h : Coherent q B) (hslots : q'.slots = q.slots)
    (hcount : q'.slotCount = q.slotCount) (hwheel : q'.wheel = q.wheel)
    (hfree : q'.freeSlotHead = q.freeSlotHead)
    (hactive : q'.activeTimerCount = q.activeTimerCount)
    (hmap : q'.externalTimerSlots = q.externalTimerSlots) : Coherent q' B := by
  refine ⟨?_, ⟨?_, ?_⟩, ?_⟩
  · refine h.stored.of_agree (hcount ▸ h.stored.slotCount_le) hcount.ge hactive hmap ?_ ?_ ?_ ?_
    · simp [hslots]
    · simp [hslots]
    · simpa [hslots] using h.stored.generation_lt
    · simpa [hslots, hcount, hfree] using h.stored.free
  · simpa [hslots, hwheel] using h.linked.list
  · simpa [hslots] using h.linked.mem_iff
  · simpa [hslots] using h.active_iff

/-- A slot that stands in no bucket may change without regard to the lists. -/
theorem Linked.of_unlinked (h : Linked q B) (hwheel : q'.wheel = q.wheel)
    (hi : (q.slots i).place = none) (hi' : (q'.slots i).place = none)
    (hother : ∀ j, j ≠ i → q'.slots j = q.slots j) : Linked q' B := by
  have hne : ∀ p, ∀ j ∈ B p, j ≠ i := by
    rintro p j hj rfl
    rw [h.mem_iff, hi] at hj
    cases hj
  refine ⟨fun p => ?_, fun p j => ?_⟩
  · rw [hwheel]
    refine (h.list p).congr ?_ ?_
    · intro j hj
      rw [hother j (hne p j hj)]
    · intro j hj
      rw [hother j (hne p j hj)]
  · rw [h.mem_iff]
    by_cases hj : j = i
    · subst hj; rw [hi, hi']
    · rw [hother j hj]

/-- `PlaceTimerSlot` and `LinkTimerSlot` on a loose slot. -/
theorem Loose.link (h : Loose q B i) (level bucket rounds : Nat)
    (hlevel : level ≠ kInvalidWheelLevel) :
    let q' := (q.setSlot i { q.slots i with wheelRounds := rounds }).linkTimerSlot i level bucket
    Coherent q' (push B (level, bucket) i) ∧ Relinked q q' ∧
      (∀ j, j ≠ i → q'.filed j = q.filed j) ∧
      ∃ f, q'.filed i = some f ∧ f.place = (level, bucket) ∧ f.rounds = rounds ∧
        (q.slots i).action = some f.timer.action ∧
        f.timer.slotId = makeSlotTimerId i (q.slots i).generation ∧
        f.timer.externalId = (q.slots i).externalTimerId ∧
        f.timer.deadline = (q.slots i).deadline := by
  intro q'
  set q₁ := q.setSlot i { q.slots i with wheelRounds := rounds } with hq₁
  have hslot₁ : q₁.slots i = { q.slots i with wheelRounds := rounds } := by simp [hq₁, setSlot]
  have hother₁ : ∀ j, j ≠ i → q₁.slots j = q.slots j := by
    intro j hj
    simp [hq₁, setSlot, hj]
  have hplace₁ : (q₁.slots i).place = none := by rw [hslot₁]; exact h.place
  have hlinked₁ : Linked q₁ B := h.linked.of_unlinked rfl h.place hplace₁ hother₁
  have hre₁ : Relinked q q₁ := by
    refine ⟨fun j => ?_, rfl, rfl, rfl, rfl, rfl, rfl, rfl, rfl, rfl⟩
    by_cases hj : j = i
    · subst hj; rw [hslot₁]; rfl
    · rw [hother₁ j hj]
  have htail := hlinked₁.tail_ne hplace₁ (level, bucket)
  have hre : Relinked q q' := hre₁.trans (relinked_linkTimerSlot htail)
  have hslot := slots_linkTimerSlot htail
  have hother : ∀ j, j ≠ i → (q'.slots j).unlinked = (q.slots j).unlinked := by
    intro j hj
    rw [hslot, if_neg hj, hother₁ j hj]
    split <;> rfl
  have hself : (q'.slots i).place = some (level, bucket) ∧ (q'.slots i).wheelRounds = rounds := by
    rw [hslot, if_pos rfl, hslot₁]
    simp [TimerSlot.place, hlevel]
  obtain ⟨a, ha⟩ := h.stored.action i h.active
  refine ⟨⟨hre.stored h.stored, hlinked₁.link hplace₁ hlevel, ?_⟩, hre, ?_, ?_⟩
  · intro j
    by_cases hj : j = i
    · subst hj
      rw [hre.active, hself.1]
      simp [h.active]
    · rw [hre.active, TimerSlot.place_congr (hother j hj)]
      exact h.active_iff j hj
  · exact fun j hj => TimerSlot.filed_congr (hother j hj) j
  · refine ⟨⟨⟨makeSlotTimerId i (q.slots i).generation, (q.slots i).externalTimerId,
      (q.slots i).deadline, a⟩, (level, bucket), rounds⟩, ?_, rfl, rfl, ha, rfl, rfl, rfl⟩
    rw [filed, TimerSlot.filed_eq_some_iff]
    refine ⟨?_, ?_, hself.1, hself.2.symm, ?_, ?_, ?_⟩
    · rw [hre.active]; exact h.active
    · rw [hre.action]; exact ha
    · rw [hre.generation]
    · rw [hre.externalTimerId]
    · rw [hre.deadline]

/-- `UnlinkTimerSlot` on a slot in use. -/
theorem Coherent.unlink (h : Coherent q B) (hi : (q.slots i).active = true) :
    Loose (q.unlinkTimerSlot i) (pull B i) i ∧ Relinked q (q.unlinkTimerSlot i) ∧
      ((q.unlinkTimerSlot i).slots i).wheelRounds = (q.slots i).wheelRounds ∧
      ∀ j, j ≠ i → ((q.unlinkTimerSlot i).slots j).unlinked = (q.slots j).unlinked := by
  obtain ⟨p, hp⟩ := Option.ne_none_iff_exists'.mp ((h.active_iff i).mp hi)
  have hslot := slots_unlinkTimerSlot (h.linked.prev_ne hp) (h.linked.next_ne hp)
  have hre := relinked_unlinkTimerSlot (h.linked.prev_ne hp) (h.linked.next_ne hp)
  have hother : ∀ j, j ≠ i → ((q.unlinkTimerSlot i).slots j).unlinked = (q.slots j).unlinked := by
    intro j hj
    rw [hslot, if_neg hj]
    rfl
  refine ⟨⟨hre.stored h.stored, h.linked.unlink hp, ?_, ?_, ?_⟩, hre, ?_, hother⟩
  · rw [hre.active]; exact hi
  · rw [hslot, if_pos rfl]
    simp [TimerSlot.place]
  · intro j hj
    rw [hre.active, TimerSlot.place_congr (hother j hj)]
    exact h.active_iff j
  · rw [hslot, if_pos rfl]

/-- Where `q'` files the slot `i` anew and leaves everything else. -/
structure Refiled (q : TimerQueue α) (B : Nat × Nat → List Nat) (i : Nat) (place : Nat × Nat)
    (rounds : Nat) (q' : TimerQueue α) : Prop where
  coherent : Coherent q' (push (pull B i) place i)
  filed : ∀ j, q'.filed j =
    if j = i then (q.filed i).map fun f => { f with place := place, rounds := rounds }
    else q.filed j
  clock : SameClock q q'
  count : q'.activeTimerCount = q.activeTimerCount
  slotCount : q'.slotCount = q.slotCount

/-- Moving a slot to another bucket. -/
theorem Coherent.refile (h : Coherent q B) (hi : (q.slots i).active = true)
    (level bucket rounds : Nat) (hlevel : level ≠ kInvalidWheelLevel) :
    Refiled q B i (level, bucket) rounds
      (((q.unlinkTimerSlot i).setSlot i
        { (q.unlinkTimerSlot i).slots i with wheelRounds := rounds }).linkTimerSlot i level bucket) := by
  obtain ⟨hloose, hre₁, -, hother⟩ := h.unlink hi
  obtain ⟨hco, hre₂, hsame, f, hf, hplace, hrounds, hact, hslot, hext, hdead⟩ :=
    hloose.link level bucket rounds hlevel
  have hre := hre₁.trans hre₂
  refine ⟨hco, fun j => ?_, hre.sameClock, hre.activeTimerCount, hre.slotCount⟩
  split
  · next hj =>
    subst hj
    obtain ⟨f₀, hf₀⟩ := h.exists_filed hi
    obtain ⟨-, hact₀, -, -, hslot₀, hext₀, hdead₀⟩ := TimerSlot.filed_eq_some_iff.mp hf₀
    rw [hf, hf₀, Option.map_some]
    obtain ⟨⟨s, x, d, a⟩, pl, r⟩ := f
    obtain ⟨⟨s₀, x₀, d₀, a₀⟩, pl₀, r₀⟩ := f₀
    simp only at hplace hrounds hact hslot hext hdead hact₀ hslot₀ hext₀ hdead₀ ⊢
    rw [hre₁.action, hact₀] at hact
    rw [hre₁.generation, ← hslot₀] at hslot
    rw [hre₁.externalTimerId, ← hext₀] at hext
    rw [hre₁.deadline, ← hdead₀] at hdead
    simp_all
  · next hj =>
    rw [hsame j hj]
    exact TimerSlot.filed_congr (hother j hj) j

/-! ## Removing and cancelling -/

/-- Where `q'` is `q` without the timer in slot `i`. -/
structure Emptied (q : TimerQueue α) (B : Nat × Nat → List Nat) (i : Nat) (q' : TimerQueue α) :
    Prop where
  coherent : Coherent q' (pull B i)
  filed : ∀ j, q'.filed j = if j = i then none else q.filed j
  clock : SameClock q q'
  count : q'.activeTimerCount = q.activeTimerCount - 1

theorem Coherent.removeTimerSlot (h : Coherent q B) (hi : (q.slots i).active = true) :
    Emptied q B i (q.removeTimerSlot i) := by
  set q₁ : TimerQueue α := if (q.slots i).externalTimerId ≠ 0 then
    { q with externalTimerSlots :=
      Function.update q.externalTimerSlots (q.slots i).externalTimerId none } else q with hq₁
  have hslots₁ : q₁.slots = q.slots := by rw [hq₁]; split <;> rfl
  have hplace : (q.slots i).place ≠ none := (h.active_iff i).mp hi
  obtain ⟨p, hp⟩ := Option.ne_none_iff_exists'.mp hplace
  have hp₁ : (q₁.slots i).place = some p := by rw [hslots₁, hp]
  have hlinked₁ : Linked q₁ B := by
    have hwheel : q₁.wheel = q.wheel := by rw [hq₁]; split <;> rfl
    refine ⟨fun p => ?_, fun p j => ?_⟩
    · rw [hslots₁, hwheel]; exact h.linked.list p
    · rw [hslots₁]; exact h.linked.mem_iff p j
  have hslot := slots_unlinkTimerSlot (hlinked₁.prev_ne hp₁) (hlinked₁.next_ne hp₁)
  have hre := relinked_unlinkTimerSlot (hlinked₁.prev_ne hp₁) (hlinked₁.next_ne hp₁)
  have hlinked₂ := hlinked₁.unlink hp₁
  have hlevel : (q.slots i).wheelLevel ≠ kInvalidWheelLevel := by
    intro heq
    simp [TimerSlot.place, heq] at hplace
  have hq' : q.removeTimerSlot i = ({ q₁.unlinkTimerSlot i with
      activeTimerCount := (q₁.unlinkTimerSlot i).activeTimerCount - 1 } : TimerQueue α).releaseSlot i := by
    simp only [TimerQueue.removeTimerSlot, hi, Bool.not_true, Bool.false_eq_true, if_false, ← hq₁]
    rw [if_pos hlevel]
  set q' := q.removeTimerSlot i
  have hother : ∀ j, j ≠ i → q'.slots j = (q₁.unlinkTimerSlot i).slots j := by
    intro j hj
    simp [hq', TimerQueue.releaseSlot, setSlot, hj]
  have hunlinked : ∀ j, j ≠ i → (q'.slots j).unlinked = (q.slots j).unlinked := by
    intro j hj
    rw [hother j hj, hslot, if_neg hj, hslots₁]
    rfl
  have hself : (q'.slots i).active = false ∧ (q'.slots i).place = none ∧
      (q'.slots i).nextFree = (q₁.unlinkTimerSlot i).freeSlotHead ∧
      (q'.slots i).generation = ((q₁.unlinkTimerSlot i).slots i).generation := by
    simp [hq', TimerQueue.releaseSlot, setSlot, TimerSlot.place]
  have hfreed : Freed q i q' := by
    refine ⟨?_, ?_, ?_, ?_, hself.1, ?_, ?_, ?_⟩
    · rw [hq']
      exact hre.slotCount.trans (by rw [hq₁]; split <;> rfl)
    · rw [hq']
      exact congrArg (· - 1) (hre.activeTimerCount.trans (by rw [hq₁]; split <;> rfl))
    · rw [hq']; rfl
    · rw [hself.2.2.1, hre.freeSlotHead, hq₁]
      split <;> rfl
    · rw [hself.2.2.2, hre.generation, hslots₁]
    · intro j hj
      rw [hother j hj, hre.core, hslots₁]
    · rw [hq']
      exact hre.externalTimerSlots.trans (by rw [hq₁]; split <;> rfl)
  refine ⟨⟨hfreed.stored h.stored hi, ?_, ?_⟩, ?_, ?_, hfreed.count⟩
  · refine hlinked₂.of_unlinked (by rw [hq']; rfl) ?_ hself.2.1 hother
    rw [hslot, if_pos rfl]
    simp [TimerSlot.place]
  · intro j
    by_cases hj : j = i
    · subst hj; simp [hself.1, hself.2.1]
    · have hact : (q'.slots j).unlinked.active = (q.slots j).unlinked.active :=
        congrArg _ (hunlinked j hj)
      rw [TimerSlot.place_congr (hunlinked j hj)]
      exact (iff_of_eq (congrArg (· = true) hact)).trans (h.active_iff j)
  · intro j
    split
    · next hj => subst hj; exact filed_eq_none hself.1
    · next hj => exact TimerSlot.filed_congr (hunlinked j hj) j
  · have hclock₁ : SameClock q q₁ := by
      rw [hq₁]
      split <;> exact ⟨rfl, rfl, rfl, rfl, rfl⟩
    have hclock₂ : SameClock (q₁.unlinkTimerSlot i) q' := by
      rw [hq']
      exact ⟨rfl, rfl, rfl, rfl, rfl⟩
    exact (hclock₁.trans hre.sameClock).trans hclock₂

theorem unlinkTimerSlot_setAction (hp : (q.slots i).wheelPrev ≠ some i)
    (hn : (q.slots i).wheelNext ≠ some i) :
    (q.setSlot i { q.slots i with action := none }).unlinkTimerSlot i =
      (q.unlinkTimerSlot i).setSlot i { (q.unlinkTimerSlot i).slots i with action := none } := by
  simp only [unlinkTimerSlot]
  cases h₁ : (q.slots i).wheelPrev with
  | none =>
    cases h₂ : (q.slots i).wheelNext with
    | none => simp [setSlot, setBucket]
    | some n =>
      have hni : n ≠ i := by rintro rfl; exact hn h₂
      simp [setSlot, setBucket, hni, hni.symm, Function.update_comm hni]
  | some r =>
    have hri : r ≠ i := by rintro rfl; exact hp h₁
    cases h₂ : (q.slots i).wheelNext with
    | none => simp [setSlot, setBucket, hri, hri.symm, Function.update_comm hri]
    | some n =>
      have hni : n ≠ i := by rintro rfl; exact hn h₂
      by_cases hrn : n = r
      · subst hrn
        simp [setSlot, hni, hni.symm, Function.update_comm hni]
      · simp [setSlot, hri, hri.symm, hni, hni.symm, hrn, Function.update_comm hni,
          Function.update_comm hri]

theorem releaseSlot_setAction (q : TimerQueue α) (i : Nat) :
    (q.setSlot i { q.slots i with action := none }).releaseSlot i = q.releaseSlot i := by
  simp [releaseSlot, setSlot]

/-- It does not matter that the action has been taken out of the slot. -/
theorem removeTimerSlot_setAction (hactive : (q.slots i).active = true)
    (hp : (q.slots i).wheelPrev ≠ some i) (hn : (q.slots i).wheelNext ≠ some i) :
    (q.setSlot i { q.slots i with action := none }).removeTimerSlot i = q.removeTimerSlot i := by
  set cleared : TimerSlot α := { q.slots i with action := none } with hcleared
  have hself : (q.setSlot i cleared).slots i = cleared := by simp [setSlot]
  set erased : TimerQueue α → TimerQueue α := fun q' =>
    if (q.slots i).externalTimerId ≠ 0 then
      { q' with externalTimerSlots :=
          Function.update q'.externalTimerSlots (q.slots i).externalTimerId none }
    else q' with herased
  have hslots : (erased q).slots i = q.slots i := by
    simp only [herased]
    split <;> rfl
  have hcomm : erased (q.setSlot i cleared) =
      (erased q).setSlot i { (erased q).slots i with action := none } := by
    rw [hslots, ← hcleared]
    simp only [herased]
    split <;> rfl
  have hunfold : ∀ q' : TimerQueue α, (q'.slots i).active = (q.slots i).active →
      (q'.slots i).externalTimerId = (q.slots i).externalTimerId →
      (q'.slots i).wheelLevel = (q.slots i).wheelLevel →
      q'.removeTimerSlot i =
        let q'' := if (q.slots i).wheelLevel ≠ kInvalidWheelLevel then (erased q').unlinkTimerSlot i
          else erased q'
        ({ q'' with activeTimerCount := q''.activeTimerCount - 1 } : TimerQueue α).releaseSlot i := by
    intro q' ha hx hl
    simp only [removeTimerSlot, ha, hx, hl, hactive, Bool.not_true, Bool.false_eq_true, if_false]
    rfl
  rw [hunfold q rfl rfl rfl, hunfold (q.setSlot i cleared) (by rw [hself]) (by rw [hself])
    (by rw [hself]), hcomm]
  by_cases hlevel : (q.slots i).wheelLevel ≠ kInvalidWheelLevel
  · simp only [if_pos hlevel]
    rw [unlinkTimerSlot_setAction (hslots ▸ hp) (hslots ▸ hn)]
    exact releaseSlot_setAction { (erased q).unlinkTimerSlot i with
      activeTimerCount := ((erased q).unlinkTimerSlot i).activeTimerCount - 1 } i
  · simp only [if_neg hlevel]
    exact releaseSlot_setAction { erased q with
      activeTimerCount := (erased q).activeTimerCount - 1 } i

theorem Emptied.timers (h : Emptied q B i q') : ∀ x, x ∈ q'.timers ↔
    ∃ j f, j ≠ i ∧ q.filed j = some f ∧ f.timer = x := by
  intro x
  constructor
  · rintro ⟨j, f, hf, rfl⟩
    rw [h.filed] at hf
    split at hf
    · cases hf
    · next hj => exact ⟨j, f, hj, hf, rfl⟩
  · rintro ⟨j, f, hj, hf, rfl⟩
    exact ⟨j, f, by rw [h.filed, if_neg hj, hf], rfl⟩

/-- The slot that `CancelInLoop` finds holds the timer that the id names. -/
theorem Coherent.findTimerSlot_eq_some_iff (h : Coherent q B) (id : TimerId) :
    q.findTimerSlot id = some i ↔ ∃ f, q.filed i = some f ∧ f.timer.Named id := by
  rw [h.stored.findTimerSlot_eq_some_iff]
  constructor
  · rintro ⟨hactive, hid⟩
    obtain ⟨f, hf⟩ := h.exists_filed hactive
    obtain ⟨-, -, -, -, hslot, hext, -⟩ := TimerSlot.filed_eq_some_iff.mp hf
    refine ⟨f, hf, ?_⟩
    rwa [Timer.Named, hslot, hext]
  · rintro ⟨f, hf, hnamed⟩
    obtain ⟨hactive, -, -, -, hslot, hext, -⟩ := TimerSlot.filed_eq_some_iff.mp hf
    rw [Timer.Named, hslot, hext] at hnamed
    exact ⟨hactive, hnamed⟩

/-- No two slots hold timers that answer to one id. -/
theorem Coherent.slot_unique (h : Coherent q B) {id : TimerId} {j : Nat} {f g : Filed α}
    (hi : q.filed i = some f) (hj : q.filed j = some g) (hf : f.timer.Named id)
    (hg : g.timer.Named id) : i = j := by
  have h₁ := (h.findTimerSlot_eq_some_iff id).mpr ⟨f, hi, hf⟩
  have h₂ := (h.findTimerSlot_eq_some_iff id).mpr ⟨g, hj, hg⟩
  simpa using h₁.symm.trans h₂

/-- What `CancelInLoop` did: it took out the timer that the id names, if there was one. -/
structure Cancelled (q : TimerQueue α) (B : Nat × Nat → List Nat) (id : TimerId)
    (q' : TimerQueue α) (B' : Nat × Nat → List Nat) : Prop where
  coherent : Coherent q' B'
  idle : IdleDisarmed q'
  sublist : ∀ p, (B' p).Sublist (B p)
  filed : ∀ j, q'.filed j = (q.filed j).filter fun f => ¬ f.timer.Named id
  count : q'.activeTimerCount ≤ q.activeTimerCount
  wheelEpoch : q'.wheelEpoch = q.wheelEpoch
  currentTick : q'.currentTick = q.currentTick
  nextExternalTimerId : q'.nextExternalTimerId = q.nextExternalTimerId
  timerFd : q'.timerFd = q.timerFd ∧ q'.timerFdArmed = q.timerFdArmed ∨
    q'.timerFd = none ∧ q'.timerFdArmed = false

theorem Coherent.cancelInLoop (h : Coherent q B) (hidle : IdleDisarmed q) (id : TimerId) :
    ∃ B', Cancelled q B id (q.cancelInLoop id) B' := by
  unfold TimerQueue.cancelInLoop
  cases hfind : q.findTimerSlot id with
  | none =>
    refine ⟨B, h, hidle, fun _ => .refl _, fun j => ?_, le_rfl, rfl, rfl, rfl, .inl ⟨rfl, rfl⟩⟩
    cases hj : q.filed j with
    | none => rfl
    | some f =>
      have hno : ¬ f.timer.Named id := by
        intro hnamed
        have := (h.findTimerSlot_eq_some_iff id).mpr ⟨f, hj, hnamed⟩
        rw [hfind] at this
        cases this
      simp [Option.filter, hno]
  | some i =>
    obtain ⟨f, hf, hnamed⟩ := (h.findTimerSlot_eq_some_iff id).mp hfind
    have hactive := (TimerSlot.filed_eq_some_iff.mp hf).1
    have hem := h.removeTimerSlot hactive
    have hfiled : ∀ j, (q.removeTimerSlot i).filed j =
        (q.filed j).filter fun f => ¬ f.timer.Named id := by
      intro j
      rw [hem.filed]
      split
      · next hj => subst hj; simp [Option.filter, hf, hnamed]
      · next hj =>
        cases hg : q.filed j with
        | none => rfl
        | some g =>
          have hno : ¬ g.timer.Named id := fun hg' => hj (h.slot_unique hg hf hg' hnamed)
          simp [Option.filter, hno]
    have hclock := hem.clock
    have hle : (q.removeTimerSlot i).activeTimerCount ≤ q.activeTimerCount := by
      rw [hem.count]; exact Nat.sub_le _ _
    refine ⟨pull B i, ?_⟩
    dsimp only
    split
    · next hzero =>
      unfold disarmTimerFd
      split
      · exact ⟨hem.coherent.congr rfl rfl rfl rfl rfl rfl, fun _ => hzero,
          fun p => List.erase_sublist, hfiled, hle, hclock.wheelEpoch, hclock.currentTick,
          hclock.nextExternalTimerId, .inr ⟨rfl, rfl⟩⟩
      · exact ⟨hem.coherent, fun _ => hzero, fun p => List.erase_sublist, hfiled, hle,
          hclock.wheelEpoch, hclock.currentTick, hclock.nextExternalTimerId,
          .inl ⟨hclock.timerFd, hclock.timerFdArmed⟩⟩
    · next hpos =>
      refine ⟨hem.coherent, fun hdis => ?_, fun p => List.erase_sublist, hfiled, hle,
        hclock.wheelEpoch, hclock.currentTick, hclock.nextExternalTimerId,
        .inl ⟨hclock.timerFd, hclock.timerFdArmed⟩⟩
      rw [hclock.timerFdArmed] at hdis
      rw [hem.count, hidle hdis]

/-! ## Adding -/

/-- The tick at which `ScheduleTimerSlot` files a timer with the deadline tick `e`. -/
def expiryFor (c e : Nat) : Nat := if e ≤ c then c + 1 else e

/-- The bucket that `PlaceTimerSlot` chooses at the tick `c`. -/
def placeFor (c e : Nat) : Nat × Nat :=
  (wheelLevelFor (e - c), e / kWheelQuantumTicks (wheelLevelFor (e - c)) % kWheelSize)

theorem wheelLevelFor_lt (d : Nat) : wheelLevelFor d < 4 := by
  unfold wheelLevelFor
  split_ifs <;> decide

theorem wheelLevelFor_ne (d : Nat) : wheelLevelFor d ≠ kInvalidWheelLevel :=
  ((wheelLevelFor_lt d).trans (by decide)).ne

/-- An id that a caller may pass to `AddTimerInLoop`: none, or one of `MakeExternalTimerId` that is
not in use. -/
def FreshExternal (q : TimerQueue α) (x : Nat) : Prop :=
  x = 0 ∨ 2 ^ 63 ≤ x ∧ x < 2 ^ 64 ∧ q.externalTimerSlots x = none

/-- The queue once `AddTimerInLoop` has caught up with the clock. -/
def synced (q : TimerQueue α) (now : Int) : TimerQueue α :=
  if q.timerFdArmed then q else q.syncCurrentTick now

theorem synced_eq (q : TimerQueue α) (now : Int) :
    q.synced now = { q with currentTick := (q.synced now).currentTick } := by
  unfold synced syncCurrentTick
  dsimp only
  split_ifs <;> rfl

theorem currentTick_synced_ge (q : TimerQueue α) (now : Int) :
    q.currentTick ≤ (q.synced now).currentTick := by
  unfold synced syncCurrentTick
  dsimp only
  split_ifs
  · exact le_rfl
  · next h => exact le_of_lt h
  · exact le_rfl

/-- What a successful `AddTimerInLoop` did: the slot `i`, free before, holds the new timer. -/
structure Added (q : TimerQueue α) (B : Nat × Nat → List Nat) (deadline : Int) (a : α) (x : Nat)
    (env : AddEnv) (i : Nat) (f : Filed α) (id : TimerId) (q' : TimerQueue α) : Prop where
  coherent : Coherent q' (push B f.place i)
  vacant : q.filed i = none
  filed : ∀ j, q'.filed j = if j = i then some f else q.filed j
  deadline_eq : f.timer.deadline = deadline
  action_eq : f.timer.action = a
  externalId_eq : f.timer.externalId = x
  id_eq : f.timer.id = id
  wheelEpoch : q'.wheelEpoch = q.wheelEpoch
  currentTick : q'.currentTick = (q.synced env.syncNow).currentTick
  place_eq : f.place = placeFor q'.currentTick (expiryFor q'.currentTick (q.deadlineTick deadline))
  rounds_eq : f.rounds =
    wheelRoundsFor q'.currentTick (expiryFor q'.currentTick (q.deadlineTick deadline))
  count : q'.activeTimerCount = q.activeTimerCount + 1
  nextExternalTimerId : q'.nextExternalTimerId = q.nextExternalTimerId
  armed : q'.timerFdArmed = true
  timerFd : q'.timerFd = if q.timerFdArmed then q.timerFd
    else (({ q' with timerFdArmed := false } : TimerQueue α).armTimerFd env.armNow).timerFd

/-- What a throwing `AddTimerInLoop` did: nothing, up to catching up with the clock. -/
structure NotAdded (q : TimerQueue α) (B : Nat × Nat → List Nat) (env : AddEnv)
    (q' : TimerQueue α) : Prop where
  coherent : Coherent q' B
  filed : ∀ j, q'.filed j = q.filed j
  count : q'.activeTimerCount = q.activeTimerCount
  wheelEpoch : q'.wheelEpoch = q.wheelEpoch
  currentTick : q'.currentTick = (q.synced env.syncNow).currentTick
  nextExternalTimerId : q'.nextExternalTimerId = q.nextExternalTimerId
  armed : q'.timerFdArmed = q.timerFdArmed
  timerFd : q'.timerFd = q.timerFd

theorem Coherent.place_eq_none (h : Coherent q B) (hi : (q.slots i).active = false) :
    (q.slots i).place = none := by
  by_contra hne
  rw [(h.active_iff i).mpr hne] at hi
  cases hi

section Taken

variable {deadline : Int} {a : α} {x : Nat}

/-- The taken slot, entered under its external id and counted. -/
def entered (q : TimerQueue α) (x i : Nat) : TimerQueue α :=
  let q' := if x ≠ 0 then q.emplaceExternal x i else q
  { q' with activeTimerCount := q'.activeTimerCount + 1 }

theorem entered_eq (q : TimerQueue α) (x i : Nat) :
    q.entered x i = { q with
      activeTimerCount := q.activeTimerCount + 1
      externalTimerSlots := (q.entered x i).externalTimerSlots } := by
  unfold entered emplaceExternal
  dsimp only
  split_ifs
  · split <;> rfl
  · rfl

theorem Taken.loose (h : Coherent q B) (ht : Taken q (freshSlot deadline a x) i q')
    (hx : FreshExternal q x) : Loose (q'.entered x i) B i := by
  have hstored := ht.stored h.stored hx
  obtain ⟨g, hg0, hg, hslots⟩ := ht.filled
  have heq : q'.entered x i = { (if x ≠ 0 then q'.emplaceExternal x i else q') with
      activeTimerCount := q.activeTimerCount + 1 } := by
    have hcount : q'.activeTimerCount = q.activeTimerCount := by rw [ht.rest]
    unfold entered emplaceExternal
    rw [← hcount]
    dsimp only
    split_ifs
    · split <;> rfl
    · rfl
  have hslots' : (q'.entered x i).slots = Function.update q.slots i (freshSlot deadline a x g) := by
    rw [entered_eq]
    exact hslots
  have hother : ∀ j, j ≠ i → (q'.entered x i).slots j = q.slots j := by
    intro j hj
    rw [hslots', Function.update_of_ne hj]
  have hself : (q'.entered x i).slots i = freshSlot deadline a x g := by
    rw [hslots', Function.update_self]
  have hplace : ((q'.entered x i).slots i).place = none := by
    rw [hself]
    simp [freshSlot, TimerSlot.place]
  refine ⟨heq ▸ hstored, ?_, ?_, hplace, ?_⟩
  · refine h.linked.of_unlinked ?_ (h.place_eq_none ht.inactive) hplace hother
    rw [entered_eq, ht.rest]
  · rw [hself]; rfl
  · intro j hj
    rw [hother j hj]
    exact h.active_iff j

/-- The slot is given back when entering its external id throws. -/
theorem Taken.coherent_releaseSlot (h : Coherent q B)
    (ht : Taken q (freshSlot deadline a x) i q') :
    Coherent (q'.releaseSlot i) B ∧ ∀ j, (q'.releaseSlot i).filed j = q.filed j := by
  obtain ⟨g, -, -, hslots⟩ := ht.filled
  have hother : ∀ j, j ≠ i → (q'.releaseSlot i).slots j = q.slots j := by
    intro j hj
    simp [TimerQueue.releaseSlot, setSlot, hslots, hj]
  have hinactive : ((q'.releaseSlot i).slots i).active = false := by
    simp [TimerQueue.releaseSlot, setSlot]
  have hplace : ((q'.releaseSlot i).slots i).place = none := by
    simp [TimerQueue.releaseSlot, setSlot, TimerSlot.place]
  refine ⟨⟨ht.releaseSlot h.stored fun _ => rfl, ?_, ?_⟩, ?_⟩
  · refine h.linked.of_unlinked ?_ (h.place_eq_none ht.inactive) hplace hother
    rw [ht.rest]
    rfl
  · intro j
    by_cases hj : j = i
    · subst hj; simp [hinactive, hplace]
    · rw [hother j hj]; exact h.active_iff j
  · intro j
    by_cases hj : j = i
    · subst hj; rw [filed_eq_none hinactive, filed_eq_none ht.inactive]
    · rw [filed, hother j hj]; rfl

end Taken

theorem linkTimerSlot_count (q : TimerQueue α) (i level bucket n : Nat) :
    { q.linkTimerSlot i level bucket with activeTimerCount := n } =
      ({ q with activeTimerCount := n } : TimerQueue α).linkTimerSlot i level bucket := by
  simp only [linkTimerSlot]
  cases (q.wheel (level, bucket)).tail <;> rfl

theorem scheduleTimerSlot_count (q : TimerQueue α) (i n : Nat) :
    { q.scheduleTimerSlot i with activeTimerCount := n } =
      ({ q with activeTimerCount := n } : TimerQueue α).scheduleTimerSlot i :=
  linkTimerSlot_count _ i _ _ n

/-- `ScheduleTimerSlot` on a loose slot. -/
theorem Loose.schedule (h : Loose q B i) :
    let e := expiryFor q.currentTick (q.deadlineTick (q.slots i).deadline)
    let q' := q.scheduleTimerSlot i
    Coherent q' (push B (placeFor q.currentTick e) i) ∧ Relinked q q' ∧
      (∀ j, j ≠ i → q'.filed j = q.filed j) ∧
      ∃ f, q'.filed i = some f ∧ f.place = placeFor q.currentTick e ∧
        f.rounds = wheelRoundsFor q.currentTick e ∧
        (q.slots i).action = some f.timer.action ∧
        f.timer.slotId = makeSlotTimerId i (q.slots i).generation ∧
        f.timer.externalId = (q.slots i).externalTimerId ∧
        f.timer.deadline = (q.slots i).deadline :=
  h.link _ _ _ (wheelLevelFor_ne _)

theorem pull_push (hi : ∀ p, i ∉ B p) (p : Nat × Nat) : pull (push B p i) i = B := by
  funext p'
  unfold pull push
  by_cases hp : p' = p
  · subst hp
    rw [Function.update_self, List.erase_append_right _ (hi p'), List.erase_cons_head,
      List.append_nil]
  · rw [Function.update_of_ne hp, List.erase_of_not_mem (hi p')]

theorem scheduleTimerSlot_entered (q : TimerQueue α) (x i : Nat) :
    (q.entered x i).scheduleTimerSlot i =
      let q' := (if x ≠ 0 then q.emplaceExternal x i else q).scheduleTimerSlot i
      { q' with activeTimerCount := q'.activeTimerCount + 1 } := by
  have hcount : ∀ q : TimerQueue α,
      (q.scheduleTimerSlot i).activeTimerCount = q.activeTimerCount := by
    intro q
    have heq := congrArg TimerQueue.activeTimerCount
      (scheduleTimerSlot_count q i q.activeTimerCount)
    exact heq.symm
  dsimp only
  rw [hcount, scheduleTimerSlot_count]
  rfl

/-- `AddTimerInLoop` in terms of `synced` and `entered`. -/
theorem addTimerInLoop_eq (q : TimerQueue α) (deadline : Int) (a : α) (x : Nat) (env : AddEnv) :
    q.addTimerInLoop deadline a x env =
      match (q.synced env.syncNow).allocateSlot deadline a x with
      | none => (none, q.synced env.syncNow)
      | some (i, q₁) =>
        if x ≠ 0 ∧ env.emplaceThrows then (none, q₁.releaseSlot i)
        else
          let q := (q₁.entered x i).scheduleTimerSlot i
          if q.timerFdArmed = false ∧ env.settimeThrows then (none, q.removeTimerSlot i)
          else
            let q := if q.timerFdArmed then q else q.armTimerFd env.armNow
            if x ≠ 0 then (some (.ofNat x), q)
            else (some (makeSlotTimerId i (q.slots i).generation), q) := by
  simp only [scheduleTimerSlot_entered]
  rfl

theorem armTimerFd_eq (q : TimerQueue α) (now : Int) (h : q.timerFdArmed = false) :
    q.armTimerFd now =
      { q with timerFd := (q.armTimerFd now).timerFd, timerFdArmed := true } := by
  simp [armTimerFd, h]

/-- `AddTimerInLoop` files one new timer, or throws and leaves the timers as they were. -/
theorem Coherent.addTimerInLoop (h : Coherent q B) (deadline : Int) (a : α) {x : Nat}
    (hx : FreshExternal q x) (env : AddEnv) :
    match q.addTimerInLoop deadline a x env with
    | (none, q') => NotAdded q B env q'
    | (some id, q') => ∃ i f, Added q B deadline a x env i f id q' := by
  have hsync := synced_eq q env.syncNow
  rw [addTimerInLoop_eq]
  set q₀ := q.synced env.syncNow with hq₀
  have hco₀ : Coherent q₀ B := by rw [hsync]; exact h.congr rfl rfl rfl rfl rfl rfl
  have hfiled₀ : q₀.filed = q.filed := by rw [hsync]; rfl
  have hx₀ : FreshExternal q₀ x := by rw [hsync]; exact hx
  have hepoch₀ : q₀.wheelEpoch = q.wheelEpoch := by rw [hsync]
  have harmed₀ : q₀.timerFdArmed = q.timerFdArmed := by rw [hsync]
  have hfd₀ : q₀.timerFd = q.timerFd := by rw [hsync]
  have hcount₀ : q₀.activeTimerCount = q.activeTimerCount := by rw [hsync]
  have hnext₀ : q₀.nextExternalTimerId = q.nextExternalTimerId := by rw [hsync]
  have htick₀ : ∀ d, q₀.deadlineTick d = q.deadlineTick d := by
    intro d; simp only [TimerQueue.deadlineTick, hepoch₀]
  cases halloc : q₀.allocateSlot deadline a x with
  | none => exact ⟨hco₀, fun j => by rw [hfiled₀], hcount₀, hepoch₀, rfl, hnext₀, harmed₀, hfd₀⟩
  | some p =>
    obtain ⟨i, q₁⟩ := p
    have ht := hco₀.stored.allocateSlot halloc
    have hrest := ht.rest
    obtain ⟨g, -, -, hslots⟩ := ht.filled
    dsimp only
    by_cases hemplace : x ≠ 0 ∧ env.emplaceThrows
    · -- the map insertion throws
      rw [if_pos hemplace]
      obtain ⟨hco, hfiled⟩ := ht.coherent_releaseSlot hco₀
      refine ⟨hco, fun j => by rw [hfiled, hfiled₀], ?_, ?_, ?_, ?_, ?_, ?_⟩
      all_goals rw [hrest]
      · exact hcount₀
      · exact hepoch₀
      · rfl
      · exact hnext₀
      · exact harmed₀
      · exact hfd₀
    rw [if_neg hemplace]
    have hloose := ht.loose hco₀ hx₀
    obtain ⟨hco, hre, hsame, f, hf, hplace, hrounds, hact, hslot, hext, hdead⟩ := hloose.schedule
    have hin : (q₁.entered x i).slots i = freshSlot deadline a x g := by
      rw [entered_eq]
      show q₁.slots i = _
      rw [hslots, Function.update_self]
    have hclock : SameClock q₀ (q₁.entered x i) := by
      rw [entered_eq, hrest]
      exact ⟨rfl, rfl, rfl, rfl, rfl⟩
    have hclock' := hclock.trans hre.sameClock
    have hfiled : ∀ j, j ≠ i → ((q₁.entered x i).scheduleTimerSlot i).filed j = q.filed j := by
      intro j hj
      rw [hsame j hj, ← hfiled₀, filed, entered_eq]
      show (q₁.slots j).filed j = _
      rw [hslots, Function.update_of_ne hj]
      rfl
    have hvacant : q.filed i = none := by rw [← hfiled₀]; exact filed_eq_none ht.inactive
    have hcount : ((q₁.entered x i).scheduleTimerSlot i).activeTimerCount = q.activeTimerCount + 1 := by
      rw [hre.activeTimerCount, entered_eq, ← hcount₀, hrest]
    set q₂ := (q₁.entered x i).scheduleTimerSlot i with hq₂
    have harmed₂ : q₂.timerFdArmed = q.timerFdArmed := hclock'.timerFdArmed.trans harmed₀
    rw [hin] at hact hslot hext hdead
    have hplace' : f.place = placeFor q₂.currentTick
        (expiryFor q₂.currentTick (q.deadlineTick deadline)) := by
      rw [hplace, hin, hclock.deadlineTick, htick₀, hclock.currentTick, hclock'.currentTick]
      rfl
    have hrounds' : f.rounds = wheelRoundsFor q₂.currentTick
        (expiryFor q₂.currentTick (q.deadlineTick deadline)) := by
      rw [hrounds, hin, hclock.deadlineTick, htick₀, hclock.currentTick, hclock'.currentTick]
      rfl
    rw [← hplace] at hco
    by_cases hthrow : q₂.timerFdArmed = false ∧ env.settimeThrows
    · -- `timerfd_settime` throws
      rw [if_pos hthrow]
      have hactive : (q₂.slots i).active = true := by
        rw [hre.active]; exact hloose.active
      have hem := hco.removeTimerSlot hactive
      have hfresh : ∀ p, i ∉ B p := by
        intro p hp
        obtain ⟨f, hf, -⟩ := (h.mem_iff p).mp hp
        rw [hvacant] at hf
        cases hf
      have hback := hem.coherent
      rw [pull_push hfresh] at hback
      refine ⟨hback, fun j => ?_, ?_, ?_, ?_, ?_, ?_, ?_⟩
      · rw [hem.filed]
        split
        · next hj => rw [hj, hvacant]
        · next hj => exact hfiled j hj
      · rw [hem.count, hcount]; rfl
      · rw [hem.clock.wheelEpoch, hclock'.wheelEpoch, hepoch₀]
      · rw [hem.clock.currentTick, hclock'.currentTick]
      · rw [hem.clock.nextExternalTimerId, hclock'.nextExternalTimerId, hnext₀]
      · rw [hem.clock.timerFdArmed, harmed₂]
      · rw [hem.clock.timerFd, hclock'.timerFd, hfd₀]
    rw [if_neg hthrow]
    set q₃ := if q₂.timerFdArmed = true then q₂ else q₂.armTimerFd env.armNow with hq₃
    have hq₃eq : q₃ = { q₂ with timerFd := q₃.timerFd, timerFdArmed := true } := by
      rw [hq₃]
      split
      · next harmed => rw [← harmed]
      · next harmed => exact armTimerFd_eq _ _ (by simpa using harmed)
    have hco₃ : Coherent q₃ (push B f.place i) := by
      rw [hq₃eq]; exact hco.congr rfl rfl rfl rfl rfl rfl
    have hfiled₃ : ∀ j, q₃.filed j = if j = i then some f else q.filed j := by
      intro j
      rw [hq₃eq]
      split
      · next hj => rw [hj]; exact hf
      · next hj => exact hfiled j hj
    have htick₃ : q₃.currentTick = q₂.currentTick := by rw [hq₃eq]
    have hfd₃ : q₃.timerFd = if q.timerFdArmed then q.timerFd
        else (({ q₃ with timerFdArmed := false } : TimerQueue α).armTimerFd env.armNow).timerFd := by
      rw [hq₃, harmed₂]
      split
      · rw [hclock'.timerFd, hfd₀]
      · next harmed =>
        have hdis : q₂.timerFdArmed = false := by rw [harmed₂]; simpa using harmed
        simp [armTimerFd, hdis]
    have hadded : ∀ id, f.timer.id = id → Added q B deadline a x env i f id q₃ := by
      intro id hid
      refine ⟨hco₃, hvacant, hfiled₃, hdead, ?_, hext, hid, ?_, ?_, ?_, ?_, ?_, ?_, ?_, hfd₃⟩
      · simpa [freshSlot] using hact.symm
      · rw [hq₃eq]
        exact hclock'.wheelEpoch.trans hepoch₀
      · rw [htick₃, hclock'.currentTick]
      · rw [htick₃, hplace']
      · rw [htick₃, hrounds']
      · rw [hq₃eq]
        exact hcount
      · rw [hq₃eq]
        exact hclock'.nextExternalTimerId.trans hnext₀
      · rw [hq₃eq]
    have hext' : f.timer.externalId = x := hext
    by_cases h0 : x ≠ 0
    · rw [if_pos h0]
      refine ⟨i, f, hadded _ ?_⟩
      rw [Timer.id, hext', if_pos h0]
    · rw [if_neg h0]
      refine ⟨i, f, hadded _ ?_⟩
      have hgen : (q₃.slots i).generation = g := by
        rw [hq₃eq]
        show (q₂.slots i).generation = g
        rw [hre.generation, hin]
        rfl
      rw [Timer.id, hext', if_neg h0, hslot, hgen]
      rfl

end TimerQueue

end NebulaRpc.Net
