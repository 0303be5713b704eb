import NebulaRpc.Library.IntrusiveList
import NebulaRpc.Net.TimerQueue

/-!
# The buckets of the wheel as lists

`Linked q B` says that the linked lists of the wheel stand for the slot sequences `B`, and that a
slot stands in the bucket it names. Linking and unlinking are then appending to and erasing from
one of these sequences, and they change nothing but links (`Relinked`).
-/

namespace NebulaRpc.Net

variable {α : Type*}

/-- The bucket a slot names as its place in the wheel. -/
def TimerSlot.place (s : TimerSlot α) : Option (Nat × Nat) :=
  if s.wheelLevel = kInvalidWheelLevel then none else some (s.wheelLevel, s.bucketIndex)

/-- A slot without its links, its place and its rounds. -/
def TimerSlot.core (s : TimerSlot α) : TimerSlot α :=
  { s with wheelRounds := 0, wheelPrev := none, wheelNext := none,
           wheelLevel := kInvalidWheelLevel, bucketIndex := kInvalidBucket }

namespace TimerQueue

/-- `q'` is `q` with other links, places and rounds. -/
structure Relinked (q q' : TimerQueue α) : Prop where
  core : ∀ j, (q'.slots j).core = (q.slots j).core
  slotCount : q'.slotCount = q.slotCount
  freeSlotHead : q'.freeSlotHead = q.freeSlotHead
  activeTimerCount : q'.activeTimerCount = q.activeTimerCount
  wheelEpoch : q'.wheelEpoch = q.wheelEpoch
  currentTick : q'.currentTick = q.currentTick
  timerFdArmed : q'.timerFdArmed = q.timerFdArmed
  timerFd : q'.timerFd = q.timerFd
  nextExternalTimerId : q'.nextExternalTimerId = q.nextExternalTimerId
  externalTimerSlots : q'.externalTimerSlots = q.externalTimerSlots

namespace Relinked

variable {q q' q'' : TimerQueue α}

theorem trans (h : Relinked q q') (h' : Relinked q' q'') : Relinked q q'' where
  core j := (h'.core j).trans (h.core j)
  slotCount := h'.slotCount.trans h.slotCount
  freeSlotHead := h'.freeSlotHead.trans h.freeSlotHead
  activeTimerCount := h'.activeTimerCount.trans h.activeTimerCount
  wheelEpoch := h'.wheelEpoch.trans h.wheelEpoch
  currentTick := h'.currentTick.trans h.currentTick
  timerFdArmed := h'.timerFdArmed.trans h.timerFdArmed
  timerFd := h'.timerFd.trans h.timerFd
  nextExternalTimerId := h'.nextExternalTimerId.trans h.nextExternalTimerId
  externalTimerSlots := h'.externalTimerSlots.trans h.externalTimerSlots

variable (h : Relinked q q') (j : Nat)

include h

theorem deadline : (q'.slots j).deadline = (q.slots j).deadline :=
  show (q'.slots j).core.deadline = (q.slots j).core.deadline from congrArg _ (h.core j)

theorem action : (q'.slots j).action = (q.slots j).action :=
  show (q'.slots j).core.action = (q.slots j).core.action from congrArg _ (h.core j)

theorem externalTimerId : (q'.slots j).externalTimerId = (q.slots j).externalTimerId :=
  show (q'.slots j).core.externalTimerId = (q.slots j).core.externalTimerId from
    congrArg _ (h.core j)

theorem nextFree : (q'.slots j).nextFree = (q.slots j).nextFree :=
  show (q'.slots j).core.nextFree = (q.slots j).core.nextFree from congrArg _ (h.core j)

theorem generation : (q'.slots j).generation = (q.slots j).generation :=
  show (q'.slots j).core.generation = (q.slots j).core.generation from congrArg _ (h.core j)

theorem active : (q'.slots j).active = (q.slots j).active :=
  show (q'.slots j).core.active = (q.slots j).core.active from congrArg _ (h.core j)

omit j in
theorem deadlineTick (d : Int) : q'.deadlineTick d = q.deadlineTick d := by
  unfold TimerQueue.deadlineTick
  rw [h.wheelEpoch]

end Relinked

/-- The wheel stands for the slot sequences `B`. -/
structure Linked (q : TimerQueue α) (B : Nat × Nat → List Nat) : Prop where
  list : ∀ p, Intrusive.IsList (fun i => (q.slots i).wheelPrev) (fun i => (q.slots i).wheelNext)
    (q.wheel p).head (q.wheel p).tail (B p)
  mem_iff : ∀ p i, i ∈ B p ↔ (q.slots i).place = some p

/-- Append a slot to a bucket. -/
def push (B : Nat × Nat → List Nat) (p : Nat × Nat) (i : Nat) : Nat × Nat → List Nat :=
  Function.update B p (B p ++ [i])

/-- Take a slot out of all buckets. -/
def pull (B : Nat × Nat → List Nat) (i : Nat) : Nat × Nat → List Nat := fun p => (B p).erase i

section Link

variable {q : TimerQueue α} {B : Nat × Nat → List Nat} {i level bucket : Nat}

theorem Linked.tail_ne (h : Linked q B) (hi : (q.slots i).place = none) (p : Nat × Nat) :
    (q.wheel p).tail ≠ some i := by
  intro ht
  rw [(h.list p).tail_eq] at ht
  have hmem := (h.mem_iff p i).mp (List.mem_of_getLast? ht)
  rw [hi] at hmem
  cases hmem

theorem slots_linkTimerSlot (ht : (q.wheel (level, bucket)).tail ≠ some i) (j : Nat) :
    (q.linkTimerSlot i level bucket).slots j =
      if j = i then
        { q.slots i with wheelLevel := level, bucketIndex := bucket,
                         wheelPrev := (q.wheel (level, bucket)).tail, wheelNext := none }
      else if (q.wheel (level, bucket)).tail = some j then
        { q.slots j with wheelNext := some i }
      else q.slots j := by
  unfold linkTimerSlot
  cases h : (q.wheel (level, bucket)).tail with
  | none => by_cases hj : j = i <;> simp [setSlot, setBucket, hj]
  | some t =>
    have hti : t ≠ i := by rintro rfl; exact ht h
    by_cases hj : j = i
    · subst hj; simp [setSlot, setBucket, hti.symm]
    · by_cases htj : t = j
      · subst htj; simp [setSlot, setBucket, hti]
      · simp [setSlot, setBucket, hj, htj, Ne.symm htj]

theorem wheel_linkTimerSlot (p : Nat × Nat) :
    (q.linkTimerSlot i level bucket).wheel p =
      if p = (level, bucket) then
        ⟨if (q.wheel p).tail = none then some i else (q.wheel p).head, some i⟩
      else q.wheel p := by
  unfold linkTimerSlot
  cases h : (q.wheel (level, bucket)).tail with
  | none =>
    by_cases hp : p = (level, bucket)
    · subst hp; simp [setSlot, setBucket, h]
    · simp [setSlot, setBucket, hp]
  | some t =>
    by_cases hp : p = (level, bucket)
    · subst hp; simp [setSlot, setBucket, h]
    · simp [setSlot, setBucket, hp]

/-- Linking a slot that is in no bucket appends it to one. -/
theorem Linked.link (h : Linked q B) (hi : (q.slots i).place = none)
    (hlevel : level ≠ kInvalidWheelLevel) :
    Linked (q.linkTimerSlot i level bucket) (push B (level, bucket) i) := by
  have hslot := slots_linkTimerSlot (h.tail_ne hi (level, bucket))
  have hfresh : ∀ p, i ∉ B p := by
    intro p hp
    rw [h.mem_iff, hi] at hp
    cases hp
  have hplace : ∀ j, ((q.linkTimerSlot i level bucket).slots j).place =
      if j = i then some (level, bucket) else (q.slots j).place := by
    intro j
    rw [hslot]
    split
    · simp [TimerSlot.place, hlevel]
    · split <;> rfl
  refine ⟨?_, ?_⟩
  · intro p
    rw [wheel_linkTimerSlot]
    split
    · next hp =>
      subst hp
      rw [push, Function.update_self]
      refine (h.list (level, bucket)).concat (hfresh _) ?_ ?_ ?_ ?_ ?_ rfl
      · simp [hslot]
      · simp [hslot]
      · intro y hy
        have hyi : y ≠ i := fun e => hfresh _ (e ▸ hy)
        simp only [hslot, hyi, if_false]
        split <;> rfl
      · intro y hy hne
        have hyi : y ≠ i := fun e => hfresh _ (e ▸ hy)
        simp [hslot, hyi, hne]
      · intro y hy heq
        have hyi : y ≠ i := fun e => hfresh _ (e ▸ hy)
        simp [hslot, hyi, heq]
    · next hp =>
      rw [push, Function.update_of_ne hp]
      refine (h.list p).congr ?_ ?_
      all_goals
        intro y hy
        have hyi : y ≠ i := fun e => hfresh _ (e ▸ hy)
        have hne : (q.wheel (level, bucket)).tail ≠ some y := by
          intro ht
          rw [(h.list _).tail_eq] at ht
          have h₁ := (h.mem_iff _ y).mp (List.mem_of_getLast? ht)
          have h₂ := (h.mem_iff _ y).mp hy
          rw [h₁] at h₂
          exact hp (by simpa using h₂.symm)
        simp [hslot, hyi, hne]
  · intro p j
    rw [hplace]
    by_cases hp : p = (level, bucket)
    · subst hp
      rw [push, Function.update_self, List.mem_append, h.mem_iff]
      by_cases hj : j = i
      · simp [hj]
      · simp [hj]
    · rw [push, Function.update_of_ne hp, h.mem_iff]
      by_cases hj : j = i
      · subst hj; simp [hi, Ne.symm hp]
      · simp [hj]

theorem relinked_linkTimerSlot (ht : (q.wheel (level, bucket)).tail ≠ some i) :
    Relinked q (q.linkTimerSlot i level bucket) := by
  refine ⟨?_, ?_, ?_, ?_, ?_, ?_, ?_, ?_, ?_, ?_⟩
  · intro j
    rw [slots_linkTimerSlot ht]
    split
    · next hj => subst hj; rfl
    · split <;> rfl
  all_goals
    unfold linkTimerSlot
    cases (q.wheel (level, bucket)).tail <;> rfl

end Link

section Unlink

variable {q : TimerQueue α} {B : Nat × Nat → List Nat} {i : Nat} {p : Nat × Nat}

theorem slots_unlinkTimerSlot (hp : (q.slots i).wheelPrev ≠ some i)
    (hn : (q.slots i).wheelNext ≠ some i) (j : Nat) :
    (q.unlinkTimerSlot i).slots j =
      if j = i then
        { q.slots i with wheelPrev := none, wheelNext := none,
                         wheelLevel := kInvalidWheelLevel, bucketIndex := kInvalidBucket }
      else
        { q.slots j with
          wheelNext := if (q.slots i).wheelPrev = some j then (q.slots i).wheelNext
            else (q.slots j).wheelNext
          wheelPrev := if (q.slots i).wheelNext = some j then (q.slots i).wheelPrev
            else (q.slots j).wheelPrev } := by
  unfold unlinkTimerSlot
  cases h₁ : (q.slots i).wheelPrev with
  | none =>
    cases h₂ : (q.slots i).wheelNext with
    | none => by_cases hj : j = i <;> simp [setSlot, setBucket, h₁, h₂, hj]
    | some n =>
      have hni : n ≠ i := by rintro rfl; exact hn h₂
      by_cases hj : j = i
      · subst hj; simp [setSlot, setBucket, h₁, h₂, hni.symm]
      · by_cases hjn : n = j
        · subst hjn; simp [setSlot, setBucket, h₁, h₂, hj]
        · simp [setSlot, setBucket, h₁, h₂, hj, hjn, Ne.symm hjn]
  | some r =>
    have hri : r ≠ i := by rintro rfl; exact hp h₁
    cases h₂ : (q.slots i).wheelNext with
    | none =>
      by_cases hj : j = i
      · subst hj; simp [setSlot, setBucket, h₁, h₂, hri.symm]
      · by_cases hjr : r = j
        · subst hjr; simp [setSlot, setBucket, h₁, h₂, hj]
        · simp [setSlot, setBucket, h₁, h₂, hj, hjr, Ne.symm hjr]
    | some n =>
      have hni : n ≠ i := by rintro rfl; exact hn h₂
      by_cases hj : j = i
      · subst hj; simp [setSlot, h₁, h₂, hri.symm, hni.symm]
      · by_cases hjr : r = j <;> by_cases hjn : n = j
        · subst hjr; subst hjn; simp [setSlot, h₁, h₂, hj]
        · subst hjr; simp [setSlot, h₁, h₂, hj, hjn, Ne.symm hjn]
        · subst hjn; simp [setSlot, h₁, h₂, hj, hjr, Ne.symm hjr]
        · simp [setSlot, h₁, h₂, hj, hjr, hjn, Ne.symm hjr, Ne.symm hjn]

theorem wheel_unlinkTimerSlot (p : Nat × Nat) :
    (q.unlinkTimerSlot i).wheel p =
      if p = ((q.slots i).wheelLevel, (q.slots i).bucketIndex) then
        ⟨if (q.slots i).wheelPrev = none then (q.slots i).wheelNext else (q.wheel p).head,
          if (q.slots i).wheelNext = none then (q.slots i).wheelPrev else (q.wheel p).tail⟩
      else q.wheel p := by
  unfold unlinkTimerSlot
  by_cases hp : p = ((q.slots i).wheelLevel, (q.slots i).bucketIndex)
  · subst hp
    cases h₁ : (q.slots i).wheelPrev <;> cases h₂ : (q.slots i).wheelNext <;>
      simp [setSlot, setBucket, h₁, h₂]
  · cases h₁ : (q.slots i).wheelPrev <;> cases h₂ : (q.slots i).wheelNext <;>
      simp [setSlot, setBucket, h₁, h₂, hp]

/-- The neighbours of a linked slot are other slots of its bucket. -/
theorem Linked.neighbours (h : Linked q B) (hi : (q.slots i).place = some p) :
    ∃ l r, B p = l ++ i :: r ∧ (q.slots i).wheelPrev = l.getLast? ∧
      (q.slots i).wheelNext = r.head? ∧ i ∉ l ∧ i ∉ r := by
  have hmem := (h.mem_iff p i).mpr hi
  obtain ⟨l, r, hB⟩ := List.append_of_mem hmem
  obtain ⟨hprev, hnext⟩ := (h.list p).links l i r hB
  have hnd := (h.list p).nodup
  rw [hB] at hnd
  exact ⟨l, r, hB, hprev, hnext, by grind, by grind⟩

theorem Linked.prev_ne (h : Linked q B) (hi : (q.slots i).place = some p) :
    (q.slots i).wheelPrev ≠ some i := by
  obtain ⟨l, r, -, hprev, -, hl, -⟩ := h.neighbours hi
  rw [hprev]
  exact fun hlast => hl (List.mem_of_getLast? hlast)

theorem Linked.next_ne (h : Linked q B) (hi : (q.slots i).place = some p) :
    (q.slots i).wheelNext ≠ some i := by
  obtain ⟨l, r, -, -, hnext, -, hr⟩ := h.neighbours hi
  rw [hnext]
  exact fun hfirst => hr (List.mem_of_head? hfirst)

/-- Unlinking a slot erases it from its bucket. -/
theorem Linked.unlink (h : Linked q B) (hi : (q.slots i).place = some p) :
    Linked (q.unlinkTimerSlot i) (pull B i) := by
  have hslot := slots_unlinkTimerSlot (h.prev_ne hi) (h.next_ne hi)
  obtain ⟨l, r, hB, hprev, hnext, hl, hr⟩ := h.neighbours hi
  have hp : ((q.slots i).wheelLevel, (q.slots i).bucketIndex) = p := by
    unfold TimerSlot.place at hi
    split at hi
    · cases hi
    · simpa using hi
  have hother : ∀ p', p' ≠ p → ∀ y ∈ B p', y ≠ i ∧ (q.slots i).wheelPrev ≠ some y ∧
      (q.slots i).wheelNext ≠ some y := by
    intro p' hp' y hy
    have hy' : y ∉ B p := by
      intro hyp
      have h₁ := (h.mem_iff _ y).mp hy
      rw [(h.mem_iff _ y).mp hyp] at h₁
      exact hp' (by simpa using h₁.symm)
    rw [hB] at hy'
    refine ⟨by rintro rfl; simp at hy', ?_, ?_⟩
    · rw [hprev]
      intro hlast
      have := List.mem_of_getLast? hlast
      simp_all
    · rw [hnext]
      intro hfirst
      have := List.mem_of_head? hfirst
      simp_all
  have herase : (B p).erase i = l ++ r := by
    rw [hB, List.erase_append_right _ hl, List.erase_cons_head]
  refine ⟨?_, ?_⟩
  · intro p'
    rw [wheel_unlinkTimerSlot, hp]
    split
    · next heq =>
      subst heq
      have hlist := h.list p'
      rw [hB] at hlist
      rw [pull, herase]
      refine hlist.unlink ?_ ?_ rfl rfl
      all_goals
        intro y hy
        have hyi : y ≠ i := by grind
        simp [hslot, hyi]
    · next hne =>
      have herase' : (B p').erase i = B p' := List.erase_of_not_mem (by
        intro hmem
        exact (hother p' hne i hmem).1 rfl)
      rw [pull, herase']
      refine (h.list p').congr ?_ ?_
      all_goals
        intro y hy
        obtain ⟨hyi, hyp, hyn⟩ := hother p' hne y hy
        simp [hslot, hyi, hyp, hyn]
  · intro p' j
    have hplace : ((q.unlinkTimerSlot i).slots j).place =
        if j = i then none else (q.slots j).place := by
      rw [hslot]
      split
      · simp [TimerSlot.place]
      · rfl
    rw [pull, (h.list p').nodup.mem_erase_iff, h.mem_iff, hplace]
    by_cases hj : j = i
    · simp [hj]
    · simp [hj]

theorem relinked_unlinkTimerSlot (hp : (q.slots i).wheelPrev ≠ some i)
    (hn : (q.slots i).wheelNext ≠ some i) : Relinked q (q.unlinkTimerSlot i) := by
  refine ⟨?_, ?_, ?_, ?_, ?_, ?_, ?_, ?_, ?_, ?_⟩
  · intro j
    rw [slots_unlinkTimerSlot hp hn]
    split
    · next hj => subst hj; rfl
    · rfl
  all_goals
    simp only [unlinkTimerSlot]
    cases (q.slots i).wheelPrev <;> cases (q.slots i).wheelNext <;> rfl

end Unlink

end TimerQueue

end NebulaRpc.Net
