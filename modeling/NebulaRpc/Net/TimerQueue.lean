import Mathlib.Tactic

/-!
# The timer queue

`nebula/net/timer_queue.cpp`: a four-level timing wheel whose buckets are doubly linked lists
threaded through a vector of reusable slots, with a one-millisecond timerfd as its clock.

Every function below has the name of the member function it embeds and changes the same fields in
the same order. Slot indices are naturals and `kInvalidSlot` is `none`; ticks are naturals, since a
64-bit count of milliseconds does not run out; time points are nanoseconds. Only `AddTimerInLoop`
can throw, so it returns an optional id next to the new state. The loops of `AdvanceWheel` and
`ExpireCurrentBucket` run user code and are put together in the modules that say what that code
may do; here are their bodies, `advanceTick` and `expireStep`.
-/

namespace NebulaRpc.Net

/-- `net::TimerId`, an unsigned 64-bit number; zero is the invalid id. -/
structure TimerId where
  value : Nat := 0
  value_lt : value < 2 ^ 64 := by decide
  deriving DecidableEq

namespace TimerId

def valid (id : TimerId) : Bool := id.value ≠ 0

def ofNat (value : Nat) : TimerId := ⟨value % 2 ^ 64, Nat.mod_lt _ (by decide)⟩

@[ext]
theorem ext {a b : TimerId} (h : a.value = b.value) : a = b := by
  cases a; cases b; cases h; rfl

end TimerId

def kExternalTimerMask : Nat := 1 <<< 63
def kSlotIndexMask : Nat := (1 <<< 31) - 1
def kGenerationMask : Nat := 0xffffffff
def kWheelSize : Nat := 10
def kInvalidWheelLevel : Nat := 255
def kInvalidBucket : Nat := 255

/-- Ticks that one bucket of a level stands for. -/
def kWheelQuantumTicks : Nat → Nat
  | 0 => 1
  | 1 => 10
  | 2 => 100
  | _ => 1000

/-- Nanoseconds of a tick. -/
def kTickNanoseconds : Int := 1000000

structure TimerBucket where
  head : Option Nat := none
  tail : Option Nat := none
  deriving DecidableEq

structure TimerSlot (α : Type*) where
  deadline : Int := 0
  action : Option α := none
  externalTimerId : Nat := 0
  wheelRounds : Nat := 0
  wheelPrev : Option Nat := none
  wheelNext : Option Nat := none
  nextFree : Option Nat := none
  generation : Nat := 0
  wheelLevel : Nat := kInvalidWheelLevel
  bucketIndex : Nat := kInvalidBucket
  active : Bool := false

/-- What the kernel knows of an armed timerfd: when and with which first delay it was set, and how
many expirations have been read since. -/
structure TimerFd where
  armedAt : Int
  firstDelay : Int
  taken : Nat
  deriving DecidableEq

/-- `net::TimerQueue`. The vector `slots_` is a function with a size; the map
`external_timer_slots_` is a partial function. -/
structure TimerQueue (α : Type*) where
  slots : Nat → TimerSlot α := fun _ => {}
  slotCount : Nat := 0
  wheel : Nat × Nat → TimerBucket := fun _ => {}
  freeSlotHead : Option Nat := none
  activeTimerCount : Nat := 0
  wheelEpoch : Int := 0
  currentTick : Nat := 0
  timerFdArmed : Bool := false
  timerFd : Option TimerFd := none
  nextExternalTimerId : Nat := 1
  externalTimerSlots : Nat → Option Nat := fun _ => none

namespace TimerQueue

variable {α : Type*}

def setSlot (q : TimerQueue α) (i : Nat) (slot : TimerSlot α) : TimerQueue α :=
  { q with slots := Function.update q.slots i slot }

def setBucket (q : TimerQueue α) (level bucket : Nat) (b : TimerBucket) : TimerQueue α :=
  { q with wheel := Function.update q.wheel (level, bucket) b }

/-! ## Timer ids -/

def isExternalTimerId (id : TimerId) : Bool := id.value &&& kExternalTimerMask ≠ 0

def makeSlotTimerId (slotIndex generation : Nat) : TimerId :=
  .ofNat (generation <<< 31 ||| (slotIndex + 1))

/-- The id for an `AddTimer` of another thread, with the sequence number drawn for it. -/
def makeExternalTimerId (q : TimerQueue α) : TimerId × TimerQueue α :=
  let sequence := q.nextExternalTimerId
  (.ofNat (kExternalTimerMask ||| sequence % 2 ^ 63), { q with nextExternalTimerId := sequence + 1 })

/-- Slot index and generation of an id that this thread handed out. -/
def decodeSlotTimerId (id : TimerId) : Option (Nat × Nat) :=
  if !id.valid || isExternalTimerId id then none
  else
    let slotToken := id.value &&& kSlotIndexMask
    if slotToken = 0 then none
    else
      let slotIndex := slotToken - 1
      let generation := (id.value >>> 31) &&& kGenerationMask
      if generation ≠ 0 then some (slotIndex, generation) else none

/-! ## The clock -/

/-- The tick, counted from the epoch and rounded up, at which a deadline has passed. -/
def deadlineTick (q : TimerQueue α) (deadline : Int) : Nat :=
  if deadline ≤ q.wheelEpoch then 0
  else ((deadline - q.wheelEpoch + (kTickNanoseconds - 1)) / kTickNanoseconds).toNat

/-- Whole milliseconds from the epoch to `now`. -/
def elapsedTicks (q : TimerQueue α) (now : Int) : Nat :=
  ((now - q.wheelEpoch) / kTickNanoseconds).toNat

def syncCurrentTick (q : TimerQueue α) (now : Int) : TimerQueue α :=
  let nowTick := q.elapsedTicks now
  if nowTick > q.currentTick then { q with currentTick := nowTick } else q

def armTimerFd (q : TimerQueue α) (now : Int) : TimerQueue α :=
  if q.timerFdArmed then q
  else
    let nextTick := q.wheelEpoch + (q.currentTick + 1) * kTickNanoseconds
    let delay := nextTick - now
    let delay := if delay ≤ 0 then 1 else delay
    { q with timerFd := some ⟨now, delay, 0⟩, timerFdArmed := true }

def disarmTimerFd (q : TimerQueue α) : TimerQueue α :=
  if q.timerFdArmed then { q with timerFd := none, timerFdArmed := false } else q

/-! ## Slots -/

/-- `AllocateSlot`: the head of the free list, else a new slot at the end of the vector; `none`
when the slot indices are exhausted. -/
def allocateSlot (q : TimerQueue α) (deadline : Int) (action : α) (externalTimerId : Nat) :
    Option (Nat × TimerQueue α) :=
  let fill (i : Nat) (q : TimerQueue α) : TimerQueue α :=
    let slot := q.slots i
    q.setSlot i
      { deadline := deadline
        action := some action
        externalTimerId := externalTimerId
        wheelRounds := 0
        wheelPrev := none
        wheelNext := none
        nextFree := none
        generation := if slot.generation = 2 ^ 32 - 1 then 1 else slot.generation + 1
        wheelLevel := kInvalidWheelLevel
        bucketIndex := kInvalidBucket
        active := true }
  match q.freeSlotHead with
  | some i => some (i, fill i { q with freeSlotHead := (q.slots i).nextFree })
  | none =>
    if q.slotCount ≥ kSlotIndexMask then none
    else
      let i := q.slotCount
      some (i, fill i ({ q with slotCount := i + 1 }.setSlot i {}))

def releaseSlot (q : TimerQueue α) (i : Nat) : TimerQueue α :=
  let q := q.setSlot i { q.slots i with
    action := none
    externalTimerId := 0
    wheelRounds := 0
    wheelPrev := none
    wheelNext := none
    wheelLevel := kInvalidWheelLevel
    bucketIndex := kInvalidBucket
    active := false
    nextFree := q.freeSlotHead }
  { q with freeSlotHead := some i }

/-! ## Buckets -/

def linkTimerSlot (q : TimerQueue α) (i level bucket : Nat) : TimerQueue α :=
  let tail := (q.wheel (level, bucket)).tail
  let q := q.setSlot i { q.slots i with
    wheelLevel := level
    bucketIndex := bucket
    wheelPrev := tail
    wheelNext := none }
  let q := match tail with
    | some t => q.setSlot t { q.slots t with wheelNext := some i }
    | none => q.setBucket level bucket { q.wheel (level, bucket) with head := some i }
  q.setBucket level bucket { q.wheel (level, bucket) with tail := some i }

def unlinkTimerSlot (q : TimerQueue α) (i : Nat) : TimerQueue α :=
  let slot := q.slots i
  let level := slot.wheelLevel
  let bucket := slot.bucketIndex
  let q := match slot.wheelPrev with
    | some p => q.setSlot p { q.slots p with wheelNext := slot.wheelNext }
    | none => q.setBucket level bucket { q.wheel (level, bucket) with head := slot.wheelNext }
  let q := match slot.wheelNext with
    | some n => q.setSlot n { q.slots n with wheelPrev := slot.wheelPrev }
    | none => q.setBucket level bucket { q.wheel (level, bucket) with tail := slot.wheelPrev }
  q.setSlot i { q.slots i with
    wheelPrev := none
    wheelNext := none
    wheelLevel := kInvalidWheelLevel
    bucketIndex := kInvalidBucket }

/-- The level for a timer that is `deltaTicks` away. -/
def wheelLevelFor (deltaTicks : Nat) : Nat :=
  if deltaTicks < 10 then 0 else if deltaTicks < 100 then 1 else if deltaTicks < 1000 then 2 else 3

/-- How often the current pass of the coarsest level has to skip a timer. -/
def wheelRoundsFor (currentTick expiryTick : Nat) : Nat :=
  if wheelLevelFor (expiryTick - currentTick) = 3 then
    (expiryTick / kWheelQuantumTicks 3 - currentTick / kWheelQuantumTicks 3 - 1) / kWheelSize
  else 0

def placeTimerSlot (q : TimerQueue α) (i expiryTick : Nat) : TimerQueue α :=
  let level := wheelLevelFor (expiryTick - q.currentTick)
  let bucket := expiryTick / kWheelQuantumTicks level % kWheelSize
  let q := q.setSlot i { q.slots i with wheelRounds := wheelRoundsFor q.currentTick expiryTick }
  q.linkTimerSlot i level bucket

def scheduleTimerSlot (q : TimerQueue α) (i : Nat) : TimerQueue α :=
  let expiryTick := q.deadlineTick (q.slots i).deadline
  let expiryTick := if expiryTick ≤ q.currentTick then q.currentTick + 1 else expiryTick
  q.placeTimerSlot i expiryTick

/-- `RemoveTimerSlot`: forget the external id, leave the bucket, free the slot. -/
def removeTimerSlot (q : TimerQueue α) (i : Nat) : TimerQueue α :=
  let slot := q.slots i
  if !slot.active then q
  else
    let q := if slot.externalTimerId ≠ 0 then
        { q with externalTimerSlots := Function.update q.externalTimerSlots slot.externalTimerId none }
      else q
    let q := if slot.wheelLevel ≠ kInvalidWheelLevel then q.unlinkTimerSlot i else q
    { q with activeTimerCount := q.activeTimerCount - 1 }.releaseSlot i

/-! ## Adding and cancelling -/

/-- What `AddTimerInLoop` gets from outside: the two readings of the clock and whether the map
insertion or `timerfd_settime` throws. -/
structure AddEnv where
  syncNow : Int
  armNow : Int
  emplaceThrows : Bool := false
  settimeThrows : Bool := false

/-- `unordered_map::emplace`: an existing entry stays. -/
def emplaceExternal (q : TimerQueue α) (externalTimerId i : Nat) : TimerQueue α :=
  match q.externalTimerSlots externalTimerId with
  | some _ => q
  | none =>
    { q with externalTimerSlots := Function.update q.externalTimerSlots externalTimerId (some i) }

/-- `AddTimerInLoop`; no id is returned when it throws. -/
def addTimerInLoop (q : TimerQueue α) (deadline : Int) (action : α) (externalTimerId : Nat)
    (env : AddEnv) : Option TimerId × TimerQueue α :=
  let q := if q.timerFdArmed then q else q.syncCurrentTick env.syncNow
  match q.allocateSlot deadline action externalTimerId with
  | none => (none, q)
  | some (i, q) =>
    if externalTimerId ≠ 0 ∧ env.emplaceThrows then (none, q.releaseSlot i)
    else
      let q := if externalTimerId ≠ 0 then q.emplaceExternal externalTimerId i else q
      let q := q.scheduleTimerSlot i
      let q := { q with activeTimerCount := q.activeTimerCount + 1 }
      if q.timerFdArmed = false ∧ env.settimeThrows then (none, q.removeTimerSlot i)
      else
        let q := if q.timerFdArmed then q else q.armTimerFd env.armNow
        if externalTimerId ≠ 0 then (some (.ofNat externalTimerId), q)
        else (some (makeSlotTimerId i (q.slots i).generation), q)

/-- The slot that an id refers to, as `CancelInLoop` looks it up. -/
def findTimerSlot (q : TimerQueue α) (id : TimerId) : Option Nat :=
  if isExternalTimerId id then q.externalTimerSlots id.value
  else
    match decodeSlotTimerId id with
    | none => none
    | some (i, generation) =>
      if i ≥ q.slotCount then none
      else if !(q.slots i).active || (q.slots i).generation ≠ generation then none
      else some i

def cancelInLoop (q : TimerQueue α) (id : TimerId) : TimerQueue α :=
  match q.findTimerSlot id with
  | none => q
  | some i =>
    let q := q.removeTimerSlot i
    if q.activeTimerCount = 0 then q.disarmTimerFd else q

/-! ## Turning the wheel -/

/-- The loop of `CascadeLevel` from the slot `next` on. -/
def cascadeLoop (level : Nat) : Nat → Option Nat → TimerQueue α → TimerQueue α
  | _, none, q => q
  | 0, some _, q => q
  | fuel + 1, some i, q =>
    let slot := q.slots i
    let next := slot.wheelNext
    if level = 3 ∧ slot.wheelRounds > 0 then
      cascadeLoop level fuel next (q.setSlot i { slot with wheelRounds := slot.wheelRounds - 1 })
    else
      let q := q.unlinkTimerSlot i
      let expiryTick := q.deadlineTick slot.deadline
      if expiryTick ≤ q.currentTick then
        cascadeLoop level fuel next (q.linkTimerSlot i 0 (q.currentTick % kWheelSize))
      else cascadeLoop level fuel next (q.placeTimerSlot i expiryTick)

/-- A bucket holds distinct slots, so the loop takes at most `slotCount` iterations. -/
def cascadeLevel (q : TimerQueue α) (level : Nat) : TimerQueue α :=
  let bucket := q.currentTick / kWheelQuantumTicks level % kWheelSize
  cascadeLoop level q.slotCount (q.wheel (level, bucket)).head q

/-- One iteration of `AdvanceWheel` up to its call of `ExpireCurrentBucket`. -/
def advanceTick (q : TimerQueue α) : TimerQueue α :=
  let q := { q with currentTick := q.currentTick + 1 }
  let q := if q.currentTick % kWheelQuantumTicks 3 = 0 then q.cascadeLevel 3 else q
  let q := if q.currentTick % kWheelQuantumTicks 2 = 0 then q.cascadeLevel 2 else q
  if q.currentTick % kWheelQuantumTicks 1 = 0 then q.cascadeLevel 1 else q

/-- What one iteration of the loop of `ExpireCurrentBucket` does. -/
inductive Expired (α : Type*) where
  | done
  | replaced (q : TimerQueue α)
  | due (deadline : Int) (action : Option α) (q : TimerQueue α)

/-- One iteration of `ExpireCurrentBucket` on the bucket chosen when it was entered: leave the
loop when the bucket is empty, move a timer that is not due, or remove one and hand over its
action. -/
def expireStep (q : TimerQueue α) (bucket : Nat) : Expired α :=
  match (q.wheel (0, bucket)).head with
  | none => .done
  | some i =>
    let slot := q.slots i
    let expiryTick := q.deadlineTick slot.deadline
    if expiryTick > q.currentTick then
      .replaced ((q.unlinkTimerSlot i).placeTimerSlot i expiryTick)
    else
      .due slot.deadline slot.action ((q.setSlot i { slot with action := none }).removeTimerSlot i)

/-- What `HandleRead` does behind `AdvanceWheel`. -/
def finishRead (q : TimerQueue α) : TimerQueue α :=
  if q.activeTimerCount = 0 then q.disarmTimerFd else q

end TimerQueue

end NebulaRpc.Net
