import NebulaRpc.Net.TimerQueue
import NebulaRpc.Rpc.Completion

/-!
# Deadlines

Where a timeout becomes a deadline. Both `ResolveDeadline` and `RunAfter` add milliseconds to a clock
reading in nanoseconds, and the conversion and the sum wrap around at 64 bits. The deadline is behind
the clock reading exactly if it does not fit.
-/

namespace NebulaRpc.Rpc

open NebulaRpc.Net

/-- `Clock::now() + delay`, the deadline that `EventLoop::RunAfter` hands to `RunAt`. -/
def runAfter (now delay : Int) : Int := wrap64 (now + wrap64 (delay * 1000000))

/-- The test of `RejectIfExpired`. -/
def PendingCall.expired (call : PendingCall) (now : Int) : Bool := call.deadline.any (· ≤ now)

/-- The deadline behind `t` milliseconds, counted from the clock reading `now`, is nowhere treated as
past. -/
structure NotInPast {α : Type} (q : TimerQueue α) (now t : Int) : Prop where
  resolved : ∀ (c : RpcController), ∀ deadline ∈ (c.setTimeout t).resolveDeadline now, now ≤ deadline
  runAfter : now ≤ runAfter now t
  unexpired : 0 < t → ∀ (F : MetaFormat) (s : RpcChannel) (x : CallArguments) (m : Nat)
    (c : RpcController) (id : UInt64) (bytes : List UInt8) (call : PendingCall),
    s.env.clock = now → x.controller = some m → s.env.controllers m = c.setTimeout t →
    (s.prepareCall F x).1 = .registerAndSend id bytes call → call.expired now = false
  tick : q.elapsedTicks now ≤ q.deadlineTick (Rpc.runAfter now t)

/-- The deadline fits into 64 bits, and a timeout that is not zero is not converted to zero. -/
def Fits (now t : Int) : Prop :=
  now + t * 1000000 % 2 ^ 64 < 2 ^ 63 ∧ (0 < t → 0 < t * 1000000 % 2 ^ 64)

instance (now t : Int) : Decidable (Fits now t) := inferInstanceAs (Decidable (_ ∧ _))

/-! ## Sums that wrap around -/

variable {now t x : Int}

theorem wrap64_add_wrap64 (now x : Int) : wrap64 (now + wrap64 x) = wrap64 (now + x) :=
  Int.add_bmod_bmod

/-- The sum as a clock reading that is not negative sees it. -/
theorem wrap64_add (hnow : 0 ≤ now) (hmax : now < 2 ^ 63) (x : Int) :
    wrap64 (now + x) = if now + x % 2 ^ 64 < 2 ^ 63 then now + x % 2 ^ 64
      else now + x % 2 ^ 64 - 2 ^ 64 := by
  unfold wrap64 Int.bmod
  push_cast
  split <;> split <;> omega

theorem le_wrap64_iff (hnow : 0 ≤ now) (hmax : now < 2 ^ 63) (x : Int) :
    now ≤ wrap64 (now + x) ↔ now + x % 2 ^ 64 < 2 ^ 63 := by
  rw [wrap64_add hnow hmax]
  split <;> omega

theorem lt_wrap64_iff (hnow : 0 ≤ now) (hmax : now < 2 ^ 63) (x : Int) :
    now < wrap64 (now + x) ↔ now + x % 2 ^ 64 < 2 ^ 63 ∧ 0 < x % 2 ^ 64 := by
  rw [wrap64_add hnow hmax]
  split <;> omega

/-! ## Deadlines -/

theorem resolveDeadline_setTimeout (c : RpcController) (ht : 0 ≤ t) (now : Int) :
    (c.setTimeout t).resolveDeadline now = some (wrap64 (now + t * 1000000)) := by
  simp [RpcController.setTimeout, RpcController.resolveDeadline, max_eq_left ht, wrap64_add_wrap64]

theorem runAfter_eq (now t : Int) : runAfter now t = wrap64 (now + t * 1000000) :=
  wrap64_add_wrap64 now _

/-- A deadline that is not past has a tick that is not past. -/
theorem elapsedTicks_le_deadlineTick {α : Type} {q : TimerQueue α} {deadline : Int}
    (hle : now ≤ deadline) : q.elapsedTicks now ≤ q.deadlineTick deadline := by
  unfold TimerQueue.elapsedTicks TimerQueue.deadlineTick kTickNanoseconds
  split <;> omega

/-- The call that `BeginCall` registers has the deadline of its controller. -/
theorem deadline_prepareCall {F : MetaFormat} {s : RpcChannel} {x : CallArguments} {m : Nat}
    {id : UInt64} {bytes : List UInt8} {call : PendingCall} (hm : x.controller = some m)
    (h : (s.prepareCall F x).1 = .registerAndSend id bytes call) :
    call.deadline = (s.env.controllers m).resolveDeadline s.env.clock := by
  unfold RpcChannel.prepareCall at h
  split at h
  · dsimp only at h
    split at h
    · cases h
    · cases h
      simp [hm]
  · cases h

/-- A call whose only argument that matters is its controller. -/
def controlledCall : CallArguments := { RpcChannel.emptyCall with controller := some 0 }

/-- A channel with this clock reading, and with the controller `c`. -/
def controlledChannel (now : Int) (c : RpcController) : RpcChannel :=
  RpcChannel.start 1 { clock := now, controllers := fun _ => c }

theorem prepareCall_controlledCall (now : Int) (c : RpcController) :
    ∃ id bytes call, ((controlledChannel now c).prepareCall wireFormat controlledCall).1 =
      .registerAndSend id bytes call :=
  ⟨_, _, _, rfl⟩

/-- A timeout that is not negative is nowhere treated as past exactly if its deadline fits. -/
theorem not_in_past_iff {α : Type} (q : TimerQueue α) (now t : Int) (hnow : 0 ≤ now)
    (hmax : now < 2 ^ 63) (ht : 0 ≤ t) : NotInPast q now t ↔ Fits now t := by
  have hle := le_wrap64_iff hnow hmax (t * 1000000)
  have hlt := lt_wrap64_iff hnow hmax (t * 1000000)
  have hexpired : ∀ {F : MetaFormat} {s : RpcChannel} {x : CallArguments} {m : Nat}
      {c : RpcController} {id : UInt64} {bytes : List UInt8} {call : PendingCall},
      s.env.clock = now → x.controller = some m → s.env.controllers m = c.setTimeout t →
      (s.prepareCall F x).1 = .registerAndSend id bytes call →
      (call.expired now = false ↔ now < wrap64 (now + t * 1000000)) := by
    intro F s x m c id bytes call hclock hm hc hprepare
    rw [PendingCall.expired, deadline_prepareCall hm hprepare, hc, hclock,
      resolveDeadline_setTimeout c ht]
    simp
  refine ⟨fun h => ⟨?_, fun hpos => ?_⟩, fun h => ⟨?_, ?_, ?_, ?_⟩⟩
  · exact hle.mp (runAfter_eq now t ▸ h.runAfter)
  · obtain ⟨id, bytes, call, hprepare⟩ :=
      prepareCall_controlledCall now (RpcController.setTimeout {} t)
    have hfalse := h.unexpired hpos wireFormat _ controlledCall 0 {} id bytes call rfl rfl rfl hprepare
    exact (hlt.mp ((hexpired rfl rfl rfl hprepare).mp hfalse)).2
  · intro c deadline hdeadline
    rw [resolveDeadline_setTimeout c ht] at hdeadline
    obtain rfl := Option.some.inj hdeadline
    exact hle.mpr h.1
  · rw [runAfter_eq]
    exact hle.mpr h.1
  · intro hpos F s x m c id bytes call hclock hm hc hprepare
    exact (hexpired hclock hm hc hprepare).mpr (hlt.mpr ⟨h.1, h.2 hpos⟩)
  · rw [runAfter_eq]
    exact elapsedTicks_le_deadlineTick (hle.mpr h.1)

/-- One second at the clock reading of five seconds. -/
theorem not_in_past_iff_second :
    NotInPast ({} : TimerQueue Unit) 5000000000 1000 ↔ Fits 5000000000 1000 :=
  not_in_past_iff {} 5000000000 1000 (by decide) (by decide) (by decide)

/-- The largest timeout ends a millisecond before it begins. -/
theorem longest_timeout_in_past :
    (RpcController.setTimeout {} (2 ^ 63 - 1)).resolveDeadline 5000000000 = some 4999000000 ∧
      runAfter 5000000000 (2 ^ 63 - 1) = 4999000000 ∧
      ¬NotInPast ({} : TimerQueue Unit) 5000000000 (2 ^ 63 - 1) := by
  refine ⟨by decide, by decide, fun h => ?_⟩
  have hle := h.runAfter
  revert hle
  decide

end NebulaRpc.Rpc
