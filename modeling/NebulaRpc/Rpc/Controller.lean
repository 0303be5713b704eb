import Mathlib.Tactic

/-!
# Controllers

`RpcController` and the arbiter `RpcCall`. The mutex makes every method atomic. Of the closures that
a controller can hold only those of a channel are kept, by the request id they are for; to run one
is the business of the channel. Times are nanoseconds of the steady clock and wrap around at 64 bits.
-/

namespace NebulaRpc.Rpc

/-- The octets of a string literal. -/
def octets (s : String) : List UInt8 := s.toUTF8.data.toList

theorem octets_append (s s' : String) : octets (s ++ s') = octets s ++ octets s' := by
  simp [octets, String.toUTF8]

/-- `RpcCallState`. -/
inductive RpcCallState where
  | pending
  | completed
  | cancelled
  | timeout
  | failed
  | invalid
  deriving DecidableEq

/-- A signed 64-bit result. -/
def wrap64 (x : Int) : Int := Int.bmod x (2 ^ 64)

/-- A signed 32-bit result. -/
def wrap32 (x : Int) : Int := Int.bmod x (2 ^ 32)

theorem wrap32_of_lt {x : Int} (hnonneg : 0 ≤ x) (hlt : x < 2 ^ 31) : wrap32 x = x := by
  unfold wrap32
  rw [Int.bmod_eq_of_le] <;> omega

structure RpcController where
  failed : Bool := false
  cancelRequested : Bool := false
  canceled : Bool := false
  errorText : List UInt8 := []
  cancelCallbacks : List (Int × UInt64) := []
  /-- how many tokens there have been; the counter of the code is this number as an `int` -/
  nextCancelToken : Int := 0
  timeout : Option Int := none
  deadline : Option Int := none
  callState : RpcCallState := .pending

namespace RpcController

def reset (c : RpcController) : RpcController := { nextCancelToken := c.nextCancelToken }

def setFailed (c : RpcController) (reason : List UInt8) : RpcController :=
  { c with failed := true, errorText := reason }

def markCanceled (c : RpcController) : RpcController :=
  { c with canceled := true, callState := .cancelled }

def markCallState (c : RpcController) (state : RpcCallState) : RpcController :=
  { c with callState := state }

/-- `RegisterOnCancel`, when the cancellation has not been accepted yet: the token of the
closure. -/
def registerOnCancel (c : RpcController) (requestId : UInt64) : Int × RpcController :=
  let token := wrap32 c.nextCancelToken
  (token, { c with
    nextCancelToken := c.nextCancelToken + 1
    cancelCallbacks := c.cancelCallbacks ++ [(token, requestId)] })

def removeOnCancel (c : RpcController) (token : Int) : RpcController :=
  { c with cancelCallbacks := c.cancelCallbacks.eraseP (·.1 = token) }

/-- `StartCancel`: the closures to run, on the first call. -/
def startCancel (c : RpcController) : List UInt64 × RpcController :=
  if c.cancelRequested then ([], c)
  else (c.cancelCallbacks.map (·.2), { c with cancelRequested := true, cancelCallbacks := [] })

/-- `SetTimeout`, in milliseconds. -/
def setTimeout (c : RpcController) (timeout : Int) : RpcController :=
  { c with timeout := some (max timeout 0), deadline := none }

def setDeadline (c : RpcController) (deadline : Int) : RpcController :=
  { c with deadline := some deadline, timeout := none }

/-- `ResolveDeadline` of a controller of this library. -/
def resolveDeadline (c : RpcController) (now : Int) : Option Int :=
  match c.deadline, c.timeout with
  | some deadline, _ => some deadline
  | none, some timeout => some (wrap64 (now + wrap64 (timeout * 1000000)))
  | none, none => none

end RpcController

end NebulaRpc.Rpc
