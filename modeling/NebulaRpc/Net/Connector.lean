import Mathlib.Tactic

/-!
# The connector

`Connector` brings up one connection at a time: it creates a socket, waits for the result of a
non-blocking `connect`, hands the socket over, or tries again after a delay that grows with every
failure. All of it runs on the loop thread. What the kernel answers is a parameter of each
operation, and a callback into the owner is a result: the owner is called when the operation has
returned it, and what the operation still has to do afterwards is an operation of its own.

Sockets and timers are numbered in the order in which they are created. An operation that would
dereference the null `channel_` has no result.
-/

namespace NebulaRpc.Net

/-- `Connector::State`. -/
inductive ConnectorState where
  | disconnected
  | connecting
  | connected
  deriving DecidableEq

/-- `Connector::ReconnectPolicy`, in milliseconds. -/
structure ReconnectPolicy where
  initial : Int := 100
  max : Int := 5000
  multiplier : Nat := 2

/-- The channel of a connect in progress and whether the poller knows it. -/
structure ConnectorChannel where
  fd : Nat
  registered : Bool

structure Connector where
  ip : String := ""
  connect : Bool := false
  state : ConnectorState := .disconnected
  socketFd : Option Nat := none
  channel : Option ConnectorChannel := none
  reconnectPolicy : ReconnectPolicy := {}
  nextBackoff : Int := 0
  retryTimer : Option Nat := none
  reconnectAttemptCount : Nat := 0
  newConnectionCallback : Bool := true
  errorCallback : Bool := true
  /-- the timers of this connector that the loop holds, with their delays -/
  timers : List (Nat × Int) := []
  nextTimer : Nat := 0
  /-- the `ResetChannel` functors that the loop holds -/
  pendingResets : Nat := 0
  nextFd : Nat := 0
  closed : List Nat := []

/-- A call into the owner of the connector. -/
inductive ConnectorCall where
  | newConnection (fd : Nat)
  | error (reason : String)

/-- What the system calls in `ConnectInLoop` answer. -/
inductive ConnectOutcome where
  | createFails (what : String)
  | invalidAddress
  | established
  | inProgress
  | fails (text : String)

namespace Connector

def close (c : Connector) (fd : Nat) : Connector := { c with closed := fd :: c.closed }

def scheduleReconnect (c : Connector) : Connector :=
  if !c.connect || c.state ≠ .disconnected then c
  else
    let delay := if c.nextBackoff = 0 then c.reconnectPolicy.initial else c.nextBackoff
    { c with
      nextBackoff := min (delay * c.reconnectPolicy.multiplier) c.reconnectPolicy.max
      reconnectAttemptCount := c.reconnectAttemptCount + 1
      timers := (c.nextTimer, delay) :: c.timers
      retryTimer := some c.nextTimer
      nextTimer := c.nextTimer + 1 }

def cancelReconnect (c : Connector) : Connector :=
  match c.retryTimer with
  | none => c
  | some timer => { c with timers := c.timers.filter (·.1 ≠ timer), retryTimer := none }

/-- `ReportError` up to the callback; `ScheduleReconnect` follows when the callback returns. -/
def reportError (c : Connector) (reason : String) : Connector × Option ConnectorCall :=
  let c := { c with state := .disconnected }
  if c.errorCallback then (c, some (.error reason)) else (c.scheduleReconnect, none)

/-- A connected socket is handed over. -/
def handOver (c : Connector) (fd : Nat) : Connector × Option ConnectorCall :=
  let c := { c with state := .connected, nextBackoff := 0 }
  if c.newConnectionCallback then (c, some (.newConnection fd))
  else ({ c.close fd with state := .disconnected }, none)

def connecting (c : Connector) (fd : Nat) : Connector :=
  { c with state := .connecting, socketFd := some fd, channel := some ⟨fd, true⟩ }

def connectInLoop (c : Connector) : ConnectOutcome → Connector × Option ConnectorCall
  | .createFails what => c.reportError what
  | .invalidAddress =>
    ({ c with nextFd := c.nextFd + 1 }.close c.nextFd).reportError
      ("invalid IPv4 address: " ++ c.ip)
  | .established =>
    let c' := { c with nextFd := c.nextFd + 1, state := .connected, nextBackoff := 0 }
    if !c'.connect then ({ c'.close c.nextFd with state := .disconnected }, none)
    else c'.handOver c.nextFd
  | .inProgress => ({ c with nextFd := c.nextFd + 1 }.connecting c.nextFd, none)
  | .fails text =>
    ({ c with nextFd := c.nextFd + 1 }.close c.nextFd).reportError ("connect failed: " ++ text)

def startInLoop (c : Connector) (outcome : ConnectOutcome) : Connector × Option ConnectorCall :=
  if c.connect && c.state = .disconnected then c.cancelReconnect.connectInLoop outcome
  else (c, none)

/-- `Start` on the loop thread. -/
def start (c : Connector) (outcome : ConnectOutcome) : Connector × Option ConnectorCall :=
  { c with connect := true }.startInLoop outcome

/-- The channel leaves the poller and is destroyed by a functor. -/
def removeAndResetChannel (c : Connector) : Option (Nat × Connector) :=
  c.channel.map fun channel =>
    (channel.fd, { c with
      channel := some { channel with registered := false }
      pendingResets := c.pendingResets + 1 })

def resetChannel (c : Connector) : Connector :=
  { c with channel := none, pendingResets := c.pendingResets - 1 }

def stopInLoop (c : Connector) : Option Connector :=
  let c := c.cancelReconnect
  if c.state ≠ .connecting then some c
  else c.removeAndResetChannel.map fun (fd, c) =>
    { c.close fd with socketFd := none, state := .disconnected }

/-- `Stop` on the loop thread. -/
def stop (c : Connector) : Option Connector := { c with connect := false }.stopInLoop

/-- `Restart` on the loop thread. -/
def restartInLoop (c : Connector) (outcome : ConnectOutcome) : Connector × Option ConnectorCall :=
  if c.state ≠ .connected then (c, none)
  else { c with state := .disconnected }.startInLoop outcome

/-- The socket is writable; `SO_ERROR` is zero or has this text. -/
def handleWrite (c : Connector) (socketError : Option String) :
    Option (Connector × Option ConnectorCall) :=
  if c.state ≠ .connecting then some (c, none)
  else c.removeAndResetChannel.map fun (fd, c) =>
    let c := { c with socketFd := none }
    match socketError with
    | some text => ({ c with state := .disconnected }.close fd).reportError ("connect failed: " ++ text)
    | none =>
      if !c.connect then ({ c with state := .disconnected }.close fd, none) else c.handOver fd

/-- The socket has an error; the text is that of `SO_ERROR`, or of `ECONNREFUSED` when it is
zero. -/
def handleError (c : Connector) (text : String) : Option (Connector × Option ConnectorCall) :=
  if c.state ≠ .connecting then some (c, none)
  else c.removeAndResetChannel.map fun (fd, c) =>
    ({ c with socketFd := none, state := .disconnected }.close fd).reportError
      ("connect failed: " ++ text)

/-- A timer that `ScheduleReconnect` has set fires. -/
def fire (c : Connector) (timer : Nat) (outcome : ConnectOutcome) :
    Connector × Option ConnectorCall :=
  { c with timers := c.timers.filter (·.1 ≠ timer) }.startInLoop outcome

/-! ## What an operation leaves behind -/

/-- The loop holds the timer that will start the next attempt. -/
def RetryPending (c : Connector) : Prop := ∃ timer delay, c.retryTimer = some timer ∧
  (timer, delay) ∈ c.timers

/-- The connector wants a connection and does nothing for it. -/
def Idle (c : Connector) : Prop := c.connect = true ∧ c.state = .disconnected ∧ ¬ c.RetryPending

/-- What an operation of a connector with callbacks does: unless it is about to report an error it
leaves the connector at work, and it gets connected only by handing a socket over. -/
structure Progress (c c' : Connector) (call : Option ConnectorCall) : Prop where
  connect : c'.connect = c.connect
  newConnectionCallback : c'.newConnectionCallback = c.newConnectionCallback
  errorCallback : c'.errorCallback = c.errorCallback
  idle : c'.Idle → ∃ reason, call = some (.error reason)
  handed : c'.state = .connected → c.state ≠ .connected → ∃ fd, call = some (.newConnection fd)
  connected : ∀ fd, call = some (.newConnection fd) → c'.state = .connected

variable {c c' : Connector} {call : Option ConnectorCall} {outcome : ConnectOutcome}

theorem retryPending_scheduleReconnect (hconnect : c.connect = true)
    (hstate : c.state = .disconnected) : c.scheduleReconnect.RetryPending := by
  refine ⟨c.nextTimer, if c.nextBackoff = 0 then c.reconnectPolicy.initial else c.nextBackoff, ?_⟩
  simp [scheduleReconnect, hconnect, hstate]

theorem not_idle_scheduleReconnect (c : Connector) : ¬ c.scheduleReconnect.Idle := by
  rintro ⟨hconnect, hstate, hnot⟩
  apply hnot
  apply retryPending_scheduleReconnect
  · simp only [scheduleReconnect] at hconnect
    split at hconnect <;> exact hconnect
  · simp only [scheduleReconnect] at hstate
    split at hstate <;> exact hstate

@[simp]
theorem connect_scheduleReconnect (c : Connector) : c.scheduleReconnect.connect = c.connect := by
  unfold scheduleReconnect
  split <;> rfl

@[simp]
theorem state_scheduleReconnect (c : Connector) : c.scheduleReconnect.state = c.state := by
  unfold scheduleReconnect
  split <;> rfl

@[simp]
theorem callbacks_scheduleReconnect (c : Connector) :
    c.scheduleReconnect.newConnectionCallback = c.newConnectionCallback ∧
      c.scheduleReconnect.errorCallback = c.errorCallback := by
  unfold scheduleReconnect
  split <;> exact ⟨rfl, rfl⟩

theorem cancelReconnect_eq (c : Connector) :
    c.cancelReconnect = { c with
      timers := c.cancelReconnect.timers, retryTimer := c.cancelReconnect.retryTimer } := by
  unfold cancelReconnect
  split <;> rfl

/-- `ReportError`, from a connector that agrees with `c` on the callbacks. -/
theorem Progress.reportError (hconnect : c'.connect = c.connect)
    (hnew : c'.newConnectionCallback = c.newConnectionCallback)
    (herror : c'.errorCallback = c.errorCallback) (reason : String) :
    Progress c (c'.reportError reason).1 (c'.reportError reason).2 := by
  unfold Connector.reportError
  dsimp only
  split
  · exact ⟨hconnect, hnew, herror, fun _ => ⟨reason, rfl⟩, by simp, by simp⟩
  · refine ⟨by simpa using hconnect, by simpa using hnew, by simpa using herror, ?_, by simp, by simp⟩
    intro hidle
    exact absurd hidle (not_idle_scheduleReconnect _)

theorem Progress.handOver (hconnect : c'.connect = c.connect)
    (hnew : c'.newConnectionCallback = c.newConnectionCallback) (hset : c.newConnectionCallback = true)
    (herror : c'.errorCallback = c.errorCallback) (fd : Nat) :
    Progress c (c'.handOver fd).1 (c'.handOver fd).2 := by
  unfold Connector.handOver
  dsimp only
  split
  · exact ⟨hconnect, hnew, herror, fun hidle => (nomatch hidle.2.1), fun _ _ => ⟨fd, rfl⟩,
      fun _ _ => rfl⟩
  · next hnone => exact absurd (hnew.trans hset) hnone

theorem Progress.connectInLoop (hset : c.newConnectionCallback = true) (outcome : ConnectOutcome) :
    Progress c (c.connectInLoop outcome).1 (c.connectInLoop outcome).2 := by
  cases outcome with
  | createFails what => apply Progress.reportError <;> rfl
  | invalidAddress => apply Progress.reportError <;> rfl
  | established =>
    simp only [Connector.connectInLoop]
    split
    · next hstop =>
      refine ⟨rfl, rfl, rfl, fun hidle => ?_, by simp, by simp⟩
      obtain ⟨hconnect, -⟩ := hidle
      simp_all [Connector.close]
    · apply Progress.handOver
      · rfl
      · rfl
      · exact hset
      · rfl
  | inProgress =>
    refine ⟨rfl, rfl, rfl, fun hidle => ?_, fun h => ?_, by simp [Connector.connectInLoop]⟩
    · cases hidle.2.1
    · cases h
  | fails text => apply Progress.reportError <;> rfl

theorem Progress.startInLoop (hset : c.newConnectionCallback = true) (outcome : ConnectOutcome) :
    Progress c (c.startInLoop outcome).1 (c.startInLoop outcome).2 := by
  unfold Connector.startInLoop
  split
  · next hguard =>
    simp only [Bool.and_eq_true, decide_eq_true_eq] at hguard
    have heq := cancelReconnect_eq c
    have hnew : c.cancelReconnect.newConnectionCallback = c.newConnectionCallback := by rw [heq]
    obtain ⟨h₁, h₂, h₃, h₄, h₅, h₆⟩ := Progress.connectInLoop (hnew.trans hset) outcome
    refine ⟨h₁.trans ?_, h₂.trans hnew, h₃.trans ?_, h₄, fun h _ => h₅ h ?_, h₆⟩
    · rw [heq]
    · rw [heq]
    · rw [heq, hguard.2]
      simp
  · next hguard =>
    refine ⟨rfl, rfl, rfl, fun hidle => ?_, fun h hnot => absurd h hnot, by simp⟩
    obtain ⟨hconnect, hstate, -⟩ : c.Idle := hidle
    exact absurd (by simp [hconnect, hstate]) hguard

theorem Progress.start (hset : c.newConnectionCallback = true) (outcome : ConnectOutcome) :
    Progress { c with connect := true } (c.start outcome).1 (c.start outcome).2 := by
  apply Progress.startInLoop
  exact hset

theorem Progress.fire (hset : c.newConnectionCallback = true) (timer : Nat)
    (outcome : ConnectOutcome) :
    Progress { c with timers := c.timers.filter (·.1 ≠ timer) } (c.fire timer outcome).1
      (c.fire timer outcome).2 := by
  apply Progress.startInLoop
  exact hset

/-- `Restart` starts from the beginning, or does nothing. -/
theorem Progress.restartInLoop (hset : c.newConnectionCallback = true) (outcome : ConnectOutcome) :
    c.state ≠ .connected ∧ c.restartInLoop outcome = (c, none) ∨
      Progress { c with state := .disconnected } (c.restartInLoop outcome).1
        (c.restartInLoop outcome).2 := by
  unfold Connector.restartInLoop
  split
  · next hstate => exact .inl ⟨hstate, rfl⟩
  · right
    apply Progress.startInLoop
    exact hset

theorem connect_removeAndResetChannel {fd : Nat} (h : c.removeAndResetChannel = some (fd, c')) :
    c'.connect = c.connect ∧ c'.state = c.state ∧
      c'.newConnectionCallback = c.newConnectionCallback ∧ c'.errorCallback = c.errorCallback := by
  simp only [removeAndResetChannel, Option.map_eq_some_iff, Prod.mk.injEq] at h
  obtain ⟨channel, -, -, rfl⟩ := h
  exact ⟨rfl, rfl, rfl, rfl⟩

/-- `HandleWrite` ends the attempt, or does nothing. -/
theorem Progress.handleWrite (hset : c.newConnectionCallback = true) {socketError : Option String}
    (h : c.handleWrite socketError = some (c', call)) :
    c' = c ∧ call = none ∨ Progress c c' call := by
  unfold Connector.handleWrite at h
  split at h
  · cases h
    exact .inl ⟨rfl, rfl⟩
  · right
    rw [Option.map_eq_some_iff] at h
    obtain ⟨⟨fd, d⟩, hremove, heq⟩ := h
    obtain ⟨hconnect, hstate, hnew, herror⟩ := connect_removeAndResetChannel hremove
    cases socketError with
    | some text =>
      obtain rfl : _ = c' := congrArg Prod.fst heq
      obtain rfl : _ = call := congrArg Prod.snd heq
      apply Progress.reportError
      · exact hconnect
      · exact hnew
      · exact herror
    | none =>
      dsimp only at heq
      split at heq
      · next hstop =>
        obtain ⟨rfl, rfl⟩ := Prod.mk.inj heq.symm
        refine ⟨hconnect, hnew, herror, fun hidle => ?_, by simp [Connector.close], by simp⟩
        have hidle' : d.connect = true := hidle.1
        simp [hidle'] at hstop
      · obtain rfl : _ = c' := congrArg Prod.fst heq
        obtain rfl : _ = call := congrArg Prod.snd heq
        apply Progress.handOver
        · exact hconnect
        · exact hnew
        · exact hset
        · exact herror

theorem Progress.handleError {text : String} (h : c.handleError text = some (c', call)) :
    c' = c ∧ call = none ∨ Progress c c' call := by
  unfold Connector.handleError at h
  split at h
  · cases h
    exact .inl ⟨rfl, rfl⟩
  · right
    rw [Option.map_eq_some_iff] at h
    obtain ⟨⟨fd, d⟩, hremove, heq⟩ := h
    obtain ⟨hconnect, hstate, hnew, herror⟩ := connect_removeAndResetChannel hremove
    obtain rfl : _ = c' := congrArg Prod.fst heq
    obtain rfl : _ = call := congrArg Prod.snd heq
    apply Progress.reportError
    · exact hconnect
    · exact hnew
    · exact herror

/-- A stopped connector is not idle, and `Stop` does not connect it. -/
theorem stop_spec (h : c.stop = some c') :
    c'.connect = false ∧ c'.newConnectionCallback = c.newConnectionCallback ∧
      c'.errorCallback = c.errorCallback ∧ (c'.state = .connected → c.state = .connected) := by
  have heq := cancelReconnect_eq { c with connect := false }
  unfold stop stopInLoop at h
  dsimp only at h
  split at h
  · cases h
    rw [heq]
    exact ⟨rfl, rfl, rfl, id⟩
  · rw [Option.map_eq_some_iff] at h
    obtain ⟨⟨fd, d⟩, hremove, rfl⟩ := h
    obtain ⟨hconnect, hstate, hnew, herror⟩ := connect_removeAndResetChannel hremove
    rw [heq] at hconnect hnew herror
    exact ⟨hconnect, hnew, herror, by simp⟩

end Connector

end NebulaRpc.Net
