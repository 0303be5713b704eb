import NebulaRpc.Library.Transition
import NebulaRpc.Net.Connector
import NebulaRpc.Net.TcpConnection

/-!
# The client

`TcpClient` owns a connector and at most one connection. It remembers on its own whether the user
wants a connection, and the connector remembers it too. The system is the loop thread: user code
runs outside of all handlers and inside of the callbacks, where it may call the client again, so
the handlers that wait for a callback to return form a stack.

Of a connection only its state and its close callback matter here; `HandleClose` may run at any time
in an event of the connection, or inside of user code that closes it.
-/

namespace NebulaRpc.Net

structure ClientConnection where
  fd : Nat
  state : ConnectionState
  closeCallback : Bool

/-- A handler that waits on the stack. -/
inductive ClientFrame where
  /-- in `connect_error_callback_`; `ScheduleReconnect` is still to come -/
  | connectError (reason : String)
  /-- in `connection_callback_`, at the end of `ConnectEstablished` -/
  | connectionUp (conn : Nat)
  /-- in `connection_callback_`; `close_callback_` is still to come -/
  | connectionDown (conn : Nat)
  /-- in `connection_callback_`, called by `ConnectDestroyed` -/
  | connectionDestroyed (conn : Nat)
  /-- in `RemoveConnection`, behind `Restart` -/
  | removed (conn : Nat)
  /-- in `HandleEvent` of the connector's channel, with `HandleWrite` still to come -/
  | write (fd : Nat) (socketError : Option String)

/-- User code runs on top of the handler. -/
def ClientFrame.userCode : ClientFrame → Bool
  | .connectError _ | .connectionUp _ | .connectionDown _ | .connectionDestroyed _ => true
  | .removed _ | .write .. => false

structure TcpClient where
  connector : Connector := {}
  connect : Bool := false
  connection : Option Nat := none
  nextConnectionId : Nat := 1
  connections : Nat → Option ClientConnection := fun _ => none
  /-- the `ConnectDestroyed` functors that the loop holds -/
  destroying : List Nat := []
  stack : List ClientFrame := []

inductive ClientStep where
  | connect (outcome : ConnectOutcome)
  | disconnect
  | stop
  | close (conn : Nat)
  | resume (outcome : ConnectOutcome)
  | writable (socketError : Option String)
  /-- an error event, and whether the same event also reports the socket writable -/
  | error (text : String) (write : Option (Option String))
  | retryTimer (timer : Nat) (outcome : ConnectOutcome)
  | resetChannel
  | connectDestroyed

/-- The step is a call of the user. -/
def ClientStep.user : ClientStep → Bool
  | .connect _ | .disconnect | .stop => true
  | _ => false

/-- The step is an event of the loop. -/
def ClientStep.event : ClientStep → Bool
  | .writable _ | .error .. | .retryTimer .. | .resetChannel | .connectDestroyed => true
  | _ => false

namespace TcpClient

def userCode (s : TcpClient) : Bool := (s.stack.head?.map ClientFrame.userCode).getD true

def setState (s : TcpClient) (conn : Nat) (state : ConnectionState) : TcpClient :=
  { s with
    connections := Function.update s.connections conn
      ((s.connections conn).map fun k => { k with state := state }) }

/-- `NewConnection`, up to the connection callback. -/
def newConnection (s : TcpClient) (fd : Nat) : TcpClient :=
  if !s.connect then { s with connector := s.connector.close fd }
  else
    { s with
      nextConnectionId := s.nextConnectionId + 1
      connection := some s.nextConnectionId
      connections := Function.update s.connections s.nextConnectionId
        (some ⟨fd, .connected, true⟩)
      stack := .connectionUp s.nextConnectionId :: s.stack }

/-- The connector calls its owner. -/
def deliver (s : TcpClient) : Option ConnectorCall → TcpClient
  | none => s
  | some (.newConnection fd) => s.newConnection fd
  | some (.error reason) => { s with stack := .connectError reason :: s.stack }

def removeConnection (s : TcpClient) (conn : Nat) (outcome : ConnectOutcome) : TcpClient :=
  let s : TcpClient := { s with
    connection := if s.connection = some conn then none else s.connection
    connections := Function.update s.connections conn
      ((s.connections conn).map fun k => { k with closeCallback := false })
    stack := .removed conn :: s.stack }
  if s.connect then
    let (connector, call) := s.connector.restartInLoop outcome
    { s with connector := connector }.deliver call
  else s

/-- `TcpConnection::HandleClose`, up to the connection callback. -/
def handleClose (s : TcpClient) (conn : Nat) : TcpClient :=
  match s.connections conn with
  | none => s
  | some k =>
    if k.state = .disconnected then s
    else
      let s := s.setState conn .disconnected
      { s with stack := .connectionDown conn :: s.stack }

/-- `Disconnect`; of `Shutdown` only the change of the state is seen here. -/
def disconnect (s : TcpClient) : TcpClient :=
  let s := { s with connect := false }
  match s.connection.bind fun conn => (s.connections conn).map (conn, ·) with
  | some (conn, k) => if k.state = .connected then s.setState conn .disconnecting else s
  | none => s

/-- `TcpConnection::ConnectDestroyed`, up to the connection callback. -/
def connectDestroyed (s : TcpClient) (conn : Nat) : TcpClient :=
  match s.connections conn with
  | none => s
  | some k =>
    if k.state = .connected then
      let s := s.setState conn .disconnected
      { s with stack := .connectionDestroyed conn :: s.stack }
    else s

def step (s : TcpClient) : ClientStep → Option TcpClient
  | .connect outcome =>
    if s.userCode then
      let (connector, call) := s.connector.start outcome
      some ({ s with connect := true, connector := connector }.deliver call)
    else none
  | .disconnect => if s.userCode then some s.disconnect else none
  | .stop =>
    if s.userCode then
      s.connector.stop.map fun connector => { s with connect := false, connector := connector }
    else none
  | .close conn => if s.userCode then some (s.handleClose conn) else none
  | .resume outcome =>
    match s.stack with
    | [] => none
    | .connectError _ :: stack =>
      some { s with stack := stack, connector := s.connector.scheduleReconnect }
    | .connectionUp _ :: stack | .connectionDestroyed _ :: stack => some { s with stack := stack }
    | .connectionDown conn :: stack =>
      let s := { s with stack := stack }
      match s.connections conn with
      | some ⟨_, _, true⟩ => some (s.removeConnection conn outcome)
      | _ => some s
    | .removed conn :: stack =>
      some { s with stack := stack, destroying := s.destroying ++ [conn] }
    | .write fd socketError :: stack =>
      -- the channel in whose `HandleEvent` this is must not have been destroyed
      if s.connector.channel.map (·.fd) = some fd then
        (s.connector.handleWrite socketError).map fun (connector, call) =>
          { s with stack := stack, connector := connector }.deliver call
      else none
  | .writable socketError =>
    if s.stack.isEmpty && s.connector.channel.isSome then
      (s.connector.handleWrite socketError).map fun (connector, call) =>
        { s with connector := connector }.deliver call
    else none
  | .error text write =>
    if s.stack.isEmpty then
      s.connector.channel.bind fun channel =>
        (s.connector.handleError text).map fun (connector, call) =>
          { s with
            connector := connector
            stack := write.toList.map (.write channel.fd ·) }.deliver call
    else none
  | .retryTimer timer outcome =>
    if s.stack.isEmpty && timer ∈ s.connector.timers.map (·.1) then
      let (connector, call) := s.connector.fire timer outcome
      some ({ s with connector := connector }.deliver call)
    else none
  | .resetChannel =>
    if s.stack.isEmpty && s.connector.pendingResets ≠ 0 then
      some { s with connector := s.connector.resetChannel }
    else none
  | .connectDestroyed =>
    match s.stack, s.destroying with
    | [], conn :: destroying => some ({ s with destroying := destroying }.connectDestroyed conn)
    | _, _ => none

/-- The state behind a list of steps. -/
def run (s : TcpClient) (steps : List ClientStep) : Option TcpClient := Transition.run step s steps

/-- A client that has just been constructed. -/
def start (ip : String) (policy : ReconnectPolicy) : TcpClient :=
  { connector := { ip := ip, reconnectPolicy := policy } }

/-- No functor is queued and no handler is running. -/
def Quiescent (s : TcpClient) : Prop :=
  s.stack = [] ∧ s.destroying = [] ∧ s.connector.pendingResets = 0

/-! ## The client and its connector agree -/

/-- `Connect` is not called while the connector has handed its connection over and that is gone. -/
def ConnectsAttached (s : TcpClient) : ClientStep → Prop
  | .connect _ => s.connector.state = .connected → s.connection ≠ none
  | _ => True

instance (s : TcpClient) (l : ClientStep) : Decidable (ConnectsAttached s l) := by
  cases l <;> unfold ConnectsAttached <;> infer_instance

/-- While the client wants a connection, the connector wants one, and a connector that has handed
one over has not lost it; and a connector that wants one is at work, or will be when the error
callback returns. -/
structure Attached (s : TcpClient) : Prop where
  callbacks : s.connector.newConnectionCallback = true ∧ s.connector.errorCallback = true
  intent : s.connect = true → s.connector.connect = true
  connected : s.connect = true → s.connector.state = .connected → s.connection ≠ none
  idle : s.connector.Idle → ∃ reason, ClientFrame.connectError reason ∈ s.stack

variable {s s' : TcpClient} {l : ClientStep}

theorem Attached.start (ip : String) (policy : ReconnectPolicy) : Attached (start ip policy) where
  callbacks := ⟨rfl, rfl⟩
  intent := by simp [TcpClient.start]
  connected := by simp [TcpClient.start]
  idle := fun hidle => nomatch hidle.1

/-- Steps that leave the connector alone. -/
theorem Attached.of_same (h : Attached s) (hconnector : s'.connector = s.connector)
    (hconnect : s'.connect = true → s.connect = true)
    (hconnection : s'.connection = s.connection)
    (hstack : ∀ reason, .connectError reason ∈ s.stack → .connectError reason ∈ s'.stack) :
    Attached s' := by
  refine ⟨hconnector ▸ h.callbacks, fun hc => ?_, fun hc hstate => ?_, fun hidle => ?_⟩
  · exact hconnector ▸ h.intent (hconnect hc)
  · rw [hconnection]
    exact h.connected (hconnect hc) (hconnector ▸ hstate)
  · obtain ⟨reason, hmem⟩ := h.idle (hconnector ▸ hidle)
    exact ⟨reason, hstack reason hmem⟩

/-- The connector `c` has made progress, and its owner is called. -/
theorem Attached.deliver {c : Connector} {call : Option ConnectorCall}
    (hcallbacks : c.newConnectionCallback = true ∧ c.errorCallback = true)
    (hprogress : Connector.Progress c s.connector call)
    (hintent : s.connect = true → c.connect = true)
    (hconnected : s.connect = true → c.state = .connected → s.connection ≠ none) :
    Attached (s.deliver call) := by
  have hcallbacks' := And.intro (hprogress.newConnectionCallback.trans hcallbacks.1)
    (hprogress.errorCallback.trans hcallbacks.2)
  have hintent' : s.connect = true → s.connector.connect = true :=
    fun hc => hprogress.connect.trans (hintent hc)
  rcases call with _ | fd | reason
  · refine ⟨hcallbacks', hintent', fun hc hstate => ?_, fun hidle => ?_⟩
    · by_cases hold : c.state = .connected
      · exact hconnected hc hold
      · obtain ⟨fd, hcall⟩ := hprogress.handed hstate hold
        cases hcall
    · obtain ⟨reason, hcall⟩ := hprogress.idle hidle
      cases hcall
  · have hstate : s.connector.state = .connected := hprogress.connected fd rfl
    have hbusy : ¬ s.connector.Idle := fun hidle => by
      rw [hidle.2.1] at hstate
      cases hstate
    simp only [TcpClient.deliver, TcpClient.newConnection]
    split
    · next hnot =>
      refine ⟨hcallbacks', hintent', fun hc => ?_, fun hidle => absurd hidle hbusy⟩
      have hc' : s.connect = true := hc
      simp [hc'] at hnot
    · exact ⟨hcallbacks', hintent', fun _ _ => by simp, fun hidle => absurd hidle hbusy⟩
  · refine ⟨hcallbacks', hintent', fun hc hstate => ?_, fun _ => ⟨reason, List.mem_cons_self⟩⟩
    by_cases hold : c.state = .connected
    · exact hconnected hc hold
    · obtain ⟨fd, hcall⟩ := hprogress.handed hstate hold
      cases hcall

/-- `Connect`. -/
theorem Attached.connect (h : Attached s) {outcome : ConnectOutcome}
    (hcond : ConnectsAttached s (.connect outcome)) :
    Attached ({ s with
      connect := true
      connector := (s.connector.start outcome).1 }.deliver (s.connector.start outcome).2) := by
  apply Attached.deliver _ (Connector.Progress.start h.callbacks.1 outcome)
  · exact fun _ => rfl
  · exact fun _ => hcond
  · exact h.callbacks

theorem Attached.removeConnection (h : Attached s) (conn : Nat) (outcome : ConnectOutcome) :
    Attached (s.removeConnection conn outcome) := by
  unfold TcpClient.removeConnection
  dsimp only
  split
  · next hc =>
    rcases Connector.Progress.restartInLoop h.callbacks.1 outcome with ⟨hstate, heq⟩ | hprogress
    · rw [heq]
      refine ⟨h.callbacks, h.intent, fun _ hstate' => absurd hstate' hstate, fun hidle => ?_⟩
      obtain ⟨reason, hmem⟩ := h.idle hidle
      exact ⟨reason, List.mem_cons_of_mem _ hmem⟩
    · apply Attached.deliver _ hprogress
      · exact h.intent
      · exact fun _ hstate => nomatch hstate
      · exact h.callbacks
  · next hc =>
    refine ⟨h.callbacks, h.intent, fun hc' => absurd hc' hc, fun hidle => ?_⟩
    obtain ⟨reason, hmem⟩ := h.idle hidle
    exact ⟨reason, List.mem_cons_of_mem _ hmem⟩

/-- The connector ends its attempt, or does nothing. -/
theorem Attached.handled (h : Attached s) {c : Connector} {call : Option ConnectorCall}
    (hhandled : c = s.connector ∧ call = none ∨ Connector.Progress s.connector c call)
    {stack : List ClientFrame}
    (hstack : ∀ reason, .connectError reason ∈ s.stack → .connectError reason ∈ stack) :
    Attached ({ s with stack := stack, connector := c }.deliver call) := by
  rcases hhandled with ⟨rfl, rfl⟩ | hprogress
  · exact h.of_same rfl id rfl hstack
  · exact Attached.deliver h.callbacks hprogress h.intent h.connected

theorem Attached.setState (h : Attached s) (conn : Nat) (state : ConnectionState)
    (frames : List ClientFrame) :
    Attached { s.setState conn state with stack := frames ++ s.stack } :=
  h.of_same rfl id rfl fun _ hmem => List.mem_append_right _ hmem

theorem Attached.handleClose (h : Attached s) (conn : Nat) : Attached (s.handleClose conn) := by
  unfold TcpClient.handleClose
  split
  · exact h
  · split
    · exact h
    · exact h.setState conn .disconnected [.connectionDown conn]

theorem Attached.connectDestroyed (h : Attached s) (conn : Nat) :
    Attached (s.connectDestroyed conn) := by
  unfold TcpClient.connectDestroyed
  split
  · exact h
  · split
    · exact h.setState conn .disconnected [.connectionDestroyed conn]
    · exact h

theorem Attached.disconnect (h : Attached s) : Attached s.disconnect := by
  have hoff : Attached { s with connect := false } :=
    h.of_same rfl (fun hc => nomatch hc) rfl fun _ => id
  unfold TcpClient.disconnect
  dsimp only
  split
  · split
    · exact hoff.setState _ .disconnecting []
    · exact hoff
  · exact hoff

/-- A callback has returned. -/
theorem Attached.resume (h : Attached s) {outcome : ConnectOutcome}
    (hstep : s.step (.resume outcome) = some s') : Attached s' := by
  have hpop : ∀ {frame stack}, s.stack = frame :: stack →
      (∀ reason, frame ≠ .connectError reason) →
      ∀ reason, ClientFrame.connectError reason ∈ s.stack → .connectError reason ∈ stack := by
    intro frame stack hstack hne reason hmem
    rw [hstack] at hmem
    rcases List.mem_cons.mp hmem with heq | hmem
    · exact absurd heq.symm (hne reason)
    · exact hmem
  simp only [step] at hstep
  split at hstep
  · cases hstep
  · next hstack =>
    cases hstep
    refine ⟨by simpa using h.callbacks, fun hc => ?_, fun hc hstate => ?_, fun hidle => ?_⟩
    · simpa using h.intent hc
    · exact h.connected hc (by simpa using hstate)
    · exact absurd hidle (Connector.not_idle_scheduleReconnect _)
  · next hstack =>
    cases hstep
    exact h.of_same rfl id rfl (hpop hstack (by simp))
  · next hstack =>
    cases hstep
    exact h.of_same rfl id rfl (hpop hstack (by simp))
  · next conn stack hstack =>
    have hrest : Attached { s with stack := stack } := h.of_same rfl id rfl (hpop hstack (by simp))
    split at hstep
    · cases hstep
      exact hrest.removeConnection conn outcome
    · cases hstep
      exact hrest
  · next hstack =>
    cases hstep
    exact h.of_same rfl id rfl (hpop hstack (by simp))
  · next fd socketError stack hstack =>
    split at hstep
    · rw [Option.map_eq_some_iff] at hstep
      obtain ⟨⟨c, call⟩, hwrite, rfl⟩ := hstep
      exact h.handled (Connector.Progress.handleWrite h.callbacks.1 hwrite) (hpop hstack (by simp))
    · cases hstep

theorem Attached.step (h : Attached s) (hcond : ConnectsAttached s l) (hstep : s.step l = some s') :
    Attached s' := by
  cases l with
  | connect outcome =>
    simp only [TcpClient.step, Option.ite_none_right_eq_some, Option.some.injEq] at hstep
    obtain ⟨-, rfl⟩ := hstep
    exact h.connect hcond
  | disconnect =>
    simp only [TcpClient.step, Option.ite_none_right_eq_some, Option.some.injEq] at hstep
    obtain ⟨-, rfl⟩ := hstep
    exact h.disconnect
  | stop =>
    simp only [TcpClient.step, Option.ite_none_right_eq_some, Option.map_eq_some_iff] at hstep
    obtain ⟨-, c, hstop, rfl⟩ := hstep
    obtain ⟨hconnect, hnew, herror, -⟩ := Connector.stop_spec hstop
    refine ⟨⟨hnew.trans h.callbacks.1, herror.trans h.callbacks.2⟩, ?_, ?_, fun hidle => ?_⟩
    · exact fun hc => nomatch hc
    · exact fun hc => nomatch hc
    · exact absurd (hconnect.symm.trans hidle.1) (by simp)
  | close conn =>
    simp only [TcpClient.step, Option.ite_none_right_eq_some, Option.some.injEq] at hstep
    obtain ⟨-, rfl⟩ := hstep
    exact h.handleClose conn
  | resume outcome => exact h.resume hstep
  | writable socketError =>
    simp only [TcpClient.step, Option.ite_none_right_eq_some, Option.map_eq_some_iff] at hstep
    obtain ⟨-, ⟨c, call⟩, hwrite, rfl⟩ := hstep
    exact h.handled (Connector.Progress.handleWrite h.callbacks.1 hwrite) fun _ => id
  | error text write =>
    simp only [TcpClient.step, Option.ite_none_right_eq_some, Option.bind_eq_some_iff,
      Option.map_eq_some_iff, List.isEmpty_iff] at hstep
    obtain ⟨hempty, channel, -, ⟨c, call⟩, herror, rfl⟩ := hstep
    apply h.handled (Connector.Progress.handleError herror)
    simp [hempty]
  | retryTimer timer outcome =>
    simp only [TcpClient.step, Option.ite_none_right_eq_some, Option.some.injEq] at hstep
    obtain ⟨-, rfl⟩ := hstep
    apply Attached.deliver _ (Connector.Progress.fire h.callbacks.1 timer outcome)
    · exact h.intent
    · exact h.connected
    · exact h.callbacks
  | resetChannel =>
    simp only [TcpClient.step, Option.ite_none_right_eq_some, Option.some.injEq] at hstep
    obtain ⟨-, rfl⟩ := hstep
    exact ⟨h.callbacks, h.intent, h.connected, h.idle⟩
  | connectDestroyed =>
    simp only [TcpClient.step] at hstep
    split at hstep
    · cases hstep
      apply Attached.connectDestroyed
      exact h.of_same rfl id rfl fun _ => id
    · cases hstep

/-- A client that wants a connection has one, or is connecting, or has set a timer to try again, in
a run in which `Connect` is not called while the connector is connected and the connection gone. -/
theorem never_stuck (ip : String) (policy : ReconnectPolicy) (steps : List ClientStep)
    (hcond : Transition.Meets step ConnectsAttached (start ip policy) steps)
    (hrun : (start ip policy).run steps = some s) (hquiet : s.Quiescent) (hwant : s.connect = true) :
    s.connection ≠ none ∨ s.connector.state = .connecting ∨ s.connector.RetryPending := by
  have h : Attached s := Transition.invariant_run (I := Attached) (fun _ _ _ h hc hs => h.step hc hs)
    (.start ip policy) hcond hrun
  cases hstate : s.connector.state with
  | connecting => exact .inr (.inl rfl)
  | connected => exact .inl (h.connected hwant hstate)
  | disconnected =>
    right; right
    by_contra hnot
    obtain ⟨reason, hmem⟩ := h.idle ⟨h.intent hwant, hstate, hnot⟩
    rw [hquiet.1] at hmem
    cases hmem

/-- The first attempt fails, the second succeeds, the connection is lost and comes back. -/
theorem never_stuck_reconnected :
    ∃ s, (start "127.0.0.1" {}).run [.connect (.fails "Connection refused"), .resume .established,
        .retryTimer 0 .inProgress, .writable none, .resume .established, .resetChannel, .close 1,
        .resume .established, .resume .established, .resume .established, .connectDestroyed] =
          some s ∧
      s.connection = some 2 ∧
      (s.connection ≠ none ∨ s.connector.state = .connecting ∨ s.connector.RetryPending) := by
  refine ⟨_, rfl, rfl, never_stuck "127.0.0.1" {} [.connect (.fails "Connection refused"),
    .resume .established, .retryTimer 0 .inProgress, .writable none, .resume .established,
    .resetChannel, .close 1, .resume .established, .resume .established, .resume .established,
    .connectDestroyed] (by decide) rfl ?_ ?_⟩
  · exact ⟨rfl, rfl, rfl⟩
  · rfl

/-- The user disconnects, the connection closes, and the user connects again. -/
theorem stuck_after_disconnect :
    ∃ s, (start "127.0.0.1" {}).run [.connect .established, .resume .established, .disconnect,
        .close 1, .resume .established, .resume .established, .connectDestroyed,
        .connect .established] = some s ∧
      s.Quiescent ∧ s.connect = true ∧
      ¬ (s.connection ≠ none ∨ s.connector.state = .connecting ∨ s.connector.RetryPending) := by
  refine ⟨_, rfl, ⟨rfl, rfl, rfl⟩, rfl, ?_⟩
  rintro (hconnection | hstate | ⟨timer, delay, htimer, -⟩)
  · exact hconnection rfl
  · cases hstate
  · cases htimer

/-! ## New connections -/

/-- What a step of the loop does to the intent and to the handlers of the connector, and when it opens
a connection. -/
structure Loops (s : TcpClient) (l : ClientStep) (s' : TcpClient) : Prop where
  connect : s'.connect = s.connect
  opens : s'.nextConnectionId = s.nextConnectionId ∨ s.connect = true ∧
    (l.event = true ∨ (∃ fd socketError stack, s.stack = .write fd socketError :: stack) ∨
      ∃ conn stack, s.stack = .connectionDown conn :: stack ∧ l = .resume .established)
  write : ∀ fd socketError, .write fd socketError ∈ s'.stack →
    .write fd socketError ∈ s.stack ∨ ∃ text write, l = .error text write

/-- The connector calls its owner, in a state that differs from `s` in the connector and the stack. -/
theorem deliver_spec {c : TcpClient} (call : Option ConnectorCall) :
    (c.deliver call).connect = c.connect ∧
      ((c.deliver call).nextConnectionId = c.nextConnectionId ∨
        c.connect = true ∧ ∃ fd, call = some (.newConnection fd)) ∧
      ∀ fd socketError, .write fd socketError ∈ (c.deliver call).stack →
        .write fd socketError ∈ c.stack := by
  rcases call with _ | fd | reason
  · exact ⟨rfl, .inl rfl, fun _ _ => id⟩
  · simp only [deliver, newConnection]
    split
    · exact ⟨rfl, .inl rfl, fun _ _ => id⟩
    · next hc => exact ⟨rfl, .inr ⟨by simpa using hc, fd, rfl⟩, by simp⟩
  · exact ⟨rfl, .inl rfl, by simp [deliver]⟩

/-- A connection is handed over at once only if `connect` succeeds at once. -/
theorem established_of_startInLoop {c : Connector} {outcome : ConnectOutcome} {fd : Nat}
    (h : (c.startInLoop outcome).2 = some (.newConnection fd)) : outcome = .established := by
  have hreport : ∀ (c : Connector) reason, (c.reportError reason).2 ≠ some (.newConnection fd) := by
    intro c reason
    unfold Connector.reportError
    dsimp only
    split <;> simp
  unfold Connector.startInLoop at h
  split at h
  · cases outcome with
    | established => rfl
    | inProgress => cases h
    | createFails | invalidAddress | fails => exact absurd h (hreport _ _)
  · cases h

theorem Loops.of_deliver {c : TcpClient} {call : Option ConnectorCall} (hconnect : c.connect = s.connect)
    (hnext : c.nextConnectionId = s.nextConnectionId)
    (hopens : ∀ fd, call = some (.newConnection fd) →
      l.event = true ∨ (∃ fd socketError stack, s.stack = .write fd socketError :: stack) ∨
        ∃ conn stack, s.stack = .connectionDown conn :: stack ∧ l = .resume .established)
    (hwrite : ∀ fd socketError, .write fd socketError ∈ c.stack →
      .write fd socketError ∈ s.stack ∨ ∃ text write, l = .error text write) :
    Loops s l (c.deliver call) := by
  obtain ⟨hconnect', hnext', hwrite'⟩ := deliver_spec (c := c) call
  refine ⟨hconnect'.trans hconnect, ?_, fun fd socketError hmem => ?_⟩
  · obtain hnext' | ⟨hc, fd, hcall⟩ := hnext'
    · exact .inl (hnext'.trans hnext)
    · exact .inr ⟨hconnect ▸ hc, hopens fd hcall⟩
  · exact hwrite fd socketError (hwrite' fd socketError hmem)

/-- Steps that open no connection. -/
theorem Loops.of_same (hconnect : s'.connect = s.connect)
    (hnext : s'.nextConnectionId = s.nextConnectionId)
    (hstack : ∀ fd socketError, .write fd socketError ∈ s'.stack → .write fd socketError ∈ s.stack) :
    Loops s l s' :=
  ⟨hconnect, .inl hnext, fun fd socketError hmem => .inl (hstack fd socketError hmem)⟩

theorem Loops.removeConnection {conn conn' : Nat} {stack : List ClientFrame} {outcome : ConnectOutcome}
    (hstack : s.stack = .connectionDown conn' :: stack) :
    Loops s (.resume outcome) ({ s with stack := stack }.removeConnection conn outcome) := by
  have hwrite : ∀ fd socketError, ClientFrame.write fd socketError ∈ .removed conn :: stack →
      .write fd socketError ∈ s.stack ∨ ∃ text write, ClientStep.resume outcome = .error text write := by
    intro fd socketError hmem
    left
    simpa [hstack] using hmem
  unfold TcpClient.removeConnection
  dsimp only
  split
  · refine Loops.of_deliver rfl rfl (fun fd hcall => ?_) hwrite
    unfold Connector.restartInLoop at hcall
    split at hcall
    · cases hcall
    · obtain rfl := established_of_startInLoop hcall
      exact .inr (.inr ⟨conn', stack, hstack, rfl⟩)
  · exact ⟨rfl, .inl rfl, hwrite⟩

theorem Loops.step (hl : l.user = false) (hstep : s.step l = some s') : Loops s l s' := by
  cases l with
  | connect | disconnect | stop => cases hl
  | close conn =>
    simp only [TcpClient.step, Option.ite_none_right_eq_some, Option.some.injEq] at hstep
    obtain ⟨-, rfl⟩ := hstep
    unfold TcpClient.handleClose
    split
    · exact .of_same rfl rfl fun _ _ => id
    · split
      · exact .of_same rfl rfl fun _ _ => id
      · exact .of_same rfl rfl (by simp [setState])
  | resume outcome =>
    have hpop : ∀ {frame stack}, s.stack = frame :: stack → ∀ {fd socketError},
        ClientFrame.write fd socketError ∈ stack → .write fd socketError ∈ s.stack := by
      intro frame stack hstack fd socketError hmem
      exact hstack ▸ List.mem_cons_of_mem _ hmem
    simp only [TcpClient.step] at hstep
    split at hstep
    · cases hstep
    · next hstack => cases hstep; exact .of_same rfl rfl fun _ _ => hpop hstack
    · next hstack => cases hstep; exact .of_same rfl rfl fun _ _ => hpop hstack
    · next hstack => cases hstep; exact .of_same rfl rfl fun _ _ => hpop hstack
    · next conn stack hstack =>
      split at hstep
      · cases hstep
        exact .removeConnection hstack
      · cases hstep
        exact .of_same rfl rfl fun _ _ => hpop hstack
    · next hstack => cases hstep; exact .of_same rfl rfl fun _ _ => hpop hstack
    · next fd socketError stack hstack =>
      simp only [Option.ite_none_right_eq_some, Option.map_eq_some_iff] at hstep
      obtain ⟨-, ⟨c, call⟩, -, rfl⟩ := hstep
      exact .of_deliver rfl rfl (fun _ _ => .inr (.inl ⟨fd, socketError, stack, hstack⟩))
        fun _ _ hmem => .inl (hpop hstack hmem)
  | writable socketError =>
    simp only [TcpClient.step, Option.ite_none_right_eq_some, Option.map_eq_some_iff] at hstep
    obtain ⟨-, ⟨c, call⟩, -, rfl⟩ := hstep
    exact .of_deliver rfl rfl (fun _ _ => .inl rfl) fun _ _ => .inl
  | error text write =>
    simp only [TcpClient.step, Option.ite_none_right_eq_some, Option.bind_eq_some_iff,
      Option.map_eq_some_iff] at hstep
    obtain ⟨-, channel, -, ⟨c, call⟩, -, rfl⟩ := hstep
    exact .of_deliver rfl rfl (fun _ _ => .inl rfl) fun _ _ _ => .inr ⟨text, write, rfl⟩
  | retryTimer timer outcome =>
    simp only [TcpClient.step, Option.ite_none_right_eq_some, Option.some.injEq] at hstep
    obtain ⟨-, rfl⟩ := hstep
    exact .of_deliver rfl rfl (fun _ _ => .inl rfl) fun _ _ => .inl
  | resetChannel =>
    simp only [TcpClient.step, Option.ite_none_right_eq_some, Option.some.injEq] at hstep
    obtain ⟨-, rfl⟩ := hstep
    exact .of_same rfl rfl fun _ _ => id
  | connectDestroyed =>
    simp only [TcpClient.step] at hstep
    split at hstep
    · next conn destroying hstack hdestroying =>
      cases hstep
      unfold TcpClient.connectDestroyed
      split
      · exact .of_same rfl rfl fun _ _ => id
      · split
        · exact .of_same rfl rfl (by simp [setState])
        · exact .of_same rfl rfl fun _ _ => id
    · cases hstep

end TcpClient

end NebulaRpc.Net
