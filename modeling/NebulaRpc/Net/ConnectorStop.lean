import NebulaRpc.Net.ConnectorLoop
import NebulaRpc.Net.TcpClient

/-!
# Stop is final

The client and its connector each remember whether a connection is wanted, and each looks at its own
flag only: `Disconnect` clears that of the client, `Connector::Stop` that of the connector, and
`TcpClient::Stop` both. Whatever phase the attempt is in, a cleared flag is read before a socket is
created and again before one is handed over, and only the next `Connect` or `Start` sets it.
-/

namespace NebulaRpc.Net

namespace Connector

variable {c c' d : Connector} {call : Option ConnectorCall}

/-- `StartInLoop` gets to `ConnectInLoop`. -/
def connects (c : Connector) : Bool := c.connect && c.state = .disconnected

/-- An operation of a connector that was stopped: it stays stopped, creates no socket and hands none
over. -/
structure Quiet (c c' : Connector) (call : Option ConnectorCall) : Prop where
  connect : c'.connect = false
  nextFd : c'.nextFd = c.nextFd
  handedOver : handedOver call = []

theorem Quiet.of_same (hconnect : c.connect = false) (hsame : c'.connect = c.connect)
    (hnext : c'.nextFd = c.nextFd) : Quiet c c' none :=
  ⟨hsame.trans hconnect, hnext, rfl⟩

theorem Quiet.scheduleReconnect (hconnect : c.connect = false) : Quiet c c.scheduleReconnect none := by
  apply Quiet.of_same hconnect
  · simp
  · unfold Connector.scheduleReconnect
    split <;> rfl

theorem startInLoop_of_connect_eq_false (hconnect : c.connect = false) (outcome : ConnectOutcome) :
    c.startInLoop outcome = (c, none) := by
  simp [startInLoop, hconnect]

theorem Quiet.startInLoop (hconnect : c.connect = false) (outcome : ConnectOutcome) :
    Quiet c (c.startInLoop outcome).1 (c.startInLoop outcome).2 := by
  rw [startInLoop_of_connect_eq_false hconnect]
  exact .of_same hconnect rfl rfl

theorem Quiet.restartInLoop (hconnect : c.connect = false) (outcome : ConnectOutcome) :
    Quiet c (c.restartInLoop outcome).1 (c.restartInLoop outcome).2 := by
  unfold Connector.restartInLoop
  split
  · exact .of_same hconnect rfl rfl
  · have hdown : { c with state := .disconnected }.connect = false := hconnect
    rw [startInLoop_of_connect_eq_false hdown]
    exact .of_same hconnect rfl rfl

theorem Quiet.fire (hconnect : c.connect = false) (timer : Nat) (outcome : ConnectOutcome) :
    Quiet c (c.fire timer outcome).1 (c.fire timer outcome).2 := by
  have hfired : { c with timers := c.timers.filter (·.1 ≠ timer) }.connect = false := hconnect
  unfold Connector.fire
  rw [startInLoop_of_connect_eq_false hfired]
  exact .of_same hconnect rfl rfl

theorem quiet_reportError {e : Connector} (hconnect : e.connect = false) (hnext : e.nextFd = c.nextFd)
    (reason : String) : Quiet c (e.reportError reason).1 (e.reportError reason).2 := by
  unfold Connector.reportError
  dsimp only
  split
  · exact ⟨hconnect, hnext, rfl⟩
  · have hquiet := Quiet.scheduleReconnect (c := { e with state := .disconnected }) hconnect
    exact ⟨hquiet.connect, hquiet.nextFd.trans hnext, rfl⟩

theorem nextFd_removeAndResetChannel {fd : Nat} (h : c.removeAndResetChannel = some (fd, d)) :
    d.nextFd = c.nextFd := by
  obtain ⟨channel, -, heq⟩ := Option.map_eq_some_iff.mp h
  cases heq
  rfl

theorem Quiet.stopInLoop (hconnect : c.connect = false) (h : c.stopInLoop = some c') :
    Quiet c c' none := by
  have hcancelled : c.cancelReconnect.connect = false ∧ c.cancelReconnect.nextFd = c.nextFd := by
    rw [cancelReconnect_eq]
    exact ⟨hconnect, rfl⟩
  unfold Connector.stopInLoop at h
  dsimp only at h
  split at h
  · cases h
    exact ⟨hcancelled.1, hcancelled.2, rfl⟩
  · obtain ⟨⟨fd, d⟩, hremove, rfl⟩ := Option.map_eq_some_iff.mp h
    refine ⟨?_, ?_, rfl⟩
    · exact (connect_removeAndResetChannel hremove).1.trans hcancelled.1
    · exact (nextFd_removeAndResetChannel hremove).trans hcancelled.2

theorem Quiet.handleWrite (hconnect : c.connect = false) {socketError : Option String}
    (h : c.handleWrite socketError = some (c', call)) : Quiet c c' call := by
  unfold Connector.handleWrite at h
  split at h
  · cases h
    exact .of_same hconnect rfl rfl
  · obtain ⟨⟨fd, d⟩, hremove, heq⟩ := Option.map_eq_some_iff.mp h
    have hconnect' : d.connect = false := (connect_removeAndResetChannel hremove).1.trans hconnect
    have hnext := nextFd_removeAndResetChannel hremove
    cases socketError with
    | some text =>
      obtain rfl : _ = c' := congrArg Prod.fst heq
      obtain rfl : _ = call := congrArg Prod.snd heq
      apply quiet_reportError
      · exact hconnect'
      · exact hnext
    | none =>
      simp only [hconnect', Bool.not_false, if_true] at heq
      cases heq
      exact ⟨rfl, hnext, rfl⟩

theorem Quiet.handleError (hconnect : c.connect = false) {text : String}
    (h : c.handleError text = some (c', call)) : Quiet c c' call := by
  unfold Connector.handleError at h
  split at h
  · cases h
    exact .of_same hconnect rfl rfl
  · obtain ⟨⟨fd, d⟩, hremove, heq⟩ := Option.map_eq_some_iff.mp h
    have hnext := nextFd_removeAndResetChannel hremove
    obtain rfl : _ = c' := congrArg Prod.fst heq
    obtain rfl : _ = call := congrArg Prod.snd heq
    apply quiet_reportError
    · exact (connect_removeAndResetChannel hremove).1.trans hconnect
    · exact hnext

end Connector

namespace ConnectorLoop

variable {s s' : ConnectorLoop} {l : ConnectorStep}

/-- The step starts a connect attempt. -/
def connects (s : ConnectorLoop) : ConnectorStep → Bool
  | .start _ => { s.connector with connect := true }.connects
  | .restart _ => s.connector.state = .connected && { s.connector with state := .disconnected }.connects
  | .runFunctor index _ =>
    match s.functors[index]? with
    | some .startInLoop => s.connector.connects
    | some .restartInLoop =>
      s.connector.state = .connected && { s.connector with state := .disconnected }.connects
    | _ => false
  | .retryTimer _ _ => s.connector.connects
  | _ => false

/-- The step is a call of `Start`. -/
def starts : ConnectorStep → Bool
  | .start _ | .remoteStart => true
  | _ => false

/-- `Connector::Stop` is called, on the loop thread or on another one. -/
def stops : ConnectorStep → Bool
  | .stop | .remoteStop => true
  | _ => false

/-- A stopped connector, in a run that has created and handed over these sockets. -/
structure Stopped (nextFd : Nat) (handed : List Nat) (s : ConnectorLoop) : Prop where
  connect : s.connector.connect = false
  nextFd : s.connector.nextFd = nextFd
  handed : s.handed = handed

theorem Stopped.deliver {nextFd : Nat} {handed : List Nat} (h : Stopped nextFd handed s)
    {c : Connector} {call : Option ConnectorCall} (hquiet : s.connector.Quiet c call) :
    Stopped nextFd handed (s.deliver (c, call)) := by
  have hnext := hquiet.nextFd.trans h.nextFd
  rcases call with _ | ⟨fd⟩ | reason
  · exact ⟨hquiet.connect, hnext, h.handed⟩
  · cases hquiet.handedOver
  · exact ⟨hquiet.connect, hnext, h.handed⟩

theorem Stopped.with_connector {nextFd : Nat} {handed : List Nat} (h : Stopped nextFd handed s)
    {c : Connector} (hquiet : s.connector.Quiet c none) :
    Stopped nextFd handed { s with connector := c } :=
  h.deliver hquiet

/-- Unless it is a call of `Start`, a step of a stopped connector starts no attempt. -/
theorem Stopped.step {nextFd : Nat} {handed : List Nat} (h : Stopped nextFd handed s)
    (hstart : starts l = false) (hstep : s.step l = some s') :
    s.connects l = false ∧ Stopped nextFd handed s' := by
  have hc := h.connect
  cases l with
  | start | remoteStart => cases hstart
  | stop =>
    simp only [ConnectorLoop.step, Option.ite_none_right_eq_some, Option.map_eq_some_iff] at hstep
    obtain ⟨-, c, hstop, rfl⟩ := hstep
    have hquiet := Connector.Quiet.stopInLoop (c := { s.connector with connect := false }) rfl hstop
    exact ⟨rfl, h.with_connector ⟨hquiet.connect, hquiet.nextFd, rfl⟩⟩
  | restart outcome =>
    simp only [ConnectorLoop.step, Option.ite_none_right_eq_some] at hstep
    obtain ⟨-, hstep⟩ := hstep
    cases hstep
    refine ⟨?_, h.deliver (Connector.Quiet.restartInLoop hc outcome)⟩
    simp [connects, Connector.connects, hc]
  | remoteStop =>
    cases hstep
    exact ⟨rfl, rfl, h.nextFd, h.handed⟩
  | remoteRestart =>
    cases hstep
    exact ⟨rfl, h.connect, h.nextFd, h.handed⟩
  | runFunctor index outcome =>
    simp only [ConnectorLoop.step, Option.ite_none_right_eq_some, Option.bind_eq_some_iff] at hstep
    obtain ⟨-, functor, hget, hstep⟩ := hstep
    have htaken : Stopped nextFd handed { s with functors := s.functors.eraseIdx index } :=
      ⟨hc, h.nextFd, h.handed⟩
    cases functor with
    | startInLoop =>
      cases hstep
      refine ⟨?_, htaken.deliver (Connector.Quiet.startInLoop hc outcome)⟩
      simp [connects, hget, Connector.connects, hc]
    | stopInLoop =>
      obtain ⟨c, hstop, rfl⟩ := Option.map_eq_some_iff.mp hstep
      refine ⟨?_, htaken.with_connector (Connector.Quiet.stopInLoop hc hstop)⟩
      simp [connects, hget]
    | restartInLoop =>
      cases hstep
      refine ⟨?_, htaken.deliver (Connector.Quiet.restartInLoop hc outcome)⟩
      simp [connects, hget, Connector.connects, hc]
  | resetChannel =>
    simp only [ConnectorLoop.step, Option.ite_none_right_eq_some, Option.some.injEq] at hstep
    obtain ⟨-, rfl⟩ := hstep
    exact ⟨rfl, hc, h.nextFd, h.handed⟩
  | writable socketError =>
    simp only [ConnectorLoop.step, Option.ite_none_right_eq_some, Option.map_eq_some_iff] at hstep
    obtain ⟨-, ⟨c, call⟩, hwrite, rfl⟩ := hstep
    exact ⟨rfl, h.deliver (Connector.Quiet.handleWrite hc hwrite)⟩
  | error text write =>
    simp only [ConnectorLoop.step, Option.ite_none_right_eq_some, Option.bind_eq_some_iff,
      Option.map_eq_some_iff] at hstep
    obtain ⟨-, channel, -, ⟨c, call⟩, herror, rfl⟩ := hstep
    have hpushed : Stopped nextFd handed
        { s with stack := write.toList.map (.write channel.fd ·) } := ⟨hc, h.nextFd, h.handed⟩
    exact ⟨rfl, hpushed.deliver (Connector.Quiet.handleError hc herror)⟩
  | retryTimer timer outcome =>
    simp only [ConnectorLoop.step, Option.ite_none_right_eq_some] at hstep
    obtain ⟨-, hstep⟩ := hstep
    cases hstep
    refine ⟨?_, h.deliver (Connector.Quiet.fire hc timer outcome)⟩
    simp [connects, Connector.connects, hc]
  | resume =>
    refine ⟨rfl, ?_⟩
    have hpopped : ∀ stack, Stopped nextFd handed { s with stack := stack } :=
      fun _ => ⟨hc, h.nextFd, h.handed⟩
    rcases hstack : s.stack with _ | ⟨_ | _ | ⟨fd, socketError⟩, stack⟩
    · simp [ConnectorLoop.step, hstack] at hstep
    · simp only [ConnectorLoop.step, hstack, Option.some.injEq] at hstep
      subst hstep
      exact hpopped stack
    · simp only [ConnectorLoop.step, hstack, Option.some.injEq] at hstep
      subst hstep
      exact (hpopped stack).with_connector (Connector.Quiet.scheduleReconnect hc)
    · simp only [ConnectorLoop.step, hstack, Option.ite_none_right_eq_some,
        Option.map_eq_some_iff] at hstep
      obtain ⟨-, ⟨c, call⟩, hwrite, rfl⟩ := hstep
      exact (hpopped stack).deliver (Connector.Quiet.handleWrite hc hwrite)

/-- `Stop` leaves the connector stopped. -/
theorem stopped_of_stop (hstop : stops l = true) (hstep : s.step l = some s') :
    Stopped s.connector.nextFd s.handed s' := by
  cases l with
  | stop =>
    simp only [ConnectorLoop.step, Option.ite_none_right_eq_some, Option.map_eq_some_iff] at hstep
    obtain ⟨-, c, hstop, rfl⟩ := hstep
    have hquiet := Connector.Quiet.stopInLoop (c := { s.connector with connect := false }) rfl hstop
    exact ⟨hquiet.connect, hquiet.nextFd, rfl⟩
  | remoteStop =>
    cases hstep
    exact ⟨rfl, rfl, rfl⟩
  | start | restart | remoteStart | remoteRestart | runFunctor | resetChannel | writable | error
  | retryTimer | resume => cases hstop

/-- A stopped connector starts no attempt and hands no socket over, as long as `Start` is not
called. -/
theorem Stopped.run {nextFd : Nat} {handed : List Nat} (h : Stopped nextFd handed s)
    {after : List ConnectorStep} (hstart : ∀ l ∈ after, starts l = false)
    (hrun : s.run after = some s') :
    Transition.count ConnectorLoop.step connects s after = 0 ∧ s'.handed = handed ∧
      s'.connector.nextFd = nextFd := by
  have hkeep : ∀ n s l s', n = 0 ∧ Stopped nextFd handed s → starts l = false →
      s.step l = some s' → n + (s.connects l).toNat = 0 ∧ Stopped nextFd handed s' := by
    rintro n s l s' ⟨rfl, hs⟩ hl hstep
    obtain ⟨hnone, hs'⟩ := hs.step hl hstep
    exact ⟨by simp [hnone], hs'⟩
  have hend := Transition.invariant_count (C := fun _ l => starts l = false) (n := 0) hkeep ⟨rfl, h⟩
    (Transition.meets_of_forall_mem fun _ => hstart) hrun
  rw [Nat.zero_add] at hend
  exact ⟨hend.1, hend.2.handed, hend.2.nextFd⟩

end ConnectorLoop

namespace TcpClient

variable {s s' : TcpClient} {l : ClientStep}

/-- A client that wants no connection, in a run that has reported these connections up. -/
structure Disconnected (nextConnectionId : Nat) (up : Nat → Prop) (s : TcpClient) : Prop where
  connect : s.connect = false
  next : s.nextConnectionId = nextConnectionId
  up : ∀ conn, .connectionUp conn ∈ s.stack → up conn

theorem Disconnected.of_same {next : Nat} {up : Nat → Prop} (h : Disconnected next up s)
    (hconnect : s'.connect = s.connect) (hnext : s'.nextConnectionId = s.nextConnectionId)
    (hstack : ∀ conn, .connectionUp conn ∈ s'.stack → .connectionUp conn ∈ s.stack) :
    Disconnected next up s' :=
  ⟨hconnect.trans h.connect, hnext.trans h.next, fun conn hmem => h.up conn (hstack conn hmem)⟩

/-- A socket that is handed over is closed. -/
theorem Disconnected.deliver {next : Nat} {up : Nat → Prop} (h : Disconnected next up s)
    (call : Option ConnectorCall) : Disconnected next up (s.deliver call) := by
  rcases call with _ | fd | reason
  · exact h
  · have hclosed : s.deliver (some (.newConnection fd)) =
        { s with connector := s.connector.close fd } := by
      simp [TcpClient.deliver, newConnection, h.connect]
    rw [hclosed]
    exact h.of_same rfl rfl fun _ => id
  · exact h.of_same rfl rfl (by simp [TcpClient.deliver])

theorem Disconnected.removeConnection {next : Nat} {up : Nat → Prop} (h : Disconnected next up s)
    (conn : Nat) (outcome : ConnectOutcome) :
    Disconnected next up (s.removeConnection conn outcome) := by
  have hoff := h.connect
  unfold TcpClient.removeConnection
  simp only [hoff, Bool.false_eq_true, if_false]
  exact h.of_same hoff.symm rfl (by simp)

theorem Disconnected.setState {next : Nat} {up : Nat → Prop} (h : Disconnected next up s)
    (conn : Nat) (state : ConnectionState) : Disconnected next up (s.setState conn state) :=
  h.of_same rfl rfl fun _ => id

theorem Disconnected.handleClose {next : Nat} {up : Nat → Prop} (h : Disconnected next up s)
    (conn : Nat) : Disconnected next up (s.handleClose conn) := by
  unfold TcpClient.handleClose
  split
  · exact h
  · split
    · exact h
    · exact (h.setState conn .disconnected).of_same rfl rfl (by simp)

theorem Disconnected.connectDestroyed {next : Nat} {up : Nat → Prop} (h : Disconnected next up s)
    (conn : Nat) : Disconnected next up (s.connectDestroyed conn) := by
  unfold TcpClient.connectDestroyed
  split
  · exact h
  · split
    · exact (h.setState conn .disconnected).of_same rfl rfl (by simp)
    · exact h

/-- `Disconnect`; only the state of the connection may change besides the flag. -/
theorem disconnected_disconnect (s : TcpClient) :
    Disconnected s.nextConnectionId (fun conn => .connectionUp conn ∈ s.stack) s.disconnect := by
  have hoff : Disconnected s.nextConnectionId (fun conn => .connectionUp conn ∈ s.stack)
      { s with connect := false } := ⟨rfl, rfl, fun _ => id⟩
  unfold TcpClient.disconnect
  dsimp only
  split
  · split
    · exact hoff.setState _ .disconnecting
    · exact hoff
  · exact hoff

/-- Both ways to say that no connection is wanted. -/
theorem disconnected_of_stop (hstop : l = .disconnect ∨ l = .stop) (hstep : s.step l = some s') :
    Disconnected s.nextConnectionId (fun conn => .connectionUp conn ∈ s.stack) s' := by
  rcases hstop with rfl | rfl
  · simp only [TcpClient.step, Option.ite_none_right_eq_some, Option.some.injEq] at hstep
    obtain ⟨-, rfl⟩ := hstep
    exact disconnected_disconnect s
  · simp only [TcpClient.step, Option.ite_none_right_eq_some, Option.map_eq_some_iff] at hstep
    obtain ⟨-, c, -, rfl⟩ := hstep
    exact ⟨rfl, rfl, fun _ => id⟩

theorem Disconnected.resume {next : Nat} {up : Nat → Prop} (h : Disconnected next up s)
    {outcome : ConnectOutcome} (hstep : s.step (.resume outcome) = some s') :
    Disconnected next up s' := by
  have hpopped : ∀ {frame stack}, s.stack = frame :: stack → ∀ c,
      Disconnected next up { s with stack := stack, connector := c } := by
    intro frame stack hstack c
    refine h.of_same rfl rfl fun conn hmem => ?_
    rw [hstack]
    exact List.mem_cons_of_mem _ hmem
  simp only [TcpClient.step] at hstep
  split at hstep
  · cases hstep
  · next hstack =>
    cases hstep
    exact hpopped hstack _
  · next hstack =>
    cases hstep
    exact hpopped hstack _
  · next hstack =>
    cases hstep
    exact hpopped hstack _
  · next conn stack hstack =>
    split at hstep
    · cases hstep
      exact (hpopped hstack _).removeConnection conn outcome
    · cases hstep
      exact hpopped hstack _
  · next hstack =>
    cases hstep
    exact (hpopped hstack s.connector).of_same rfl rfl fun _ => id
  · next fd socketError stack hstack =>
    simp only [Option.ite_none_right_eq_some, Option.map_eq_some_iff] at hstep
    obtain ⟨-, ⟨c, call⟩, -, rfl⟩ := hstep
    exact (hpopped hstack c).deliver call

/-- Unless it is a call of `Connect`, a step reports no connection up. -/
theorem Disconnected.step {next : Nat} {up : Nat → Prop} (h : Disconnected next up s)
    (hl : ∀ outcome, l ≠ .connect outcome) (hstep : s.step l = some s') : Disconnected next up s' := by
  cases l with
  | connect outcome => exact absurd rfl (hl outcome)
  | disconnect =>
    have hoff := disconnected_of_stop (.inl rfl) hstep
    exact ⟨hoff.connect, hoff.next.trans h.next, fun conn hmem => h.up conn (hoff.up conn hmem)⟩
  | stop =>
    have hoff := disconnected_of_stop (.inr rfl) hstep
    exact ⟨hoff.connect, hoff.next.trans h.next, fun conn hmem => h.up conn (hoff.up conn hmem)⟩
  | close conn =>
    simp only [TcpClient.step, Option.ite_none_right_eq_some, Option.some.injEq] at hstep
    obtain ⟨-, rfl⟩ := hstep
    exact h.handleClose conn
  | resume outcome => exact h.resume hstep
  | writable socketError =>
    simp only [TcpClient.step, Option.ite_none_right_eq_some, Option.map_eq_some_iff] at hstep
    obtain ⟨-, ⟨c, call⟩, -, rfl⟩ := hstep
    have hworked : Disconnected next up { s with connector := c } := h.of_same rfl rfl fun _ => id
    exact hworked.deliver call
  | error text write =>
    simp only [TcpClient.step, Option.ite_none_right_eq_some, Option.bind_eq_some_iff,
      Option.map_eq_some_iff] at hstep
    obtain ⟨-, channel, -, ⟨c, call⟩, -, rfl⟩ := hstep
    have hworked : Disconnected next up
        { s with connector := c, stack := write.toList.map (.write channel.fd ·) } :=
      h.of_same rfl rfl (by simp)
    exact hworked.deliver call
  | retryTimer timer outcome =>
    simp only [TcpClient.step, Option.ite_none_right_eq_some, Option.some.injEq] at hstep
    obtain ⟨-, rfl⟩ := hstep
    have hworked : Disconnected next up { s with connector := (s.connector.fire timer outcome).1 } :=
      h.of_same rfl rfl fun _ => id
    exact hworked.deliver _
  | resetChannel =>
    simp only [TcpClient.step, Option.ite_none_right_eq_some, Option.some.injEq] at hstep
    obtain ⟨-, rfl⟩ := hstep
    exact h.of_same rfl rfl fun _ => id
  | connectDestroyed =>
    simp only [TcpClient.step] at hstep
    split at hstep
    · cases hstep
      apply Disconnected.connectDestroyed
      exact h.of_same rfl rfl fun _ => id
    · cases hstep

/-- Behind `Disconnect` or `Stop`, and until the next `Connect`, no connection is reported up. Behind
`Connector::Stop`, and until the next `Start`, no attempt is started and no socket is handed over. -/
theorem stop_final :
    (∀ (ip : String) (policy : ReconnectPolicy) (before : List ClientStep) (l : ClientStep)
        (after : List ClientStep) (s₀ s₁ s : TcpClient),
      (start ip policy).run before = some s₀ → (l = .disconnect ∨ l = .stop) →
      s₀.step l = some s₁ → s₁.run after = some s → (∀ outcome, .connect outcome ∉ after) →
      s.nextConnectionId = s₁.nextConnectionId ∧
        ∀ conn, .connectionUp conn ∈ s.stack → .connectionUp conn ∈ s₁.stack) ∧
    ∀ (ip : String) (policy : ReconnectPolicy) (newConnectionCallback errorCallback : Bool)
        (before : List ConnectorStep) (l : ConnectorStep) (after : List ConnectorStep)
        (c₀ c₁ c : ConnectorLoop),
      (ConnectorLoop.start ip policy newConnectionCallback errorCallback).run before = some c₀ →
      ConnectorLoop.stops l = true → c₀.step l = some c₁ → c₁.run after = some c →
      (∀ l ∈ after, ConnectorLoop.starts l = false) →
      Transition.count ConnectorLoop.step ConnectorLoop.connects c₁ after = 0 ∧
        c.handed = c₁.handed ∧ c.connector.nextFd = c₁.connector.nextFd := by
  constructor
  · intro ip policy before l after s₀ s₁ s _ hl hstep hrun hconnect
    have hoff : Disconnected s₁.nextConnectionId (fun conn => .connectionUp conn ∈ s₁.stack) s₁ :=
      ⟨(disconnected_of_stop hl hstep).connect, rfl, fun _ => id⟩
    have hnot : ∀ l ∈ after, ∀ outcome, l ≠ .connect outcome := by
      rintro l hmem outcome rfl
      exact hconnect outcome hmem
    have hend := Transition.invariant_run (C := fun _ l => ∀ outcome, l ≠ .connect outcome)
      (fun _ _ _ h hl hstep => Disconnected.step h hl hstep) hoff
      (Transition.meets_of_forall_mem fun _ => hnot) hrun
    exact ⟨hend.next, hend.up⟩
  · intro ip policy newConnectionCallback errorCallback before l after c₀ c₁ c _ hl hstep hrun hstart
    have hoff : ConnectorLoop.Stopped c₁.connector.nextFd c₁.handed c₁ :=
      ⟨(ConnectorLoop.stopped_of_stop hl hstep).connect, rfl, rfl⟩
    exact hoff.run hstart hrun

/-- The client is disconnected, and the connector is stopped, while a retry is in progress; it
succeeds all the same. -/
theorem stop_final_in_progress :
    (∃ s₁ s, (start "127.0.0.1" {}).run [.connect (.fails "refused"), .resume .established,
        .retryTimer 0 .inProgress, .disconnect] = some s₁ ∧
      s₁.run [.writable none, .resetChannel] = some s ∧ s.connector.closed = [1, 0] ∧
      s.nextConnectionId = s₁.nextConnectionId) ∧
    ∃ c₁ c, (ConnectorLoop.start "127.0.0.1" {} true true).run [.start (.fails "refused"), .resume,
        .retryTimer 0 .inProgress, .remoteStop] = some c₁ ∧
      c₁.run [.writable none, .runFunctor 0 .inProgress, .resetChannel] = some c ∧
      c.connector.closed = [1, 0] ∧ c.handed = c₁.handed := by
  refine ⟨⟨_, _, rfl, rfl, rfl, ?_⟩, ⟨_, _, rfl, rfl, rfl, ?_⟩⟩
  · exact (stop_final.1 "127.0.0.1" {} [.connect (.fails "refused"), .resume .established,
      .retryTimer 0 .inProgress] .disconnect [.writable none, .resetChannel] _ _ _ rfl (.inl rfl)
      rfl rfl (by simp)).1
  · exact (stop_final.2 "127.0.0.1" {} true true [.start (.fails "refused"), .resume,
      .retryTimer 0 .inProgress] .remoteStop
      [.writable none, .runFunctor 0 .inProgress, .resetChannel] _ _ _ rfl rfl rfl rfl
      (by decide)).2.1

end TcpClient

end NebulaRpc.Net
