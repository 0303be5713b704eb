import NebulaRpc.Library.Transition
import NebulaRpc.Net.Connector

/-!
# The attempts of a connector

A connector on its loop. `Start`, `Stop` and `Restart` are called on the loop thread, also inside of
the callbacks of the connector, or on another thread, where they post a functor. What the kernel
answers to a `connect` and the order in which functors run are free.

The channel of an attempt is destroyed by a functor that does not remember which channel it is for.
As long as no attempt is begun while such a functor is queued, the connector has a socket exactly
while it is connecting, the poller knows its channel exactly then, and every socket is closed or
handed over once.
-/

namespace NebulaRpc.Net

/-- What another thread has posted. -/
inductive ConnectorFunctor where
  | startInLoop
  | stopInLoop
  | restartInLoop
  deriving DecidableEq

/-- A handler that waits on the stack. -/
inductive ConnectorFrame where
  /-- in `new_connection_callback_` -/
  | newConnection (fd : Nat)
  /-- in `error_callback_`; `ScheduleReconnect` is still to come -/
  | error (reason : String)
  /-- in `HandleEvent` of the channel, with `HandleWrite` still to come -/
  | write (fd : Nat) (socketError : Option String)

/-- User code runs on top of the handler. -/
def ConnectorFrame.userCode : ConnectorFrame → Bool
  | .newConnection _ | .error _ => true
  | .write .. => false

structure ConnectorLoop where
  connector : Connector := {}
  functors : List ConnectorFunctor := []
  stack : List ConnectorFrame := []
  /-- the sockets that the new-connection callback was given -/
  handed : List Nat := []

inductive ConnectorStep where
  | start (outcome : ConnectOutcome)
  | stop
  | restart (outcome : ConnectOutcome)
  | remoteStart
  | remoteStop
  | remoteRestart
  | runFunctor (index : Nat) (outcome : ConnectOutcome)
  | resetChannel
  | writable (socketError : Option String)
  /-- an error event, and whether the same event also reports the socket writable -/
  | error (text : String) (write : Option (Option String))
  | retryTimer (timer : Nat) (outcome : ConnectOutcome)
  /-- a callback returns, or `HandleEvent` goes on -/
  | resume

namespace ConnectorLoop

def userCode (s : ConnectorLoop) : Bool := (s.stack.head?.map ConnectorFrame.userCode).getD true

/-- The connector has worked, and calls its owner. -/
def deliver (s : ConnectorLoop) : Connector × Option ConnectorCall → ConnectorLoop
  | (c, none) => { s with connector := c }
  | (c, some (.newConnection fd)) =>
    { s with connector := c, handed := fd :: s.handed, stack := .newConnection fd :: s.stack }
  | (c, some (.error reason)) => { s with connector := c, stack := .error reason :: s.stack }

def perform (s : ConnectorLoop) (outcome : ConnectOutcome) : ConnectorFunctor → Option ConnectorLoop
  | .startInLoop => some (s.deliver (s.connector.startInLoop outcome))
  | .stopInLoop => s.connector.stopInLoop.map fun c => { s with connector := c }
  | .restartInLoop => some (s.deliver (s.connector.restartInLoop outcome))

/-- `connect_` is written at once, the rest of the call is a functor. -/
def post (s : ConnectorLoop) (connect : Bool) (functor : ConnectorFunctor) : ConnectorLoop :=
  { s with
    connector := { s.connector with connect := connect }
    functors := s.functors ++ [functor] }

def step (s : ConnectorLoop) : ConnectorStep → Option ConnectorLoop
  | .start outcome => if s.userCode then some (s.deliver (s.connector.start outcome)) else none
  | .stop =>
    if s.userCode then s.connector.stop.map fun c => { s with connector := c } else none
  | .restart outcome =>
    if s.userCode then some (s.deliver (s.connector.restartInLoop outcome)) else none
  | .remoteStart => some (s.post true .startInLoop)
  | .remoteStop => some (s.post false .stopInLoop)
  | .remoteRestart => some (s.post s.connector.connect .restartInLoop)
  | .runFunctor index outcome =>
    if s.stack.isEmpty then
      s.functors[index]?.bind fun functor =>
        { s with functors := s.functors.eraseIdx index }.perform outcome functor
    else none
  | .resetChannel =>
    if s.stack.isEmpty && s.connector.pendingResets ≠ 0 then
      some { s with connector := s.connector.resetChannel }
    else none
  | .writable socketError =>
    if s.stack.isEmpty && s.connector.channel.isSome then
      (s.connector.handleWrite socketError).map s.deliver
    else none
  | .error text write =>
    if s.stack.isEmpty then
      s.connector.channel.bind fun channel =>
        (s.connector.handleError text).map
          { s with stack := write.toList.map (.write channel.fd ·) }.deliver
    else none
  | .retryTimer timer outcome =>
    if s.stack.isEmpty && timer ∈ s.connector.timers.map (·.1) then
      some (s.deliver (s.connector.fire timer outcome))
    else none
  | .resume =>
    match s.stack with
    | [] => none
    | .newConnection _ :: stack => some { s with stack := stack }
    | .error _ :: stack =>
      some { s with stack := stack, connector := s.connector.scheduleReconnect }
    | .write fd socketError :: stack =>
      -- the channel in whose `HandleEvent` this is must not have been destroyed
      if s.connector.channel.map (·.fd) = some fd then
        (s.connector.handleWrite socketError).map { s with stack := stack }.deliver
      else none

/-- The state behind a list of steps. -/
def run (s : ConnectorLoop) (steps : List ConnectorStep) : Option ConnectorLoop :=
  Transition.run step s steps

/-- A connector that has just been constructed. -/
def start (ip : String) (policy : ReconnectPolicy) (newConnectionCallback errorCallback : Bool) :
    ConnectorLoop :=
  { connector :=
      { ip := ip, reconnectPolicy := policy, newConnectionCallback := newConnectionCallback,
        errorCallback := errorCallback } }

end ConnectorLoop

/-! ## Where the sockets are -/

namespace Connector

variable {c c' : Connector} {handed : List Nat}

/-- `StartInLoop` gets to `Connecting`. -/
def attempts (c : Connector) (outcome : ConnectOutcome) : Bool :=
  c.connect && c.state = .disconnected && outcome matches .inProgress

/-- Every socket is closed, handed over or in hand. -/
def Accounted (c : Connector) (handed inHand : List Nat) : Prop :=
  ∀ fd, c.closed.count fd + handed.count fd + inHand.count fd = if fd < c.nextFd then 1 else 0

/-- The connector has no socket, and the poller knows no channel of it. -/
structure Detached (c : Connector) : Prop where
  socketFd : c.socketFd = none
  channel : ∀ channel, c.channel = some channel → channel.registered = false

/-- The attempt of a connector that is connecting. -/
structure Attempting (c : Connector) (fd : Nat) : Prop where
  state : c.state = .connecting
  socketFd : c.socketFd = some fd
  channel : c.channel = some ⟨fd, true⟩
  pendingResets : c.pendingResets = 0

/-- The connector is connecting, with the one socket that is in hand, or it is not. -/
def Consistent (c : Connector) (handed : List Nat) : Prop :=
  (∃ fd, c.Attempting fd ∧ c.Accounted handed [fd]) ∨
    c.state ≠ .connecting ∧ c.Detached ∧ c.Accounted handed []

/-- The sockets that a call hands over. -/
def handedOver : Option ConnectorCall → List Nat
  | some (.newConnection fd) => [fd]
  | _ => []

theorem Accounted.close {fd : Nat} (h : c.Accounted handed [fd]) :
    (c.close fd).Accounted handed [] := by
  intro fd'
  have hfd := h fd'
  change (fd :: c.closed).count fd' + handed.count fd' + 0 = if fd' < c.nextFd then 1 else 0
  simp only [List.count_cons, List.count_nil] at hfd ⊢
  omega

theorem Accounted.hand {fd : Nat} (h : c.Accounted handed [fd]) : c.Accounted (fd :: handed) [] := by
  intro fd'
  have hfd := h fd'
  simp only [List.count_cons, List.count_nil] at hfd ⊢
  omega

/-- A socket is created. -/
theorem Accounted.create (h : c.Accounted handed []) :
    { c with nextFd := c.nextFd + 1 }.Accounted handed [c.nextFd] := by
  intro fd
  have hfd := h fd
  simp only [List.count_nil, List.count_singleton, beq_iff_eq] at hfd ⊢
  split at hfd <;> split <;> split <;> omega

theorem Consistent.congr (h : c.Consistent handed) (hstate : c'.state = c.state)
    (hfd : c'.socketFd = c.socketFd) (hchannel : c'.channel = c.channel)
    (hresets : c'.pendingResets = c.pendingResets) (hclosed : c'.closed = c.closed)
    (hnext : c'.nextFd = c.nextFd) : c'.Consistent handed := by
  have haccounted : ∀ inHand, c.Accounted handed inHand → c'.Accounted handed inHand := by
    intro inHand hin fd
    rw [hclosed, hnext]
    exact hin fd
  rcases h with ⟨fd, ⟨h₁, h₂, h₃, h₄⟩, hin⟩ | ⟨hnot, ⟨h₁, h₂⟩, hin⟩
  · refine .inl ⟨fd, ⟨?_, ?_, ?_, ?_⟩, haccounted _ hin⟩
    · rw [hstate, h₁]
    · rw [hfd, h₂]
    · rw [hchannel, h₃]
    · rw [hresets, h₄]
  · refine .inr ⟨?_, ⟨?_, ?_⟩, haccounted _ hin⟩
    · rw [hstate]
      exact hnot
    · rw [hfd, h₁]
    · rw [hchannel]
      exact h₂

theorem Consistent.scheduleReconnect (h : c.Consistent handed) :
    c.scheduleReconnect.Consistent handed := by
  unfold Connector.scheduleReconnect
  split
  · exact h
  · exact h.congr rfl rfl rfl rfl rfl rfl

theorem Consistent.cancelReconnect (h : c.Consistent handed) :
    c.cancelReconnect.Consistent handed := by
  rw [cancelReconnect_eq]
  exact h.congr rfl rfl rfl rfl rfl rfl

theorem consistent_reportError (hdetached : c.Detached) (h : c.Accounted handed [])
    (reason : String) : (c.reportError reason).1.Consistent
      (handedOver (c.reportError reason).2 ++ handed) := by
  have hreported : { c with state := .disconnected }.Consistent handed :=
    .inr ⟨by simp, ⟨hdetached.socketFd, hdetached.channel⟩, h⟩
  unfold Connector.reportError
  dsimp only
  split
  · exact hreported
  · exact hreported.scheduleReconnect

theorem consistent_handOver {fd : Nat} (hdetached : c.Detached) (h : c.Accounted handed [fd]) :
    (c.handOver fd).1.Consistent (handedOver (c.handOver fd).2 ++ handed) := by
  unfold Connector.handOver
  dsimp only
  split
  · exact .inr ⟨by simp, ⟨hdetached.socketFd, hdetached.channel⟩, h.hand⟩
  · exact .inr ⟨by simp, ⟨hdetached.socketFd, hdetached.channel⟩, h.close⟩

theorem consistent_connectInLoop (hdetached : c.Detached) (h : c.Accounted handed [])
    {outcome : ConnectOutcome} (hresets : outcome = .inProgress → c.pendingResets = 0) :
    (c.connectInLoop outcome).1.Consistent (handedOver (c.connectInLoop outcome).2 ++ handed) := by
  have hcreated := h.create
  cases outcome with
  | createFails what => exact consistent_reportError hdetached h what
  | invalidAddress =>
    apply consistent_reportError
    · exact ⟨hdetached.socketFd, hdetached.channel⟩
    · exact hcreated.close
  | established =>
    simp only [Connector.connectInLoop]
    split
    · exact .inr ⟨by simp, ⟨hdetached.socketFd, hdetached.channel⟩, hcreated.close⟩
    · apply consistent_handOver
      · exact ⟨hdetached.socketFd, hdetached.channel⟩
      · exact hcreated
  | inProgress => exact .inl ⟨c.nextFd, ⟨rfl, rfl, rfl, hresets rfl⟩, hcreated⟩
  | fails text =>
    apply consistent_reportError
    · exact ⟨hdetached.socketFd, hdetached.channel⟩
    · exact hcreated.close

theorem Consistent.startInLoop (h : c.Consistent handed) {outcome : ConnectOutcome}
    (hresets : c.attempts outcome = true → c.pendingResets = 0) :
    (c.startInLoop outcome).1.Consistent (handedOver (c.startInLoop outcome).2 ++ handed) := by
  unfold Connector.startInLoop
  split
  · next hguard =>
    have heq := cancelReconnect_eq c
    have hcancelled := h.cancelReconnect
    simp only [Bool.and_eq_true, decide_eq_true_eq] at hguard
    rcases hcancelled with ⟨fd, hattempting, -⟩ | ⟨-, hdetached, hin⟩
    · have hstate := hattempting.state
      rw [heq] at hstate
      cases hguard.2.symm.trans hstate
    · apply consistent_connectInLoop hdetached hin
      rintro rfl
      rw [heq]
      exact hresets (by simp [attempts, hguard])
  · exact h

/-- An attempt ends: its socket is in hand and its channel waits for its release. -/
theorem Attempting.remove {fd : Nat} (h : c.Attempting fd) :
    c.removeAndResetChannel = some (fd, { c with
      channel := some ⟨fd, false⟩
      pendingResets := c.pendingResets + 1 }) := by
  simp [removeAndResetChannel, h.channel]

theorem Consistent.stopInLoop (h : c.Consistent handed) (hstop : c.stopInLoop = some c') :
    c'.Consistent handed := by
  have hcancelled := h.cancelReconnect
  unfold Connector.stopInLoop at hstop
  dsimp only at hstop
  generalize c.cancelReconnect = d at hcancelled hstop
  split at hstop
  · cases hstop
    exact hcancelled
  · next hconnecting =>
    simp only [ne_eq, Decidable.not_not] at hconnecting
    rcases hcancelled with ⟨fd, hattempting, hin⟩ | ⟨hnot, -⟩
    · rw [hattempting.remove] at hstop
      cases hstop
      refine .inr ⟨by simp, ⟨rfl, fun channel heq => ?_⟩, hin.close⟩
      cases heq
      rfl
    · exact absurd hconnecting hnot

theorem Consistent.handleWrite (h : c.Consistent handed) {socketError : Option String}
    {result : Connector × Option ConnectorCall}
    (hwrite : c.handleWrite socketError = some result) :
    result.1.Consistent (handedOver result.2 ++ handed) := by
  unfold Connector.handleWrite at hwrite
  split at hwrite
  · cases hwrite
    exact h
  · next hconnecting =>
    simp only [ne_eq, Decidable.not_not] at hconnecting
    rcases h with ⟨fd, hattempting, hin⟩ | ⟨hnot, -⟩
    · have hchannel : ∀ channel : ConnectorChannel, some ⟨fd, false⟩ = some channel →
          channel.registered = false := by
        rintro channel ⟨⟩
        rfl
      rw [hattempting.remove] at hwrite
      cases socketError with
      | some text =>
        cases hwrite
        apply consistent_reportError
        · exact ⟨rfl, hchannel⟩
        · exact hin.close
      | none =>
        simp only [Option.map_some, Option.some.injEq] at hwrite
        split at hwrite
        · cases hwrite
          exact .inr ⟨ConnectorState.noConfusion, ⟨rfl, hchannel⟩, hin.close⟩
        · cases hwrite
          exact consistent_handOver ⟨rfl, hchannel⟩ hin
    · exact absurd hconnecting hnot

theorem Consistent.handleError (h : c.Consistent handed) {text : String}
    {result : Connector × Option ConnectorCall} (herror : c.handleError text = some result) :
    result.1.Consistent (handedOver result.2 ++ handed) := by
  unfold Connector.handleError at herror
  split at herror
  · cases herror
    exact h
  · next hconnecting =>
    simp only [ne_eq, Decidable.not_not] at hconnecting
    rcases h with ⟨fd, hattempting, hin⟩ | ⟨hnot, -⟩
    · rw [hattempting.remove] at herror
      cases herror
      apply consistent_reportError
      · refine ⟨rfl, ?_⟩
        rintro channel ⟨⟩
        rfl
      · exact hin.close
    · exact absurd hconnecting hnot

theorem Consistent.resetChannel (h : c.Consistent handed) (hresets : c.pendingResets ≠ 0) :
    c.resetChannel.Consistent handed := by
  rcases h with ⟨fd, hattempting, -⟩ | ⟨hnot, hdetached, hin⟩
  · exact absurd hattempting.pendingResets hresets
  · exact .inr ⟨hnot, ⟨hdetached.socketFd, by simp [Connector.resetChannel]⟩, hin⟩

theorem Consistent.restartInLoop (h : c.Consistent handed) {outcome : ConnectOutcome}
    (hresets : c.state = .connected → { c with state := .disconnected }.attempts outcome = true →
      c.pendingResets = 0) :
    (c.restartInLoop outcome).1.Consistent (handedOver (c.restartInLoop outcome).2 ++ handed) := by
  unfold Connector.restartInLoop
  split
  · exact h
  · next hconnected =>
    simp only [ne_eq, Decidable.not_not] at hconnected
    rcases h with ⟨fd, hattempting, -⟩ | ⟨-, hdetached, hin⟩
    · cases hconnected.symm.trans hattempting.state
    · have hdown : { c with state := .disconnected }.Consistent handed :=
        .inr ⟨by simp, ⟨hdetached.socketFd, hdetached.channel⟩, hin⟩
      exact hdown.startInLoop (hresets hconnected)

end Connector

namespace ConnectorLoop

variable {s s' : ConnectorLoop} {l : ConnectorStep}

/-- No attempt that stays in progress is begun while a `ResetChannel` is queued. -/
def AttemptsReset (s : ConnectorLoop) : ConnectorStep → Prop
  | .start outcome =>
    { s.connector with connect := true }.attempts outcome = true → s.connector.pendingResets = 0
  | .restart outcome => s.connector.state = .connected →
    { s.connector with state := .disconnected }.attempts outcome = true →
      s.connector.pendingResets = 0
  | .retryTimer _ outcome => s.connector.attempts outcome = true → s.connector.pendingResets = 0
  | .runFunctor index outcome =>
    (s.functors[index]? = some .startInLoop → s.connector.attempts outcome = true →
      s.connector.pendingResets = 0) ∧
    (s.functors[index]? = some .restartInLoop → s.connector.state = .connected →
      { s.connector with state := .disconnected }.attempts outcome = true →
        s.connector.pendingResets = 0)
  | _ => True

instance (s : ConnectorLoop) (l : ConnectorStep) : Decidable (AttemptsReset s l) := by
  cases l <;> unfold AttemptsReset <;> infer_instance

theorem consistent_deliver {result : Connector × Option ConnectorCall}
    (h : result.1.Consistent (Connector.handedOver result.2 ++ s.handed)) :
    (s.deliver result).connector.Consistent (s.deliver result).handed := by
  rcases result with ⟨c, _ | ⟨fd⟩ | reason⟩
  · exact h
  · exact h
  · exact h

theorem consistent_step (h : s.connector.Consistent s.handed) (hreset : AttemptsReset s l)
    (hstep : s.step l = some s') : s'.connector.Consistent s'.handed := by
  cases l with
  | start outcome =>
    simp only [ConnectorLoop.step, Option.ite_none_right_eq_some] at hstep
    obtain ⟨-, hstep⟩ := hstep
    cases hstep
    have hstart : { s.connector with connect := true }.Consistent s.handed :=
      h.congr rfl rfl rfl rfl rfl rfl
    exact consistent_deliver (hstart.startInLoop hreset)
  | stop =>
    simp only [ConnectorLoop.step, Option.ite_none_right_eq_some, Option.map_eq_some_iff] at hstep
    obtain ⟨-, c, hstop, rfl⟩ := hstep
    have hoff : { s.connector with connect := false }.Consistent s.handed :=
      h.congr rfl rfl rfl rfl rfl rfl
    exact hoff.stopInLoop hstop
  | restart outcome =>
    simp only [ConnectorLoop.step, Option.ite_none_right_eq_some] at hstep
    obtain ⟨-, hstep⟩ := hstep
    cases hstep
    exact consistent_deliver (h.restartInLoop hreset)
  | remoteStart | remoteStop | remoteRestart =>
    cases hstep
    exact h.congr rfl rfl rfl rfl rfl rfl
  | runFunctor index outcome =>
    simp only [ConnectorLoop.step, Option.ite_none_right_eq_some, Option.bind_eq_some_iff] at hstep
    obtain ⟨-, functor, hget, hstep⟩ := hstep
    cases functor with
    | startInLoop =>
      cases hstep
      exact consistent_deliver (h.startInLoop (hreset.1 hget))
    | stopInLoop =>
      obtain ⟨c, hstop, rfl⟩ := Option.map_eq_some_iff.mp hstep
      exact h.stopInLoop hstop
    | restartInLoop =>
      cases hstep
      exact consistent_deliver (h.restartInLoop (hreset.2 hget))
  | resetChannel =>
    simp only [ConnectorLoop.step, Option.ite_none_right_eq_some, Bool.and_eq_true,
      decide_eq_true_eq] at hstep
    obtain ⟨⟨-, hresets⟩, hstep⟩ := hstep
    cases hstep
    exact h.resetChannel hresets
  | writable socketError =>
    simp only [ConnectorLoop.step, Option.ite_none_right_eq_some, Option.map_eq_some_iff] at hstep
    obtain ⟨-, result, hwrite, rfl⟩ := hstep
    exact consistent_deliver (h.handleWrite hwrite)
  | error text write =>
    simp only [ConnectorLoop.step, Option.ite_none_right_eq_some, Option.bind_eq_some_iff,
      Option.map_eq_some_iff] at hstep
    obtain ⟨-, channel, -, result, herror, rfl⟩ := hstep
    exact consistent_deliver (h.handleError herror)
  | retryTimer timer outcome =>
    simp only [ConnectorLoop.step, Option.ite_none_right_eq_some] at hstep
    obtain ⟨-, hstep⟩ := hstep
    cases hstep
    have hfired : { s.connector with
        timers := s.connector.timers.filter (·.1 ≠ timer) }.Consistent s.handed :=
      h.congr rfl rfl rfl rfl rfl rfl
    exact consistent_deliver (hfired.startInLoop hreset)
  | resume =>
    rcases hstack : s.stack with _ | ⟨_ | _ | ⟨fd, socketError⟩, stack⟩
    · simp [ConnectorLoop.step, hstack] at hstep
    · simp only [ConnectorLoop.step, hstack, Option.some.injEq] at hstep
      subst hstep
      exact h
    · simp only [ConnectorLoop.step, hstack, Option.some.injEq] at hstep
      subst hstep
      exact h.scheduleReconnect
    · simp only [ConnectorLoop.step, hstack, Option.ite_none_right_eq_some,
        Option.map_eq_some_iff] at hstep
      obtain ⟨-, result, hwrite, rfl⟩ := hstep
      exact consistent_deliver (h.handleWrite hwrite)

/-- The connector is connecting exactly while it has a socket, and then the poller knows the channel
of that socket; a queued `ResetChannel` finds no channel that the poller knows; and every socket that
was created is the one being connected, or was closed once, or was handed over once. -/
structure AttemptConsistent (s : ConnectorLoop) : Prop where
  connecting : s.connector.state = .connecting ↔ s.connector.socketFd ≠ none
  channel : ∀ fd, s.connector.socketFd = some fd → s.connector.channel = some ⟨fd, true⟩
  reset : s.connector.pendingResets ≠ 0 → ∀ channel, s.connector.channel = some channel →
    channel.registered = false
  fds : ∀ fd < s.connector.nextFd, s.connector.closed.count fd + s.handed.count fd =
    if s.connector.socketFd = some fd then 0 else 1

theorem attemptConsistent_of_consistent (h : s.connector.Consistent s.handed) :
    AttemptConsistent s := by
  rcases h with ⟨fd, ⟨hstate, hfd, hchannel, hresets⟩, hin⟩ | ⟨hnot, ⟨hfd, hchannel⟩, hin⟩
  · refine ⟨by simp [hstate, hfd], fun fd' heq => ?_, fun hne => absurd hresets hne,
      fun fd' hlt => ?_⟩
    · rw [hfd] at heq
      cases heq
      exact hchannel
    · have hcount := hin fd'
      simp only [hlt, if_true, List.count_singleton, beq_iff_eq] at hcount
      simp only [hfd, Option.some.injEq]
      split at hcount <;> simp_all
  · refine ⟨by simp [hnot, hfd], fun fd' heq => by simp [hfd] at heq, fun _ => hchannel,
      fun fd' hlt => ?_⟩
    have hcount := hin fd'
    simpa [hlt, hfd] using hcount

/-- In every run in which no attempt is begun while a `ResetChannel` is queued, the attempt state of
the connector is consistent. -/
theorem attempt_consistent (ip : String) (policy : ReconnectPolicy)
    (newConnectionCallback errorCallback : Bool) (steps : List ConnectorStep) (s : ConnectorLoop)
    (hreset : Transition.Meets step AttemptsReset
      (start ip policy newConnectionCallback errorCallback) steps)
    (hrun : (start ip policy newConnectionCallback errorCallback).run steps = some s) :
    AttemptConsistent s := by
  apply attemptConsistent_of_consistent
  refine Transition.invariant_run (I := fun s => s.connector.Consistent s.handed)
    (fun _ _ _ hI hC hstep => consistent_step hI hC hstep) ?_ hreset hrun
  refine .inr ⟨by simp [ConnectorLoop.start], ⟨rfl, by simp [ConnectorLoop.start]⟩, fun fd => ?_⟩
  simp [ConnectorLoop.start]

/-- A first attempt fails, the retry succeeds, and the connection is lost again. -/
def reconnected : List ConnectorStep :=
  [.start .inProgress, .error "refused" none, .resume, .resetChannel, .retryTimer 0 .inProgress,
    .writable none, .resume, .resetChannel, .restart .inProgress]

theorem attempt_consistent_reconnected :
    ∃ s, (start "127.0.0.1" {} true true).run reconnected = some s ∧ s.handed = [1] ∧
      s.connector.closed = [0] ∧ s.connector.socketFd = some 2 ∧ AttemptConsistent s :=
  ⟨_, rfl, rfl, rfl, rfl,
    attempt_consistent "127.0.0.1" {} true true reconnected _ (by decide) rfl⟩

/-- `Stop` and `Start` before the loop has run the functor of the first attempt: the functor destroys
the channel of the second one, which the poller still knows. -/
theorem reset_destroys_new_channel :
    (∃ s, (start "127.0.0.1" {} true true).run [.start .inProgress, .stop, .start .inProgress] =
      some s ∧ ¬AttemptConsistent s) ∧
    ∃ s, (start "127.0.0.1" {} true true).run
        [.start .inProgress, .stop, .start .inProgress, .resetChannel] = some s ∧
      s.connector.state = .connecting ∧ s.connector.channel.isNone ∧ ¬AttemptConsistent s := by
  refine ⟨⟨_, rfl, fun h => ?_⟩, ⟨_, rfl, rfl, rfl, fun h => ?_⟩⟩
  · cases h.reset Nat.one_ne_zero _ rfl
  · cases h.channel 1 rfl

end ConnectorLoop

end NebulaRpc.Net
