import NebulaRpc.Net.TcpServer
import NebulaRpc.Rpc.Subtraction

/-!
# The graceful stop

`RpcServer` with its `TcpServer` while it is stopped. `StopInLoop` sets `stopping_` and then reads
`in_flight_`; `OnCallsFinished` subtracts from `in_flight_` and then, if nothing is left, reads
`stopping_`. The base loop and the io loops take these steps in any order, one at a time: the atomic
operations are taken as sequentially consistent. What is posted to the base loop runs there later.
The grace timer may fire at any time.
-/

namespace NebulaRpc.Rpc

open Net

/-- Where the base loop is. -/
inductive StopControl where
  | idle
  /-- in `StopInLoop`, about to read `in_flight_` -/
  | stopping
  /-- in `CloseAllConnectionsInLoop`; called by the grace timer, or not -/
  | closing (timeout : Bool)
  deriving DecidableEq

inductive StopReason where
  | drained
  | timeout
  deriving DecidableEq

/-- What is posted to the base loop. -/
inductive StopFunctor where
  | stopInLoop
  | closeConnectionsInLoop
  deriving DecidableEq

structure StoppingServer where
  server : RpcServer := {}
  tcp : TcpServer := {}
  control : StopControl := .idle
  stopping : Bool := false
  connectionsClosed : Bool := false
  shutdownFinished : Bool := false
  /-- the grace timer is armed -/
  graceTimer : Bool := false
  /-- the loops that are in `OnCallsFinished`, behind a subtraction that has left nothing -/
  testing : List Nat := []
  queue : List StopFunctor := []
  /-- the runs of `shutdown_complete_callback_` -/
  completions : List StopReason := []
  /-- the grace timer has fired -/
  timedOut : Bool := false
  /-- the calls that had been dispatched when `stopping_` was set -/
  dispatchedBefore : List Nat := []
  /-- a loop was in `OnCallsFinished` when `stopping_` was set -/
  raced : Bool := false

inductive StoppingStep where
  | server (l : RpcServerStep)
  | tcp (l : ServerStep)
  /-- `Stop` on the base loop or on another thread -/
  | stop
  | remoteStop
  /-- `StopInLoop` reads `in_flight_` -/
  | testInFlight
  /-- `OnCallsFinished` reads `stopping_` -/
  | testStopping (index : Nat)
  /-- the next connection of `CloseAllConnectionsInLoop`, or its end; nothing is sent there, as every
  `Write` has been flushed -/
  | closeNext
  /-- the base loop runs the next of its functors -/
  | runNext
  | graceTimer

namespace RpcServer

/-- Calls are only added to those that have been dispatched and to those that have been
subtracted. -/
structure Grows (s s' : RpcServer) : Prop where
  dispatched : s.dispatched <+: s'.dispatched
  accounted : s.accounted <+: s'.accounted

variable {F : MetaFormat} {S : Services} {loopOf : Nat → Nat} {s s₁ s' : RpcServer}
  {l : RpcServerStep}

theorem Grows.refl (s : RpcServer) : Grows s s := ⟨List.prefix_rfl, List.prefix_rfl⟩

theorem Grows.after (h' : Grows s₁ s') (h : Grows s s₁) : Grows s s' :=
  ⟨h.dispatched.trans h'.dispatched, h.accounted.trans h'.accounted⟩

theorem grows_of_eq (hdispatched : s'.dispatched = s.dispatched)
    (haccounted : s'.accounted = s.accounted) : Grows s s' :=
  ⟨hdispatched ▸ List.prefix_rfl, haccounted ▸ List.prefix_rfl⟩

theorem grows_onCallsFinished (s : RpcServer) (count : Nat) (calls : List Nat) :
    Grows s (s.onCallsFinished count calls) := by
  unfold onCallsFinished
  split
  · exact .refl s
  · exact ⟨List.prefix_rfl, List.prefix_append _ _⟩

theorem grows_writeInLoop (s : RpcServer) (w : FrameWrite) : Grows s (s.writeInLoop w) := by
  unfold writeInLoop
  split
  · exact .refl s
  · dsimp only
    split
    · split <;> exact grows_of_eq rfl rfl
    · split
      · exact (grows_onCallsFinished _ _ _).after (grows_of_eq rfl rfl)
      · exact grows_of_eq rfl rfl

theorem grows_writesInLoop (s : RpcServer) (writes : List FrameWrite) :
    Grows s (s.writesInLoop writes) := by
  induction writes generalizing s with
  | nil => exact .refl s
  | cons w writes ih => exact (ih _).after (grows_writeInLoop s w)

theorem grows_closeScope (s : RpcServer) (id : Nat) : Grows s (s.closeScope id) := by
  unfold closeScope
  split
  · exact .refl s
  · split
    · dsimp only
      split
      · exact (grows_onCallsFinished _ _ _).after (grows_of_eq rfl rfl)
      · exact grows_of_eq rfl rfl
    · exact .refl s

theorem grows_step (hstep : s.step F S loopOf l = some s') : Grows s s' := by
  cases l with
  | onMessage conn =>
    simp only [RpcServer.step, Option.ite_none_right_eq_some] at hstep
    obtain ⟨-, hstep⟩ := hstep
    cases hstep
    exact grows_of_eq rfl rfl
  | frame loop frame =>
    obtain ⟨scope, -, rfl⟩ := Option.map_eq_some_iff.mp hstep
    unfold RpcServer.handleFrame
    dsimp only
    split
    · exact (grows_writesInLoop _ _).after (grows_of_eq rfl rfl)
    · exact ⟨List.prefix_append _ _, List.prefix_rfl⟩
  | close loop =>
    obtain ⟨scope, -, rfl⟩ := Option.map_eq_some_iff.mp hstep
    obtain ⟨hdispatched, haccounted⟩ := grows_closeScope s scope
    exact ⟨hdispatched, haccounted⟩
  | finishInLoop index ended =>
    obtain ⟨call, -, rfl⟩ := Option.map_eq_some_iff.mp hstep
    exact (grows_writesInLoop _ _).after (grows_of_eq rfl rfl)
  | finishElsewhere index ended =>
    obtain ⟨call, -, rfl⟩ := Option.map_eq_some_iff.mp hstep
    exact grows_of_eq rfl rfl
  | post index =>
    simp only [RpcServer.step] at hstep
    split at hstep
    · cases hstep
      exact grows_of_eq rfl rfl
    · cases hstep
  | runNext loop =>
    simp only [RpcServer.step, Option.ite_none_right_eq_some] at hstep
    obtain ⟨-, hstep⟩ := hstep
    obtain ⟨w, -, rfl⟩ := Option.map_eq_some_iff.mp hstep
    exact (grows_writeInLoop _ w).after (grows_of_eq rfl rfl)

/-- As long as the counter cannot overflow, it is zero only when nothing is outstanding. -/
theorem Balanced.inFlight_eq_zero_iff (h : Balanced s) (hcount : s.dispatched.length < 2 ^ 64) :
    s.inFlight = 0 ↔ s.dispatched.length = s.accounted.length := by
  have hle : s.accounted.length ≤ s.dispatched.length := by
    rw [h.partition.length_eq, List.length_append]
    omega
  have htotal := h.total
  constructor
  · intro hzero
    rw [hzero, UInt64.zero_add] at htotal
    have hnat := congrArg UInt64.toNat htotal
    rw [UInt64.toNat_ofNat_of_lt' hcount, UInt64.toNat_ofNat_of_lt' (lt_of_le_of_lt hle hcount)] at hnat
    exact hnat.symm
  · intro hlength
    rw [hlength] at htotal
    grind

theorem Balanced.accounted_of_inFlight (h : Balanced s) (hcount : s.dispatched.length < 2 ^ 64)
    (hzero : s.inFlight = 0) {n : Nat} (hn : n ∈ s.dispatched) : n ∈ s.accounted := by
  have hlength := (h.inFlight_eq_zero_iff hcount).mp hzero
  have hpartition := h.partition
  have hnil : s.outstanding = [] := by
    have hsum := hpartition.length_eq
    rw [List.length_append] at hsum
    exact List.length_eq_zero_iff.mp (by omega)
  rw [hnil, List.nil_append] at hpartition
  exact hpartition.mem_iff.mp hn

end RpcServer

namespace TcpServerStop

/-- `CloseAllConnections` has been called, and there are connections left or still to come. -/
def Under (t : TcpServer) : Prop :=
  t.closing = true ∧ t.allClosedCallback = true ∧ (t.shutting.isSome = true ∨ t.connections ≠ [])

/-- `CloseAllConnections` is not posted by another thread. -/
def Plain (t : TcpServer) : Prop :=
  ∀ p ∈ t.queue, ∀ callback, p.functor ≠ .closeAllConnectionsInLoop callback

/-- As long as connections are left the callback waits, and then it is called. -/
structure Continues (t t' : TcpServer) : Prop where
  plain : Plain t → Plain t'
  shutting : t'.shutting = t.shutting
  callbacks : t.callbacks ≤ t'.callbacks
  quiet : t.closing = false → t'.closing = false ∧ t'.callbacks = t.callbacks
  under : Under t → t.callbacks < t'.callbacks ∨ Under t'

variable {t t₁ t' : TcpServer} {conn : Nat}

theorem Continues.refl (t : TcpServer) : Continues t t :=
  ⟨id, rfl, le_rfl, fun h => ⟨h, rfl⟩, .inr⟩

theorem Continues.after (h' : Continues t₁ t') (h : Continues t t₁) : Continues t t' := by
  refine ⟨fun hplain => h'.plain (h.plain hplain), h'.shutting.trans h.shutting,
    h.callbacks.trans h'.callbacks, fun hquiet => ?_, fun hunder => ?_⟩
  · obtain ⟨hquiet₁, hsame⟩ := h.quiet hquiet
    exact ⟨(h'.quiet hquiet₁).1, (h'.quiet hquiet₁).2.trans hsame⟩
  · obtain hlt | hunder₁ := h.under hunder
    · exact .inl (lt_of_lt_of_le hlt h'.callbacks)
    · exact (h'.under hunder₁).imp_left (lt_of_le_of_lt h.callbacks)

theorem continues_post (t : TcpServer) (loop : Nat) {functor : ServerFunctor}
    (hfunctor : ∀ callback, functor ≠ .closeAllConnectionsInLoop callback) :
    Continues t (t.post loop functor) := by
  refine ⟨fun hplain p hp => ?_, rfl, le_rfl, fun h => ⟨h, rfl⟩, .inr⟩
  obtain hp | hp := List.mem_append.mp hp
  · exact hplain p hp
  · cases List.mem_singleton.mp hp
    exact hfunctor

theorem continues_setState (t : TcpServer) (conn : Nat) (state : ConnectionState) :
    Continues t (t.setState conn state) := ⟨id, rfl, le_rfl, fun h => ⟨h, rfl⟩, .inr⟩

theorem continues_shutdown (t : TcpServer) (inLoop : Bool) (conn : Nat) :
    Continues t (t.shutdown inLoop conn) := by
  unfold TcpServer.shutdown
  split
  · dsimp only
    split
    · exact continues_setState t conn .disconnecting
    · exact (continues_post _ _ (by simp)).after (continues_setState t conn .disconnecting)
  · exact .refl t

/-- The last connection is gone: the callback is called. -/
theorem continues_removeConnectionInLoop (t : TcpServer) (conn : Nat) :
    Continues t (t.removeConnectionInLoop conn) := by
  have hposted : Plain t → Plain (t.post (t.loop conn) (.connectDestroyed conn)) :=
    (continues_post t _ (by simp)).plain
  unfold TcpServer.removeConnectionInLoop TcpServer.checkAllClosed
  split
  · next hsame =>
    refine ⟨hposted, rfl, le_rfl, fun h => ⟨h, rfl⟩, fun hunder => .inr ⟨hunder.1, hunder.2.1, ?_⟩⟩
    have hclosing : t.closing = true := hunder.1
    have hne : t.connections.filter (· ≠ conn) ≠ [] := by
      simpa [TcpServer.post, hclosing] using hsame
    exact .inr hne
  · next hlast =>
    have hclosing : t.closing = true := by
      simp [TcpServer.post] at hlast
      exact hlast.1
    refine ⟨hposted, rfl, ?_, fun h => by simp [h] at hclosing, fun hunder => .inl ?_⟩
    · dsimp only
      split
      · exact Nat.le_succ _
      · exact le_rfl
    · have hcallback : t.allClosedCallback = true := hunder.2.1
      simp [TcpServer.post, hcallback]

theorem continues_handleClose (t : TcpServer) (conn : Nat) : Continues t (t.handleClose conn) := by
  unfold TcpServer.handleClose
  dsimp only
  split
  · exact ⟨id, rfl, le_rfl, fun h => ⟨h, rfl⟩, .inr⟩
  · exact (continues_post _ _ (by simp)).after (continues_setState t conn .disconnected)

theorem continues_newConnection (t : TcpServer) : Continues t t.newConnection := by
  have hentered : ∀ t₁ : TcpServer, t₁.queue = t.queue → t₁.shutting = t.shutting →
      t₁.callbacks = t.callbacks → t₁.closing = t.closing →
      t₁.allClosedCallback = t.allClosedCallback → t₁.connections ≠ [] → Continues t t₁ := by
    intro t₁ hqueue hshutting hcallbacks hclosing hcallback hne
    refine ⟨fun hplain => ?_, hshutting, hcallbacks.ge, fun h => ⟨hclosing.trans h, hcallbacks⟩,
      fun hunder => .inr ⟨hclosing.trans hunder.1, hcallback.trans hunder.2.1, .inr hne⟩⟩
    unfold Plain
    rw [hqueue]
    exact hplain
  unfold TcpServer.newConnection
  dsimp only
  split
  · exact (continues_setState _ _ _).after (hentered _ rfl rfl rfl rfl rfl (by simp))
  · exact (continues_post _ _ (by simp)).after (hentered _ rfl rfl rfl rfl rfl (by simp))

theorem continues_connectDestroyed (t : TcpServer) (conn : Nat) :
    Continues t (t.connectDestroyed conn) := by
  unfold TcpServer.connectDestroyed
  split
  · exact continues_setState t conn .disconnected
  · exact .refl t

theorem continues_perform {functor : ServerFunctor}
    (hfunctor : ∀ callback, functor ≠ .closeAllConnectionsInLoop callback) :
    Continues t (t.perform functor) := by
  cases functor with
  | connectEstablished conn => exact continues_setState t conn .connected
  | shutdownInLoop conn => exact .refl t
  | connectDestroyed conn => exact continues_connectDestroyed t conn
  | removeConnectionInLoop conn => exact continues_removeConnectionInLoop t conn
  | closeAllConnectionsInLoop callback => exact absurd rfl (hfunctor callback)

/-- `CloseAllConnectionsInLoop` goes on with its next connection, or returns. -/
theorem closeNext_spec (t : TcpServer) (conns : List Nat) :
    (Plain t → Plain (t.closeNext false conns)) ∧ t.callbacks ≤ (t.closeNext false conns).callbacks ∧
      (t.closing = true → t.allClosedCallback = true →
        t.callbacks < (t.closeNext false conns).callbacks ∨ Under (t.closeNext false conns)) := by
  cases conns with
  | nil =>
    unfold TcpServer.closeNext TcpServer.checkAllClosed
    dsimp only
    split
    · next hsame =>
      refine ⟨id, le_rfl, fun hclosing hcallback => .inr ⟨hclosing, hcallback, .inr ?_⟩⟩
      simpa [hclosing] using hsame
    · refine ⟨id, ?_, fun _ hcallback => .inl (by simp [hcallback])⟩
      dsimp only
      split
      · exact Nat.le_succ _
      · exact le_rfl
  | cons conn rest =>
    have hcontinues := continues_shutdown { t with shutting := some rest } (t.loop conn = 0) conn
    simp only [TcpServer.closeNext, TcpServer.failsInside, Bool.false_and, Bool.false_eq_true, if_false]
    refine ⟨hcontinues.plain, hcontinues.callbacks, fun hclosing hcallback => ?_⟩
    exact hcontinues.under ⟨hclosing, hcallback, .inl rfl⟩

end TcpServerStop

namespace StoppingServer

/-- The thread of this loop is in none of the functions that take several steps. -/
def free (s : StoppingServer) (loop : Nat) : Bool :=
  !s.testing.contains loop && (loop != 0 || s.control = .idle)

/-- Between the events of this loop. -/
def between (s : StoppingServer) (loop : Nat) : Bool :=
  s.free loop && (s.server.batch loop).isNone

/-- The loop that takes this step. -/
def loopOf (s : StoppingServer) : RpcServerStep → Option Nat
  | .onMessage conn => some (s.tcp.loop conn)
  | .frame loop _ | .close loop | .runNext loop => some loop
  | .finishInLoop index _ =>
    (s.server.running[index]?).bind fun call =>
      (s.server.scopes[call.scope]?).map fun scope => s.tcp.loop scope.conn
  | .finishElsewhere .. | .post _ => none

/-- Data arrive on connections that are established. -/
def admits (s : StoppingServer) (l : RpcServerStep) : Bool :=
  ((s.loopOf l).all s.free) &&
    match l with
    | .onMessage conn => s.tcp.state conn = .connected || s.tcp.state conn = .disconnecting
    | _ => true

/-- The connections come and go; `Stop` and `CloseAllConnections` are only called by the server. -/
def admitsTcp (s : StoppingServer) : ServerStep → Bool
  | .newConnection => s.between 0
  | .shutdown inLoop conn => !inLoop || s.free (s.tcp.loop conn)
  | .handleClose conn => s.free (s.tcp.loop conn)
  | .closeCallback => s.free 0
  | .runFunctor index => (s.tcp.queue[index]?).any fun p => s.between p.loop
  | .stop | .closeAllConnections _ | .remoteCloseAllConnections _ | .closeNext _ => false

/-- `OnCallsFinished` has subtracted, and nothing is left. -/
def emptied (server server' : RpcServer) : Bool :=
  server.accounted.length < server'.accounted.length && server'.inFlight = 0

def finishShutdownInLoop (s : StoppingServer) (reason : StopReason) : StoppingServer :=
  if s.shutdownFinished then s
  else { s with
    shutdownFinished := true
    graceTimer := false
    completions := s.completions ++ [reason] }

/-- The `TcpServer` has come to this state; it may have called the callback of
`CloseAllConnections`. -/
def withTcp (s : StoppingServer) (tcp : TcpServer) : StoppingServer :=
  let s' := { s with tcp := tcp }
  if s.tcp.callbacks < tcp.callbacks then s'.finishShutdownInLoop .drained else s'

/-- `CloseConnectionsInLoop`, up to the loop over the connections; `timeout` says that the grace
timer calls it, and `FinishShutdownInLoop` behind it. -/
def closeConnectionsInLoop (s : StoppingServer) (timeout : Bool) : StoppingServer :=
  if s.connectionsClosed then if timeout then s.finishShutdownInLoop .timeout else s
  else { s with
    connectionsClosed := true
    tcp := s.tcp.closeAllConnectionsInLoop true
    control := .closing timeout }

/-- `StopInLoop`, up to the test of `in_flight_`. -/
def stopInLoop (s : StoppingServer) : StoppingServer :=
  if s.stopping then s
  else { s with
    stopping := true
    tcp := { s.tcp with stopping := true }
    graceTimer := true
    control := .stopping
    dispatchedBefore := s.server.dispatched
    raced := !s.testing.isEmpty }

def perform (s : StoppingServer) : StopFunctor → StoppingServer
  | .stopInLoop => s.stopInLoop
  | .closeConnectionsInLoop => s.closeConnectionsInLoop false

/-- The end of `CloseAllConnectionsInLoop`. -/
def returned (s : StoppingServer) (timeout : Bool) : StoppingServer :=
  if s.tcp.shutting.isSome then s
  else
    let s := { s with control := .idle }
    if timeout then s.finishShutdownInLoop .timeout else s

def step (F : MetaFormat) (S : Services) (s : StoppingServer) : StoppingStep → Option StoppingServer
  | .server l =>
    if s.admits l then
      (s.server.step F S s.tcp.loop l).map fun server =>
        { s with
          server := server
          testing :=
            if emptied s.server server then s.testing ++ (s.loopOf l).toList else s.testing }
    else none
  | .tcp l => if s.admitsTcp l then (s.tcp.step l).map s.withTcp else none
  | .stop => if s.free 0 then some s.stopInLoop else none
  | .remoteStop => some { s with queue := s.queue ++ [.stopInLoop] }
  | .testInFlight =>
    if s.control = .stopping then
      let s := { s with control := .idle }
      some (if s.server.inFlight = 0 then s.closeConnectionsInLoop false else s)
    else none
  | .testStopping index =>
    (s.testing[index]?).bind fun loop =>
      let s := { s with testing := s.testing.eraseIdx index }
      if !s.stopping then some s
      else if loop ≠ 0 then some { s with queue := s.queue ++ [.closeConnectionsInLoop] }
      else if s.control = .idle then some (s.closeConnectionsInLoop false)
      else none
  | .closeNext =>
    match s.control with
    | .closing timeout =>
      s.tcp.shutting.map fun conns => (s.withTcp (s.tcp.closeNext false conns)).returned timeout
    | _ => none
  | .runNext =>
    match s.queue with
    | functor :: queue =>
      if s.between 0 then some ({ s with queue := queue }.perform functor) else none
    | [] => none
  | .graceTimer =>
    if s.between 0 && s.graceTimer then
      some ({ s with graceTimer := false, timedOut := true }.closeConnectionsInLoop true)
    else none

def run (F : MetaFormat) (S : Services) (s : StoppingServer) (steps : List StoppingStep) :
    Option StoppingServer :=
  Transition.run (step F S) s steps

def start (ioThreads : Nat) : StoppingServer := { tcp := TcpServer.start ioThreads }

/-! ## What the stop waits for -/

/-- The calls that had been dispatched when `stopping_` was set have been subtracted, or the timer
has fired, or a loop was in `OnCallsFinished`. -/
def Waited (s : StoppingServer) : Prop :=
  s.timedOut = true ∨ s.raced = true ∨ ∀ n ∈ s.dispatchedBefore, n ∈ s.server.accounted

/-- `CloseConnectionsInLoop` is only called when the stop has waited. -/
structure Waiting (s : StoppingServer) : Prop where
  balanced : s.server.Balanced
  before : ∀ n ∈ s.dispatchedBefore, n ∈ s.server.dispatched
  posted : .closeConnectionsInLoop ∈ s.queue → s.stopping = true ∧ s.Waited
  testing : s.stopping = true → s.testing ≠ [] → s.Waited
  testInFlight : s.control = .stopping → s.stopping = true
  closing : ∀ timeout, s.control = .closing timeout → s.connectionsClosed = true
  closed : s.connectionsClosed = true → s.stopping = true ∧ s.Waited
  timer : s.graceTimer = true → s.stopping = true

/-- When nothing is in flight and no loop is in `OnCallsFinished`, the connections are closed, or
this has been posted. -/
def Kept (s : StoppingServer) : Prop :=
  s.stopping = true → s.control ≠ .stopping → s.server.inFlight = 0 → s.testing = [] →
    s.connectionsClosed = true ∨ .closeConnectionsInLoop ∈ s.queue

variable {F : MetaFormat} {S : Services} {s s' : StoppingServer} {l : StoppingStep}
  {reason : StopReason} {timeout : Bool}

theorem Waiting.start (ioThreads : Nat) : Waiting (start ioThreads) := by
  refine ⟨.start, ?_, ?_, ?_, ?_, ?_, ?_, ?_⟩ <;> simp [StoppingServer.start]

theorem kept_of_closed (h : s.connectionsClosed = true) : Kept s := fun _ _ _ _ => .inl h

@[simp]
theorem connectionsClosed_finish (s : StoppingServer) (reason : StopReason) :
    (s.finishShutdownInLoop reason).connectionsClosed = s.connectionsClosed := by
  unfold finishShutdownInLoop
  split <;> rfl

@[simp]
theorem server_finish (s : StoppingServer) (reason : StopReason) :
    (s.finishShutdownInLoop reason).server = s.server := by
  unfold finishShutdownInLoop
  split <;> rfl

@[simp]
theorem server_closeConnectionsInLoop (s : StoppingServer) (timeout : Bool) :
    (s.closeConnectionsInLoop timeout).server = s.server := by
  unfold closeConnectionsInLoop
  split
  · split
    · exact server_finish s .timeout
    · rfl
  · rfl

theorem Waiting.finish (h : Waiting s) (reason : StopReason) :
    Waiting (s.finishShutdownInLoop reason) := by
  unfold finishShutdownInLoop
  split
  · exact h
  · exact ⟨h.balanced, h.before, h.posted, h.testing, h.testInFlight, h.closing, h.closed,
      fun hc => by cases hc⟩

theorem Kept.finish (h : Kept s) (reason : StopReason) : Kept (s.finishShutdownInLoop reason) := by
  unfold finishShutdownInLoop
  split <;> exact h

theorem Waiting.withTcp (h : Waiting s) (tcp : TcpServer) : Waiting (s.withTcp tcp) := by
  have htcp : Waiting { s with tcp := tcp } :=
    ⟨h.balanced, h.before, h.posted, h.testing, h.testInFlight, h.closing, h.closed, h.timer⟩
  unfold StoppingServer.withTcp
  dsimp only
  split
  · exact htcp.finish .drained
  · exact htcp

theorem Kept.withTcp (h : Kept s) (tcp : TcpServer) : Kept (s.withTcp tcp) := by
  have htcp : Kept { s with tcp := tcp } := h
  unfold StoppingServer.withTcp
  dsimp only
  split
  · exact htcp.finish .drained
  · exact htcp

/-- The connections are closed, as the stop has waited. -/
theorem Waiting.close (h : Waiting s) (hstopping : s.stopping = true) (hwaited : s.Waited)
    (timeout : Bool) : Waiting (s.closeConnectionsInLoop timeout) ∧
      (s.closeConnectionsInLoop timeout).connectionsClosed = true := by
  unfold closeConnectionsInLoop
  split
  · next hclosed =>
    cases timeout with
    | true => exact ⟨h.finish .timeout, (connectionsClosed_finish s .timeout).trans hclosed⟩
    | false => exact ⟨h, hclosed⟩
  · refine ⟨⟨h.balanced, h.before, h.posted, h.testing, fun _ => hstopping, fun _ _ => rfl,
      fun _ => ⟨hstopping, hwaited⟩, h.timer⟩, rfl⟩

theorem Waiting.stop (h : Waiting s) : Waiting s.stopInLoop := by
  unfold stopInLoop
  split
  · exact h
  next hstopping =>
  refine ⟨h.balanced, fun n hn => hn, fun hposted => ?_, fun _ htesting => ?_, fun _ => rfl,
    fun timeout hcontrol => (by cases hcontrol), fun hclosed => ?_, fun _ => rfl⟩
  · exact absurd (h.posted hposted).1 hstopping
  · exact .inr (.inl (by simpa using htesting))
  · exact absurd (h.closed hclosed).1 hstopping

theorem Kept.stop (h : Kept s) : Kept s.stopInLoop := by
  unfold stopInLoop
  split
  · exact h
  · exact fun _ hcontrol => absurd rfl hcontrol

/-- The counter is zero: everything that had been dispatched has been subtracted. -/
theorem Waiting.waited_of_inFlight (h : Waiting s) (hcount : s.server.dispatched.length < 2 ^ 64)
    (hzero : s.server.inFlight = 0) : s.Waited :=
  .inr (.inr fun n hn => h.balanced.accounted_of_inFlight hcount hzero (h.before n hn))


/-- Only on a loop thread is anything subtracted. -/
theorem loopOf_of_accounted {server : RpcServer} {l : RpcServerStep} (h : s.server.Balanced)
    (hstep : s.server.step F S s.tcp.loop l = some server)
    (hgrows : s.server.accounted.length < server.accounted.length) : (s.loopOf l).isSome := by
  cases l with
  | onMessage | frame | close | runNext => rfl
  | finishInLoop index ended =>
    obtain ⟨call, hcall, -⟩ := Option.map_eq_some_iff.mp hstep
    have hscope := h.counted.running call (List.mem_of_getElem? hcall)
    simp [loopOf, hcall, hscope]
  | finishElsewhere index ended =>
    obtain ⟨call, -, rfl⟩ := Option.map_eq_some_iff.mp hstep
    exact absurd hgrows (lt_irrefl _)
  | post index =>
    simp only [RpcServer.step] at hstep
    split at hstep
    · cases hstep
      exact absurd hgrows (lt_irrefl _)
    · cases hstep

theorem Waiting.server_step (h : Waiting s) {l : RpcServerStep} {server : RpcServer}
    (hstep : s.server.step F S s.tcp.loop l = some server)
    (hcount : server.dispatched.length < 2 ^ 64) :
    Waiting { s with
      server := server
      testing :=
        if emptied s.server server then s.testing ++ (s.loopOf l).toList else s.testing } := by
  have hbalanced := h.balanced.step hstep
  obtain ⟨hdispatched, haccounted⟩ := RpcServer.grows_step hstep
  have hbefore : ∀ n ∈ s.dispatchedBefore, n ∈ server.dispatched :=
    fun n hn => hdispatched.subset (h.before n hn)
  have hwaited : s.Waited → s.timedOut = true ∨ s.raced = true ∨
      ∀ n ∈ s.dispatchedBefore, n ∈ server.accounted :=
    Or.imp_right (Or.imp_right fun hall n hn => haccounted.subset (hall n hn))
  refine ⟨hbalanced, hbefore, fun hposted => (h.posted hposted).imp_right hwaited,
    fun hstopping htesting => ?_, h.testInFlight, h.closing,
    fun hclosed => (h.closed hclosed).imp_right hwaited, h.timer⟩
  by_cases hemptied : emptied s.server server = true
  · have hzero : server.inFlight = 0 := by
      simpa using (Bool.and_eq_true_iff.mp hemptied).2
    exact .inr (.inr fun n hn =>
      hbalanced.accounted_of_inFlight hcount hzero (hbefore n hn))
  · rw [if_neg hemptied] at htesting
    exact hwaited (h.testing hstopping htesting)

theorem Kept.server_step (hkept : Kept s) (h : Waiting s) {l : RpcServerStep} {server : RpcServer}
    (hstep : s.server.step F S s.tcp.loop l = some server)
    (hcount : server.dispatched.length < 2 ^ 64) :
    Kept { s with
      server := server
      testing :=
        if emptied s.server server then s.testing ++ (s.loopOf l).toList else s.testing } := by
  have hbalanced := h.balanced.step hstep
  obtain ⟨hdispatched, haccounted⟩ := RpcServer.grows_step hstep
  intro hstopping hcontrol hzero htesting
  have hzero : server.inFlight = 0 := hzero
  have hlength := (hbalanced.inFlight_eq_zero_iff hcount).mp hzero
  by_cases hgrows : s.server.accounted.length < server.accounted.length
  · -- the loop that has subtracted the last call is in `OnCallsFinished`
    have hemptied : emptied s.server server = true := by simp [emptied, hgrows, hzero]
    obtain ⟨loop, hloop⟩ := Option.isSome_iff_exists.mp (loopOf_of_accounted h.balanced hstep hgrows)
    simp [hemptied, hloop] at htesting
  · have hcount' : s.server.dispatched.length < 2 ^ 64 :=
      lt_of_le_of_lt hdispatched.length_le hcount
    have hle : s.server.accounted.length ≤ s.server.dispatched.length := by
      rw [h.balanced.partition.length_eq, List.length_append]
      omega
    have hsame : s.server.dispatched.length = s.server.accounted.length := by
      have hle' := hdispatched.length_le
      have hle'' := haccounted.length_le
      omega
    have hbefore := (h.balanced.inFlight_eq_zero_iff hcount').mpr hsame
    have hemptied : ¬emptied s.server server = true := by simp [emptied, hgrows]
    simp only [if_neg hemptied] at htesting
    exact hkept hstopping hcontrol hbefore htesting

/-- What `Stop` and `OnCallsFinished` keep between them. -/
structure Stopping (s : StoppingServer) : Prop where
  waiting : Waiting s
  kept : Kept s

theorem Stopping.start (ioThreads : Nat) : Stopping (start ioThreads) := by
  refine ⟨.start ioThreads, ?_⟩
  rintro ⟨⟩

/-- A step that counts no call. -/
theorem Stopping.step (h : Stopping s) (hstep : s.step F S l = some s')
    (hcount : s'.server.dispatched.length < 2 ^ 64) : Stopping s' := by
  obtain ⟨hw, hk⟩ := h
  cases l with
  | server l =>
    simp only [StoppingServer.step, Option.ite_none_right_eq_some, Option.map_eq_some_iff] at hstep
    obtain ⟨-, server, hserver, rfl⟩ := hstep
    exact ⟨hw.server_step hserver hcount, hk.server_step hw hserver hcount⟩
  | tcp l =>
    simp only [StoppingServer.step, Option.ite_none_right_eq_some, Option.map_eq_some_iff] at hstep
    obtain ⟨-, tcp, -, rfl⟩ := hstep
    exact ⟨hw.withTcp tcp, hk.withTcp tcp⟩
  | stop =>
    simp only [StoppingServer.step, Option.ite_none_right_eq_some] at hstep
    obtain ⟨-, hstep⟩ := hstep
    cases hstep
    exact ⟨hw.stop, hk.stop⟩
  | remoteStop =>
    cases hstep
    refine ⟨⟨hw.balanced, hw.before, fun hposted => ?_, hw.testing, hw.testInFlight, hw.closing,
      hw.closed, hw.timer⟩, fun hstopping hcontrol hzero htesting => ?_⟩
    · apply hw.posted
      simpa using hposted
    · exact (hk hstopping hcontrol hzero htesting).imp_right (List.mem_append_left _)
  | testInFlight =>
    simp only [StoppingServer.step, Option.ite_none_right_eq_some, Option.some.injEq] at hstep
    obtain ⟨hcontrol, rfl⟩ := hstep
    have hstopping := hw.testInFlight hcontrol
    have hidle : Waiting { s with control := .idle } :=
      ⟨hw.balanced, hw.before, hw.posted, hw.testing, fun hc => (by cases hc),
        fun _ hc => (by cases hc), hw.closed, hw.timer⟩
    have hcount' : s.server.dispatched.length < 2 ^ 64 := by
      split at hcount
      · rwa [server_closeConnectionsInLoop] at hcount
      · exact hcount
    split
    · next hzero =>
      obtain ⟨hclosing, hclosed⟩ :=
        hidle.close hstopping (hw.waited_of_inFlight hcount' hzero) false
      exact ⟨hclosing, kept_of_closed hclosed⟩
    · next hzero => exact ⟨hidle, fun _ _ h => absurd h hzero⟩
  | testStopping index =>
    obtain ⟨loop, hloop, hstep⟩ := Option.bind_eq_some_iff.mp hstep
    have htesting : s.testing ≠ [] := List.ne_nil_of_mem (List.mem_of_getElem? hloop)
    have herased : Waiting { s with testing := s.testing.eraseIdx index } :=
      ⟨hw.balanced, hw.before, hw.posted, fun hstopping _ => hw.testing hstopping htesting,
        hw.testInFlight, hw.closing, hw.closed, hw.timer⟩
    dsimp only at hstep
    split at hstep
    · next hstopping =>
      cases hstep
      refine ⟨herased, fun hstop => ?_⟩
      simp_all
    next hstopping =>
    have hstopping : s.stopping = true := by simpa using hstopping
    split at hstep
    · cases hstep
      refine ⟨⟨hw.balanced, hw.before, fun _ => ⟨hstopping, hw.testing hstopping htesting⟩,
        fun _ _ => hw.testing hstopping htesting, hw.testInFlight, hw.closing, hw.closed, hw.timer⟩,
        fun _ _ _ _ => .inr ?_⟩
      simp
    split at hstep
    · cases hstep
      obtain ⟨hclosing, hclosed⟩ := herased.close hstopping (hw.testing hstopping htesting) false
      exact ⟨hclosing, kept_of_closed hclosed⟩
    · cases hstep
  | closeNext =>
    simp only [StoppingServer.step] at hstep
    split at hstep
    swap
    · cases hstep
    next timeout hcontrol =>
    obtain ⟨conns, -, rfl⟩ := Option.map_eq_some_iff.mp hstep
    have hwith := hw.withTcp (s.tcp.closeNext false conns)
    have hclosed : (s.withTcp (s.tcp.closeNext false conns)).connectionsClosed = true := by
      unfold StoppingServer.withTcp
      dsimp only
      split
      · exact (connectionsClosed_finish _ _).trans (hw.closing timeout hcontrol)
      · exact hw.closing timeout hcontrol
    generalize s.withTcp (s.tcp.closeNext false conns) = s₁ at hwith hclosed
    have hidle : Waiting { s₁ with control := .idle } :=
      ⟨hwith.balanced, hwith.before, hwith.posted, hwith.testing, fun hc => (by cases hc),
        fun _ hc => (by cases hc), hwith.closed, hwith.timer⟩
    unfold returned
    dsimp only
    split
    · exact ⟨hwith, kept_of_closed hclosed⟩
    · split
      · exact ⟨hidle.finish .timeout, kept_of_closed ((connectionsClosed_finish _ _).trans hclosed)⟩
      · exact ⟨hidle, kept_of_closed hclosed⟩
  | runNext =>
    simp only [StoppingServer.step] at hstep
    split at hstep
    swap
    · cases hstep
    next functor queue hqueue =>
    rw [Option.ite_none_right_eq_some] at hstep
    obtain ⟨-, hstep⟩ := hstep
    cases hstep
    have hrest : Waiting { s with queue := queue } :=
      ⟨hw.balanced, hw.before, fun hposted => hw.posted (hqueue ▸ List.mem_cons_of_mem _ hposted),
        hw.testing, hw.testInFlight, hw.closing, hw.closed, hw.timer⟩
    cases functor with
    | stopInLoop =>
      refine ⟨hrest.stop, Kept.stop fun hstopping hcontrol hzero htesting => ?_⟩
      have hposted := hk hstopping hcontrol hzero htesting
      rw [hqueue] at hposted
      simpa using hposted
    | closeConnectionsInLoop =>
      obtain ⟨hstopping, hwaited⟩ := hw.posted (hqueue ▸ List.mem_cons_self)
      obtain ⟨hclosing, hclosed⟩ := hrest.close hstopping hwaited false
      exact ⟨hclosing, kept_of_closed hclosed⟩
  | graceTimer =>
    simp only [StoppingServer.step, Option.ite_none_right_eq_some, Bool.and_eq_true,
      Option.some.injEq] at hstep
    obtain ⟨⟨-, htimer⟩, rfl⟩ := hstep
    have hstopping := hw.timer htimer
    have hfired : Waiting { s with graceTimer := false, timedOut := true } :=
      ⟨hw.balanced, hw.before, fun hposted => ⟨(hw.posted hposted).1, .inl rfl⟩,
        fun _ _ => .inl rfl, hw.testInFlight, hw.closing, fun hclosed => ⟨hstopping, .inl rfl⟩,
        fun hc => (by cases hc)⟩
    obtain ⟨hclosing, hclosed⟩ := hfired.close hstopping (.inl rfl) true
    exact ⟨hclosing, kept_of_closed hclosed⟩

@[simp]
theorem server_withTcp (s : StoppingServer) (tcp : TcpServer) :
    (s.withTcp tcp).server = s.server := by
  unfold StoppingServer.withTcp
  dsimp only
  split
  · exact server_finish _ _
  · rfl

theorem server_returned (s : StoppingServer) (timeout : Bool) :
    (s.returned timeout).server = s.server := by
  unfold returned
  split
  · rfl
  · dsimp only
    split
    · exact server_finish _ _
    · rfl

/-- Only steps of the server change it. -/
theorem server_cases (hstep : s.step F S l = some s') :
    s'.server = s.server ∨ ∃ l, s.server.step F S s.tcp.loop l = some s'.server := by
  cases l with
  | server l =>
    simp only [StoppingServer.step, Option.ite_none_right_eq_some, Option.map_eq_some_iff] at hstep
    obtain ⟨-, server, hserver, rfl⟩ := hstep
    exact .inr ⟨l, hserver⟩
  | tcp l =>
    simp only [StoppingServer.step, Option.ite_none_right_eq_some, Option.map_eq_some_iff] at hstep
    obtain ⟨-, tcp, -, rfl⟩ := hstep
    exact .inl (server_withTcp s tcp)
  | closeNext =>
    simp only [StoppingServer.step] at hstep
    split at hstep
    · obtain ⟨conns, -, rfl⟩ := Option.map_eq_some_iff.mp hstep
      exact .inl ((server_returned _ _).trans (server_withTcp _ _))
    · cases hstep
  | _ =>
    left
    simp only [StoppingServer.step, stopInLoop, perform] at hstep
    grind [server_closeConnectionsInLoop]

/-- Calls are only added to those that have been dispatched. -/
theorem dispatched_step (hstep : s.step F S l = some s') :
    s.server.dispatched <+: s'.server.dispatched := by
  obtain hsame | ⟨l, hserver⟩ := server_cases hstep
  · rw [hsame]
  · exact (RpcServer.grows_step hserver).dispatched

/-! ## The end of the shutdown -/

/-- The connections are closed once, and behind that the shutdown is finished or connections are
left. -/
structure Closing (s : StoppingServer) : Prop where
  plain : TcpServerStop.Plain s.tcp
  control : s.tcp.shutting.isSome = true → ∃ timeout, s.control = .closing timeout
  before : s.connectionsClosed = false →
    s.tcp.closing = false ∧ s.tcp.shutting = none ∧ s.shutdownFinished = false
  under : s.connectionsClosed = true → s.shutdownFinished = true ∨ TcpServerStop.Under s.tcp
  completions : s.completions.length = s.shutdownFinished.toNat

theorem Closing.start (ioThreads : Nat) : Closing (start ioThreads) := by
  refine ⟨?_, ?_, ?_, ?_, ?_⟩ <;>
    simp [StoppingServer.start, TcpServer.start, TcpServerStop.Plain]

theorem Closing.finish (h : Closing s) (hclosed : s.connectionsClosed = true)
    (reason : StopReason) : Closing (s.finishShutdownInLoop reason) := by
  unfold finishShutdownInLoop
  split
  · exact h
  · next hfinished =>
    have hcompletions := h.completions
    refine ⟨h.plain, h.control, fun hc => ?_, fun _ => .inl rfl, ?_⟩
    · have hc : s.connectionsClosed = false := hc
      simp [hclosed] at hc
    · simp_all

theorem Closing.close (h : Closing s) (timeout : Bool) :
    Closing (s.closeConnectionsInLoop timeout) := by
  unfold closeConnectionsInLoop
  split
  · next hclosed =>
    split
    · exact h.finish hclosed .timeout
    · exact h
  · next hclosed =>
    obtain ⟨hclosing, -, hfinished⟩ := h.before (by simpa using hclosed)
    refine ⟨?_, fun _ => ⟨timeout, rfl⟩, fun hc => (by cases hc), fun _ => .inr ?_, h.completions⟩ <;>
      simp only [TcpServer.closeAllConnectionsInLoop, hclosing, Bool.false_eq_true, if_false]
    · exact h.plain
    · exact ⟨rfl, rfl, .inl rfl⟩

theorem Closing.of_control (h : Closing s) (hshutting : s.tcp.shutting = none)
    (control : StopControl) : Closing { s with control := control } :=
  ⟨h.plain, by simp [hshutting], h.before, h.under, h.completions⟩

theorem Closing.shutting_of_control (h : Closing s)
    (hcontrol : ∀ timeout, s.control ≠ .closing timeout) : s.tcp.shutting = none := by
  by_contra hne
  obtain ⟨timeout, hc⟩ := h.control (Option.isSome_iff_ne_none.mpr hne)
  exact hcontrol timeout hc

theorem Closing.stop (h : Closing s) (hshutting : s.tcp.shutting = none) :
    Closing s.stopInLoop := by
  unfold stopInLoop
  split
  · exact h
  · exact ⟨h.plain, by simp [hshutting], h.before, h.under, h.completions⟩

/-- The `TcpServer` has gone on. -/
theorem Closing.withTcp (h : Closing s) {tcp : TcpServer} (hplain : TcpServerStop.Plain tcp)
    (hcontrol : tcp.shutting.isSome = true → ∃ timeout, s.control = .closing timeout)
    (hbefore : s.connectionsClosed = false →
      tcp.closing = false ∧ tcp.shutting = none ∧ tcp.callbacks = s.tcp.callbacks)
    (hunder : TcpServerStop.Under s.tcp →
      s.tcp.callbacks < tcp.callbacks ∨ TcpServerStop.Under tcp) : Closing (s.withTcp tcp) := by
  unfold StoppingServer.withTcp
  dsimp only
  split
  · next hcalled =>
    have hclosed : s.connectionsClosed = true := by
      by_contra hopen
      have hsame := (hbefore (by simpa using hopen)).2.2
      omega
    have hfinished : (finishShutdownInLoop { s with tcp := tcp } .drained).shutdownFinished =
        true := by
      unfold finishShutdownInLoop
      split
      · assumption
      · rfl
    have hcompletions := h.completions
    refine ⟨?_, ?_, fun hc => ?_, fun _ => .inl hfinished, ?_⟩
    · unfold finishShutdownInLoop
      split <;> exact hplain
    · unfold finishShutdownInLoop
      split <;> exact hcontrol
    · rw [connectionsClosed_finish] at hc
      exact absurd (hclosed.symm.trans hc) (by simp)
    · unfold finishShutdownInLoop
      split
      · exact hcompletions
      · simp_all
  · next hcalled =>
    refine ⟨hplain, hcontrol, fun hopen => ?_, fun hclosed => ?_, h.completions⟩
    · exact ⟨(hbefore hopen).1, (hbefore hopen).2.1, (h.before hopen).2.2⟩
    · exact (h.under hclosed).imp_right fun hu => (hunder hu).resolve_left hcalled

theorem continues_step {tcp : TcpServer} {l : ServerStep} (hplain : TcpServerStop.Plain s.tcp)
    (hadmits : s.admitsTcp l = true) (hstep : s.tcp.step l = some tcp) :
    TcpServerStop.Continues s.tcp tcp := by
  cases l with
  | newConnection =>
    simp only [TcpServer.step, Option.ite_none_right_eq_some, Option.some.injEq] at hstep
    obtain ⟨-, rfl⟩ := hstep
    exact TcpServerStop.continues_newConnection s.tcp
  | shutdown inLoop conn =>
    simp only [TcpServer.step, Option.ite_none_right_eq_some, Option.some.injEq] at hstep
    obtain ⟨-, rfl⟩ := hstep
    exact TcpServerStop.continues_shutdown s.tcp inLoop conn
  | handleClose conn =>
    simp only [TcpServer.step, Option.ite_none_right_eq_some, Option.some.injEq] at hstep
    obtain ⟨-, rfl⟩ := hstep
    exact TcpServerStop.continues_handleClose s.tcp conn
  | closeCallback =>
    simp only [TcpServer.step, Option.ite_none_right_eq_some, Option.map_eq_some_iff] at hstep
    obtain ⟨-, conn, -, rfl⟩ := hstep
    have hpopped : TcpServerStop.Continues s.tcp { s.tcp with removing := s.tcp.removing.tail } :=
      ⟨id, rfl, le_rfl, fun h => ⟨h, rfl⟩, .inr⟩
    exact (TcpServerStop.continues_removeConnectionInLoop _ conn).after hpopped
  | runFunctor index =>
    simp only [TcpServer.step, Option.bind_eq_some_iff, Option.ite_none_right_eq_some,
      Option.some.injEq] at hstep
    obtain ⟨p, hget, -, rfl⟩ := hstep
    have hp := hplain p (List.mem_of_getElem? hget)
    have hdequeued : TcpServerStop.Continues s.tcp
        { s.tcp with queue := s.tcp.queue.eraseIdx index } :=
      ⟨fun h p hp => h p (List.mem_of_mem_eraseIdx hp), rfl, le_rfl, fun h => ⟨h, rfl⟩, .inr⟩
    exact (TcpServerStop.continues_perform hp).after hdequeued
  | stop | closeAllConnections | remoteCloseAllConnections | closeNext => cases hadmits

theorem shutting_of_free (h : Closing s) (hfree : s.free 0 = true) : s.tcp.shutting = none := by
  apply h.shutting_of_control
  have hidle : s.control = .idle := by
    simpa [free] using (Bool.and_eq_true_iff.mp hfree).2
  simp [hidle]

theorem Closing.step (h : Closing s) (hstep : s.step F S l = some s') : Closing s' := by
  cases l with
  | server l =>
    simp only [StoppingServer.step, Option.ite_none_right_eq_some, Option.map_eq_some_iff] at hstep
    obtain ⟨-, server, -, rfl⟩ := hstep
    exact ⟨h.plain, h.control, h.before, h.under, h.completions⟩
  | tcp l =>
    simp only [StoppingServer.step, Option.ite_none_right_eq_some, Option.map_eq_some_iff] at hstep
    obtain ⟨hadmits, tcp, htcp, rfl⟩ := hstep
    have hcontinues := continues_step h.plain hadmits htcp
    refine h.withTcp (hcontinues.plain h.plain) ?_ (fun hopen => ?_) hcontinues.under
    · rw [hcontinues.shutting]
      exact h.control
    · obtain ⟨hclosing, hshutting, -⟩ := h.before hopen
      obtain ⟨hclosing', hcallbacks⟩ := hcontinues.quiet hclosing
      exact ⟨hclosing', hcontinues.shutting.trans hshutting, hcallbacks⟩
  | stop =>
    simp only [StoppingServer.step, Option.ite_none_right_eq_some] at hstep
    obtain ⟨hfree, hstep⟩ := hstep
    cases hstep
    exact h.stop (shutting_of_free h hfree)
  | remoteStop =>
    cases hstep
    exact ⟨h.plain, h.control, h.before, h.under, h.completions⟩
  | testInFlight =>
    simp only [StoppingServer.step, Option.ite_none_right_eq_some, Option.some.injEq] at hstep
    obtain ⟨hcontrol, rfl⟩ := hstep
    have hshutting := h.shutting_of_control (by simp [hcontrol])
    have hidle := h.of_control hshutting .idle
    split
    · exact hidle.close false
    · exact hidle
  | testStopping index =>
    obtain ⟨loop, -, hstep⟩ := Option.bind_eq_some_iff.mp hstep
    have herased : Closing { s with testing := s.testing.eraseIdx index } :=
      ⟨h.plain, h.control, h.before, h.under, h.completions⟩
    dsimp only at hstep
    split at hstep
    · cases hstep
      exact herased
    split at hstep
    · cases hstep
      exact ⟨h.plain, h.control, h.before, h.under, h.completions⟩
    split at hstep
    · cases hstep
      exact herased.close false
    · cases hstep
  | closeNext =>
    simp only [StoppingServer.step] at hstep
    split at hstep
    swap
    · cases hstep
    next timeout hcontrol =>
    obtain ⟨conns, hconns, rfl⟩ := Option.map_eq_some_iff.mp hstep
    have hclosed : s.connectionsClosed = true := by
      by_contra hopen
      have hnone := (h.before (by simpa using hopen)).2.1
      simp [hnone] at hconns
    obtain ⟨hplain, -, hunder⟩ := TcpServerStop.closeNext_spec s.tcp conns
    have hwith := h.withTcp (hplain h.plain) (fun _ => ⟨timeout, hcontrol⟩)
      (fun hopen => absurd (hclosed.symm.trans hopen) (by simp)) fun hu => hunder hu.1 hu.2.1
    have hclosed' : (s.withTcp (s.tcp.closeNext false conns)).connectionsClosed = true := by
      unfold StoppingServer.withTcp
      dsimp only
      split
      · exact (connectionsClosed_finish _ _).trans hclosed
      · exact hclosed
    unfold returned
    dsimp only
    split
    · exact hwith
    · next hnone =>
      have hidle := hwith.of_control (by simpa using hnone) .idle
      split
      · exact hidle.finish hclosed' .timeout
      · exact hidle
  | runNext =>
    simp only [StoppingServer.step] at hstep
    split at hstep
    swap
    · cases hstep
    next functor queue hqueue =>
    rw [Option.ite_none_right_eq_some] at hstep
    obtain ⟨hbetween, hstep⟩ := hstep
    cases hstep
    have hshutting := shutting_of_free h (Bool.and_eq_true_iff.mp hbetween).1
    have hrest : Closing { s with queue := queue } :=
      ⟨h.plain, h.control, h.before, h.under, h.completions⟩
    cases functor with
    | stopInLoop => exact hrest.stop hshutting
    | closeConnectionsInLoop => exact hrest.close false
  | graceTimer =>
    simp only [StoppingServer.step, Option.ite_none_right_eq_some, Bool.and_eq_true,
      Option.some.injEq] at hstep
    obtain ⟨-, rfl⟩ := hstep
    have hfired : Closing { s with graceTimer := false, timedOut := true } :=
      ⟨h.plain, h.control, h.before, h.under, h.completions⟩
    exact hfired.close true

theorem stopping_run {ioThreads : Nat} {steps : List StoppingStep}
    (hrun : run F S (start ioThreads) steps = some s)
    (hcount : s.server.dispatched.length < 2 ^ 64) : Stopping s ∧ Closing s := by
  have hkeep : ∀ (s₁ : StoppingServer) (l : StoppingStep) (s₂ : StoppingServer),
      (s₁.server.dispatched.length < 2 ^ 64 → Stopping s₁) ∧ Closing s₁ → True →
        s₁.step F S l = some s₂ →
        (s₂.server.dispatched.length < 2 ^ 64 → Stopping s₂) ∧ Closing s₂ := by
    intro s₁ l s₂ ⟨hstopping, hclosing⟩ _ hstep
    refine ⟨fun hcount₂ => ?_, hclosing.step hstep⟩
    have hle := (dispatched_step hstep).length_le
    exact (hstopping (by omega)).step hstep hcount₂
  obtain ⟨hstopping, hclosing⟩ := Transition.invariant_run (C := fun _ _ => True) hkeep
    ⟨fun _ => .start ioThreads, .start ioThreads⟩ (Transition.meets_of_forall fun _ _ => trivial)
    hrun
  exact ⟨hstopping hcount, hclosing⟩

/-- What a call has written is flushed when it is subtracted. -/
theorem behind_run {ioThreads : Nat} {steps : List StoppingStep}
    (hrun : run F S (start ioThreads) steps = some s) :
    s.server.Behind ∧ RpcServer.Numbered F S s.server := by
  refine Transition.invariant_run
    (I := fun s : StoppingServer => s.server.Behind ∧ RpcServer.Numbered F S s.server)
    (C := fun _ _ => True) (fun s l s' h _ hstep => ?_)
    ⟨.start, List.nodup_nil, by simp [StoppingServer.start]⟩
    (Transition.meets_of_forall fun _ _ => trivial) hrun
  obtain ⟨hbehind, hnumbered⟩ := h
  obtain hsame | ⟨l, hserver⟩ := server_cases hstep
  · rw [hsame]
    exact ⟨hbehind, hnumbered⟩
  · exact ⟨hbehind.step hserver, hnumbered.step hserver⟩

/-- Unless the grace timer fires first, the connections are only closed when every call that had
been dispatched before `Stop` has been subtracted from `in_flight_`: its handler has ended, and each
write of its reply has run and is flushed. Or a loop was in `OnCallsFinished` when `Stop` was
called. -/
theorem stop_waits (F : MetaFormat) (S : Services) (ioThreads : Nat) (steps : List StoppingStep)
    (s : StoppingServer) (hrun : run F S (start ioThreads) steps = some s)
    (hcount : s.server.dispatched.length < 2 ^ 64) (hclosed : s.connectionsClosed = true)
    (htimer : s.timedOut = false) (hraced : s.raced = false) :
    ∀ n ∈ s.dispatchedBefore, n ∈ s.server.accounted ∧ s.server.Delivered n := by
  obtain ⟨hstopping, -⟩ := stopping_run hrun hcount
  obtain ⟨hbehind, hnumbered⟩ := behind_run hrun
  intro n hn
  have haccounted : n ∈ s.server.accounted := by
    obtain hfired | hraced' | hall := (hstopping.waiting.closed hclosed).2
    · simp [htimer] at hfired
    · simp [hraced] at hraced'
    · exact hall n hn
  exact ⟨haccounted,
    hbehind.delivered hstopping.waiting.balanced.partition hnumbered.nodup haccounted⟩

/-- A request is dispatched and the server is stopped; then the handler ends, and the connection is
closed. -/
def drained : List StoppingStep :=
  [.tcp .newConnection, .tcp (.runFunctor 0), .server (.onMessage 1),
    .server (.frame 1 ⟨{ serviceName := [1], requestId := 7 }, [], 0⟩), .server (.close 1), .stop,
    .testInFlight, .server (.finishInLoop 0 (.done ⟨0, [], some []⟩)), .testStopping 0, .runNext,
    .closeNext, .closeNext, .tcp (.runFunctor 0), .tcp (.handleClose 1), .tcp (.runFunctor 0)]

theorem stop_waits_drained : ∃ s, run wireFormat RpcServer.twoServices (start 1) drained = some s ∧
    s.connectionsClosed = true ∧ s.dispatchedBefore = [0] ∧ 0 ∈ s.server.accounted ∧
      s.server.Delivered 0 := by
  have hend : (run wireFormat RpcServer.twoServices (start 1) drained).map
      (fun s => (s.server.dispatched, s.connectionsClosed, s.timedOut, s.raced,
        s.dispatchedBefore)) = some ([0], true, false, false, [0]) := by
    decide +kernel
  obtain ⟨s, hrun, hs⟩ := Option.map_eq_some_iff.mp hend
  simp only [Prod.mk.injEq] at hs
  obtain ⟨hdispatched, hclosed, htimer, hraced, hbefore⟩ := hs
  have hall := stop_waits wireFormat RpcServer.twoServices 1 drained s hrun (by simp [hdispatched])
    hclosed htimer hraced
  exact ⟨s, hrun, hclosed, hbefore, hall 0 (by simp [hbefore])⟩

/-- A loop subtracts the last call; before it reads `stopping_` another request is dispatched and
the server is stopped. -/
def overtaken : List StoppingStep :=
  [.tcp .newConnection, .tcp .newConnection, .tcp (.runFunctor 0), .tcp (.runFunctor 0),
    .server (.onMessage 1), .server (.frame 1 ⟨{ serviceName := [1], requestId := 7 }, [], 0⟩),
    .server (.close 1), .server (.finishInLoop 0 (.done ⟨0, [], some []⟩)), .server (.onMessage 2),
    .server (.frame 2 ⟨{ serviceName := [1], requestId := 8 }, [], 0⟩), .stop, .testInFlight,
    .testStopping 0, .runNext]

/-- Then the connections are closed while that request is in flight. -/
theorem stop_overtaken : ∃ s, run wireFormat RpcServer.twoServices (start 2) overtaken = some s ∧
    s.connectionsClosed = true ∧ s.timedOut = false ∧ s.raced = true ∧ 1 ∈ s.dispatchedBefore ∧
    1 ∉ s.server.accounted := by
  have hend : (run wireFormat RpcServer.twoServices (start 2) overtaken).map
      (fun s => (s.connectionsClosed, s.timedOut, s.raced, s.dispatchedBefore,
        s.server.accounted)) = some (true, false, true, [0, 1], [0]) := by
    decide +kernel
  obtain ⟨s, hrun, hs⟩ := Option.map_eq_some_iff.mp hend
  simp only [Prod.mk.injEq] at hs
  obtain ⟨hclosed, htimer, hraced, hbefore, haccounted⟩ := hs
  exact ⟨s, hrun, hclosed, htimer, hraced, by simp [hbefore], by simp [haccounted]⟩

/-- The shutdown completes at most once, behind the closing of the connections; and when the server
has been stopped, nothing is in flight or on its way, and no connection is left, it has completed. -/
theorem shutdown_completes (F : MetaFormat) (S : Services) (ioThreads : Nat)
    (steps : List StoppingStep) (s : StoppingServer)
    (hrun : run F S (start ioThreads) steps = some s)
    (hcount : s.server.dispatched.length < 2 ^ 64) :
    s.completions.length ≤ 1 ∧ (s.completions ≠ [] → s.connectionsClosed = true) ∧
      (s.stopping = true → s.control = .idle → s.testing = [] → s.queue = [] →
        s.server.inFlight = 0 → s.connectionsClosed = true ∧
          (s.tcp.connections = [] → s.completions.length = 1)) := by
  obtain ⟨hstopping, hclosing⟩ := stopping_run hrun hcount
  have hcompletions := hclosing.completions
  refine ⟨?_, fun hne => ?_, fun hstop hcontrol htesting hqueue hzero => ?_⟩
  · rw [hcompletions]
    exact Bool.toNat_le _
  · by_contra hopen
    have hfinished := (hclosing.before (by simpa using hopen)).2.2
    rw [hfinished] at hcompletions
    exact hne (List.length_eq_zero_iff.mp hcompletions)
  · have hclosed : s.connectionsClosed = true := by
      obtain hclosed | hposted := hstopping.kept hstop (by simp [hcontrol]) hzero htesting
      · exact hclosed
      · simp [hqueue] at hposted
    refine ⟨hclosed, fun hnil => ?_⟩
    obtain hfinished | ⟨-, -, hshutting | hne⟩ := hclosing.under hclosed
    · simpa [hfinished] using hcompletions
    · have hnone := hclosing.shutting_of_control (by simp [hcontrol])
      simp [hnone] at hshutting
    · exact absurd hnil hne

theorem shutdown_completes_drained : ∃ s,
    run wireFormat RpcServer.twoServices (start 1) drained = some s ∧ s.completions.length = 1 := by
  have hend : (run wireFormat RpcServer.twoServices (start 1) drained).map
      (fun s => (s.server.dispatched, s.server.inFlight, s.tcp.connections,
        s.stopping && s.control = .idle && s.testing.isEmpty && s.queue.isEmpty)) =
          some ([0], 0, [], true) := by
    decide +kernel
  obtain ⟨s, hrun, hs⟩ := Option.map_eq_some_iff.mp hend
  simp only [Prod.mk.injEq, Bool.and_eq_true, decide_eq_true_eq, List.isEmpty_iff] at hs
  obtain ⟨hdispatched, hzero, hnil, ⟨⟨hstop, hcontrol⟩, htesting⟩, hqueue⟩ := hs
  obtain ⟨-, -, hquiet⟩ := shutdown_completes wireFormat RpcServer.twoServices 1 drained s hrun
    (by simp [hdispatched])
  exact ⟨s, hrun, (hquiet hstop hcontrol htesting hqueue hzero).2 hnil⟩

end StoppingServer

end NebulaRpc.Rpc
