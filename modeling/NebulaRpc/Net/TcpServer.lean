import NebulaRpc.Library.Transition
import NebulaRpc.Net.TcpConnection

/-!
# The server

`TcpServer` on its base loop, with its connections on the io loops. Every loop runs its functors on
its own thread; a call of `RunInLoop` on the thread of the loop runs at once, otherwise it is a
functor. The functors of a loop run in any order, and connections are closed by their peers or shut
down by anybody at any time. Loop `0` is the base loop; without io threads it is also the loop of
the connections.

`CloseAllConnectionsInLoop` shuts the connections down one by one, and the io loops go on in
between. Without io threads each `Shutdown` runs inside of it and sends what is still in the output
buffer; where that fails, the connection is erased from the map that is being traversed, and the
behaviour of the program is undefined.
-/

namespace NebulaRpc.Net

inductive ServerFunctor where
  | connectEstablished (conn : Nat)
  | shutdownInLoop (conn : Nat)
  | connectDestroyed (conn : Nat)
  | removeConnectionInLoop (conn : Nat)
  | closeAllConnectionsInLoop (callback : Bool)
  deriving DecidableEq

/-- A functor in the queue of a loop; functors are numbered as they are posted. -/
structure Posted where
  loop : Nat
  number : Nat
  functor : ServerFunctor

/-- A call of `CloseAllConnectionsInLoop` that has returned: the connections it found, and the
number of functors that had been posted. -/
structure ClosedAll where
  connections : List Nat
  posted : Nat

structure TcpServer where
  ioThreads : Nat := 0
  nextLoop : Nat := 0
  connections : List Nat := []
  nextConnectionId : Nat := 1
  state : Nat → ConnectionState := fun _ => .connecting
  loop : Nat → Nat := fun _ => 0
  stopping : Bool := false
  closing : Bool := false
  allClosedCallback : Bool := false
  /-- how often `all_closed_callback_` was called -/
  callbacks : Nat := 0
  /-- the base loop is in `CloseAllConnectionsInLoop`, with these connections still to come -/
  shutting : Option (List Nat) := none
  /-- the connections that `CloseAllConnectionsInLoop` has found -/
  found : List Nat := []
  queue : List Posted := []
  posted : Nat := 0
  closed : List ClosedAll := []
  /-- the connections of the base loop that are in `HandleClose`, before the close callback -/
  removing : List Nat := []
  /-- `connections_` was changed inside of the loop over it -/
  undefined : Bool := false

inductive ServerStep where
  | newConnection
  | stop
  /-- `CloseAllConnections` on the base loop or on another thread -/
  | closeAllConnections (callback : Bool)
  | remoteCloseAllConnections (callback : Bool)
  /-- the next connection of `CloseAllConnectionsInLoop`, or its end; its `send` may fail -/
  | closeNext (fails : Bool)
  /-- `Shutdown` on the loop of the connection or on another thread -/
  | shutdown (inLoop : Bool) (conn : Nat)
  /-- `HandleClose` of a connection on its loop, up to the close callback -/
  | handleClose (conn : Nat)
  /-- the close callback on the base loop, behind the connection callback -/
  | closeCallback
  | runFunctor (index : Nat)

namespace TcpServer

/-- The thread of the loop may run something. -/
def ready (s : TcpServer) (loop : Nat) : Bool := loop ≠ 0 || s.shutting.isNone

def post (s : TcpServer) (loop : Nat) (functor : ServerFunctor) : TcpServer :=
  { s with
    queue := s.queue ++ [⟨loop, s.posted, functor⟩]
    posted := s.posted + 1 }

def setState (s : TcpServer) (conn : Nat) (state : ConnectionState) : TcpServer :=
  { s with state := Function.update s.state conn state }

/-- `CheckAllClosedInLoop`. -/
def checkAllClosed (s : TcpServer) : TcpServer :=
  if !s.closing || !s.connections.isEmpty then s
  else
    { s with
      closing := false
      allClosedCallback := false
      callbacks := if s.allClosedCallback then s.callbacks + 1 else s.callbacks }

/-- `EventLoopThreadPool::GetNextLoop`. -/
def getNextLoop (s : TcpServer) : Nat := if s.ioThreads = 0 then 0 else s.nextLoop + 1

/-- `TcpConnection::ConnectEstablished`. -/
def connectEstablished (s : TcpServer) (conn : Nat) : TcpServer := s.setState conn .connected

def newConnection (s : TcpServer) : TcpServer :=
  let conn := s.nextConnectionId
  let ioLoop := s.getNextLoop
  let s := { s with
    nextConnectionId := conn + 1
    nextLoop := if s.nextLoop + 1 < s.ioThreads then s.nextLoop + 1 else 0
    connections := s.connections ++ [conn]
    state := Function.update s.state conn .connecting
    loop := Function.update s.loop conn ioLoop }
  if ioLoop = 0 then s.connectEstablished conn else s.post ioLoop (.connectEstablished conn)

/-- `TcpConnection::Shutdown`: only a connected connection is shut down. On the loop of the
connection `ShutdownInLoop` runs at once. -/
def shutdown (s : TcpServer) (inLoop : Bool) (conn : Nat) : TcpServer :=
  if s.state conn = .connected then
    let s := s.setState conn .disconnecting
    if inLoop then s else s.post (s.loop conn) (.shutdownInLoop conn)
  else s

/-- `RemoveConnectionInLoop`. -/
def removeConnectionInLoop (s : TcpServer) (conn : Nat) : TcpServer :=
  ({ s with connections := s.connections.filter (· ≠ conn) }.post (s.loop conn)
    (.connectDestroyed conn)).checkAllClosed

/-- `TcpConnection::HandleClose`; the close callback of the server removes the connection on the
base loop. -/
def handleClose (s : TcpServer) (conn : Nat) : TcpServer :=
  let s := s.setState conn .disconnected
  if s.loop conn = 0 then { s with removing := conn :: s.removing }
  else s.post 0 (.removeConnectionInLoop conn)

/-- `TcpConnection::ConnectDestroyed`. -/
def connectDestroyed (s : TcpServer) (conn : Nat) : TcpServer :=
  if s.state conn = .connected then s.setState conn .disconnected else s

/-- `CloseAllConnectionsInLoop`, up to the loop over the connections. -/
def closeAllConnectionsInLoop (s : TcpServer) (callback : Bool) : TcpServer :=
  if s.closing then
    { s with closed := s.closed ++ [{ connections := s.connections, posted := s.posted }] }
  else
    { s with
      closing := true
      allClosedCallback := callback
      shutting := some s.connections
      found := s.connections }

/-- A `send` fails in a `Shutdown` that runs inside of `CloseAllConnectionsInLoop`. -/
def failsInside (s : TcpServer) (fails : Bool) (conn : Nat) : Bool :=
  fails && s.loop conn = 0 && s.state conn = .connected

/-- The loop over the connections in `CloseAllConnectionsInLoop`. -/
def closeNext (s : TcpServer) (fails : Bool) : List Nat → TcpServer
  | conn :: rest =>
    let s' := { s with shutting := some rest }.shutdown (s.loop conn = 0) conn
    if s.failsInside fails conn then
      -- `HandleError` closes the connection, down to `connections_.erase`
      { (s'.setState conn .disconnected).removeConnectionInLoop conn with undefined := true }
    else s'
  | [] =>
    let s : TcpServer := { s with
      shutting := none
      closed := s.closed ++ [{ connections := s.found, posted := s.posted }] }
    s.checkAllClosed

def perform (s : TcpServer) : ServerFunctor → TcpServer
  | .connectEstablished conn => s.connectEstablished conn
  | .shutdownInLoop _ => s
  | .connectDestroyed conn => s.connectDestroyed conn
  | .removeConnectionInLoop conn => s.removeConnectionInLoop conn
  | .closeAllConnectionsInLoop callback => s.closeAllConnectionsInLoop callback

def step (s : TcpServer) : ServerStep → Option TcpServer
  | .newConnection => if s.ready 0 && !s.stopping then some s.newConnection else none
  | .stop => if s.ready 0 then some { s with stopping := true } else none
  | .closeAllConnections callback =>
    if s.ready 0 then some (s.closeAllConnectionsInLoop callback) else none
  | .remoteCloseAllConnections callback => some (s.post 0 (.closeAllConnectionsInLoop callback))
  | .closeNext fails => s.shutting.map (s.closeNext fails)
  | .shutdown inLoop conn =>
    if conn < s.nextConnectionId && (!inLoop || s.ready (s.loop conn)) then
      some (s.shutdown inLoop conn)
    else none
  | .handleClose conn =>
    if s.ready (s.loop conn) &&
        (s.state conn = .connected || s.state conn = .disconnecting) then
      some (s.handleClose conn)
    else none
  | .closeCallback =>
    if s.ready 0 then
      s.removing.head?.map ({ s with removing := s.removing.tail }.removeConnectionInLoop ·)
    else none
  | .runFunctor index =>
    s.queue[index]?.bind fun p =>
      if s.ready p.loop then some ({ s with queue := s.queue.eraseIdx index }.perform p.functor)
      else none

/-- The state behind a list of steps. -/
def run (s : TcpServer) (steps : List ServerStep) : Option TcpServer := Transition.run step s steps

def start (ioThreads : Nat) : TcpServer := { ioThreads := ioThreads }

/-! ## All connections are closed -/

/-- The behaviour has been defined so far; and when all functors that had been posted up to the end
of a `CloseAllConnectionsInLoop` have run, none of the connections that it found is connected. -/
def AllClosed (s : TcpServer) : Prop :=
  s.undefined = false ∧ ∀ r ∈ s.closed, (∀ p ∈ s.queue, r.posted ≤ p.number) →
    ∀ conn ∈ r.connections, s.state conn ≠ .connected

/-- A connection whose turn it is in `CloseAllConnectionsInLoop` has been established, and no `send`
fails there; and a call that finds another one under way finds only connections that are being
closed. -/
def ClosesEstablished (s : TcpServer) : ServerStep → Prop
  | .closeNext fails => ∀ conn rest, s.shutting = some (conn :: rest) →
    s.state conn ≠ .connecting ∧ s.failsInside fails conn = false
  | .closeAllConnections _ => s.closing = true → ∀ conn ∈ s.connections,
    s.state conn = .disconnecting ∨ s.state conn = .disconnected
  | .runFunctor index => ∀ callback,
    s.queue[index]?.map (·.functor) = some (.closeAllConnectionsInLoop callback) →
      s.closing = true → ∀ conn ∈ s.connections,
        s.state conn = .disconnecting ∨ s.state conn = .disconnected
  | _ => True

/-- The connection is being closed. -/
def Leaving (s : TcpServer) (conn : Nat) : Prop :=
  s.state conn = .disconnecting ∨ s.state conn = .disconnected

/-- The connections that are still to be established. -/
def establishing (s : TcpServer) : List Nat :=
  s.queue.filterMap fun p =>
    match p.functor with
    | .connectEstablished conn => some conn
    | _ => none

/-- A connection is established once, before anything else happens to it, and the connections that
`CloseAllConnectionsInLoop` has passed are being closed. -/
structure Settled (s : TcpServer) : Prop where
  defined : s.undefined = false
  connecting : ∀ conn ∈ s.establishing, s.state conn = .connecting
  once : s.establishing.Nodup
  known : ∀ conn ∈ s.establishing, conn < s.nextConnectionId
  registered : ∀ conn ∈ s.connections, conn < s.nextConnectionId
  found : ∀ conn ∈ s.found, conn < s.nextConnectionId
  passed : ∀ rest, s.shutting = some rest → ∀ conn ∈ s.found, conn ∈ rest ∨ s.Leaving conn
  closed : ∀ r ∈ s.closed, ∀ conn ∈ r.connections, conn < s.nextConnectionId ∧ s.Leaving conn

variable {s s' : TcpServer} {conn : Nat} {l : ServerStep}

theorem Settled.start (ioThreads : Nat) : Settled (start ioThreads) := by
  refine ⟨rfl, ?_, List.nodup_nil, ?_, ?_, ?_, ?_, ?_⟩ <;> simp [TcpServer.start, establishing]

/-- A connection that has been established is closed. -/
theorem Settled.leave (h : Settled s) (hconn : s.state conn ≠ .connecting) {state : ConnectionState}
    (hstate : state = .disconnecting ∨ state = .disconnected) : Settled (s.setState conn state) := by
  have hleaving : ∀ conn', s.Leaving conn' → (s.setState conn state).Leaving conn' := by
    intro conn' hleaving
    by_cases heq : conn' = conn
    · subst heq
      simpa [Leaving, setState] using hstate
    · simpa [Leaving, setState, heq] using hleaving
  refine ⟨h.defined, fun conn' hmem => ?_, h.once, h.known, h.registered, h.found,
    fun rest hrest conn' hmem => ?_, fun r hr conn' hmem => ?_⟩
  · have hne : conn' ≠ conn := by
      rintro rfl
      exact hconn (h.connecting conn' hmem)
    simpa [setState, hne] using h.connecting conn' hmem
  · exact (h.passed rest hrest conn' hmem).imp_right (hleaving conn')
  · exact (h.closed r hr conn' hmem).imp_right (hleaving conn')

theorem Settled.post (h : Settled s) {loop : Nat} {functor : ServerFunctor}
    (hfunctor : ∀ conn, functor ≠ .connectEstablished conn) : Settled (s.post loop functor) := by
  have heq : (s.post loop functor).establishing = s.establishing := by
    cases functor with
    | connectEstablished conn => exact absurd rfl (hfunctor conn)
    | _ => simp [establishing, TcpServer.post]
  refine ⟨h.defined, ?_, ?_, ?_, h.registered, h.found, h.passed, h.closed⟩
  · rw [heq]
    exact h.connecting
  · rw [heq]
    exact h.once
  · rw [heq]
    exact h.known

theorem Settled.checkAllClosed (h : Settled s) : Settled s.checkAllClosed := by
  unfold TcpServer.checkAllClosed
  split
  · exact h
  · exact ⟨h.defined, h.connecting, h.once, h.known, h.registered, h.found, h.passed, h.closed⟩

theorem Settled.shutdown (h : Settled s) (inLoop : Bool) (conn : Nat) :
    Settled (s.shutdown inLoop conn) := by
  unfold TcpServer.shutdown
  split
  · next hconnected =>
    have hleft : Settled (s.setState conn .disconnecting) :=
      h.leave (by simp [hconnected]) (.inl rfl)
    dsimp only
    split
    · exact hleft
    · exact hleft.post (by simp)
  · exact h

theorem Settled.removeConnectionInLoop (h : Settled s) (conn : Nat) :
    Settled (s.removeConnectionInLoop conn) := by
  apply Settled.checkAllClosed
  apply Settled.post
  · refine ⟨h.defined, h.connecting, h.once, h.known, fun conn' hmem => ?_, h.found, h.passed, h.closed⟩
    exact h.registered conn' (List.mem_filter.mp hmem).1
  · simp

theorem Settled.handleClose (h : Settled s) (hconn : s.state conn ≠ .connecting) :
    Settled (s.handleClose conn) := by
  have hleft := h.leave hconn (.inr rfl)
  unfold TcpServer.handleClose
  dsimp only
  split
  · exact ⟨hleft.defined, hleft.connecting, hleft.once, hleft.known, hleft.registered, hleft.found,
      hleft.passed, hleft.closed⟩
  · exact hleft.post (by simp)

theorem Settled.connectDestroyed (h : Settled s) (conn : Nat) : Settled (s.connectDestroyed conn) := by
  unfold TcpServer.connectDestroyed
  split
  · next hconnected => exact h.leave (by simp [hconnected]) (.inr rfl)
  · exact h

/-- The functor that establishes a connection is gone from the queue. -/
theorem Settled.connectEstablished (h : Settled s) (hconn : s.state conn = .connecting)
    (hnot : conn ∉ s.establishing) : Settled (s.connectEstablished conn) := by
  have hleaving : ∀ conn', s.Leaving conn' → (s.connectEstablished conn).Leaving conn' := by
    intro conn' hleaving
    have hne : conn' ≠ conn := by
      rintro rfl
      simp [Leaving, hconn] at hleaving
    simpa [Leaving, TcpServer.connectEstablished, setState, hne] using hleaving
  refine ⟨h.defined, fun conn' hmem => ?_, h.once, h.known, h.registered, h.found,
    fun rest hrest conn' hmem => ?_, fun r hr conn' hmem => ?_⟩
  · have hne : conn' ≠ conn := by
      rintro rfl
      exact hnot hmem
    simpa [TcpServer.connectEstablished, setState, hne] using h.connecting conn' hmem
  · exact (h.passed rest hrest conn' hmem).imp_right (hleaving conn')
  · exact (h.closed r hr conn' hmem).imp_right (hleaving conn')

/-- A connection is created and entered in `connections_`. -/
theorem Settled.enter (h : Settled s) (nextLoop ioLoop : Nat) :
    Settled { s with
      nextConnectionId := s.nextConnectionId + 1
      nextLoop := nextLoop
      connections := s.connections ++ [s.nextConnectionId]
      state := Function.update s.state s.nextConnectionId .connecting
      loop := Function.update s.loop s.nextConnectionId ioLoop } := by
  have hleaving : ∀ conn < s.nextConnectionId, s.Leaving conn →
      (Function.update s.state s.nextConnectionId .connecting conn = .disconnecting ∨
        Function.update s.state s.nextConnectionId .connecting conn = .disconnected) := by
    intro conn hlt hleaving
    rwa [Function.update_of_ne hlt.ne]
  refine ⟨h.defined, fun conn hmem => ?_, h.once, fun conn hmem => ?_, fun conn hmem => ?_,
    fun conn hmem => ?_, fun rest hrest conn hmem => ?_, fun r hr conn hmem => ?_⟩
  · have hlt := h.known conn hmem
    simpa [hlt.ne] using h.connecting conn hmem
  · exact (h.known conn hmem).trans (Nat.lt_succ_self _)
  · rcases List.mem_append.mp hmem with hmem | hmem
    · exact (h.registered conn hmem).trans (Nat.lt_succ_self _)
    · rw [List.mem_singleton.mp hmem]
      exact Nat.lt_succ_self _
  · exact (h.found conn hmem).trans (Nat.lt_succ_self _)
  · exact (h.passed rest hrest conn hmem).imp_right (hleaving conn (h.found conn hmem))
  · obtain ⟨hlt, hleft⟩ := h.closed r hr conn hmem
    exact ⟨hlt.trans (Nat.lt_succ_self _), hleaving conn hlt hleft⟩

theorem Settled.postEstablished (h : Settled s) (hconn : s.state conn = .connecting)
    (hnot : conn ∉ s.establishing) (hlt : conn < s.nextConnectionId) (loop : Nat) :
    Settled (s.post loop (.connectEstablished conn)) := by
  have heq : (s.post loop (.connectEstablished conn)).establishing = s.establishing ++ [conn] := by
    simp [establishing, TcpServer.post]
  refine ⟨h.defined, ?_, ?_, ?_, h.registered, h.found, h.passed, h.closed⟩
  · rw [heq]
    intro conn' hmem
    rcases List.mem_append.mp hmem with hmem | hmem
    · exact h.connecting conn' hmem
    · rw [List.mem_singleton.mp hmem]
      exact hconn
  · rw [heq, ← List.concat_eq_append]
    exact h.once.concat hnot
  · rw [heq]
    intro conn' hmem
    rcases List.mem_append.mp hmem with hmem | hmem
    · exact h.known conn' hmem
    · rw [List.mem_singleton.mp hmem]
      exact hlt

theorem Settled.newConnection (h : Settled s) : Settled s.newConnection := by
  have henter := h.enter (if s.nextLoop + 1 < s.ioThreads then s.nextLoop + 1 else 0) s.getNextLoop
  have hnot : s.nextConnectionId ∉ s.establishing := fun hmem => lt_irrefl _ (h.known _ hmem)
  unfold TcpServer.newConnection
  dsimp only
  split
  · apply henter.connectEstablished
    · simp
    · exact hnot
  · apply henter.postEstablished
    · simp
    · exact hnot
    · exact Nat.lt_succ_self _

theorem Settled.closeAllConnectionsInLoop (h : Settled s) {callback : Bool}
    (hunder : s.closing = true → ∀ conn ∈ s.connections, s.Leaving conn) :
    Settled (s.closeAllConnectionsInLoop callback) := by
  unfold TcpServer.closeAllConnectionsInLoop
  split
  · next hclosing =>
    refine ⟨h.defined, h.connecting, h.once, h.known, h.registered, h.found, h.passed,
      fun r hr conn hmem => ?_⟩
    rcases List.mem_append.mp hr with hr | hr
    · exact h.closed r hr conn hmem
    · cases List.mem_singleton.mp hr
      exact ⟨h.registered conn hmem, hunder hclosing conn hmem⟩
  · refine ⟨h.defined, h.connecting, h.once, h.known, h.registered, h.registered,
      fun rest hrest conn hmem => ?_, h.closed⟩
    cases hrest
    exact .inl hmem

/-- The connection whose turn it is has been established, so that it is being closed now. -/
theorem leaving_shutdown (hconn : s.state conn ≠ .connecting) (inLoop : Bool) :
    (s.shutdown inLoop conn).Leaving conn := by
  unfold TcpServer.shutdown
  split
  · dsimp only
    split <;> exact .inl (Function.update_self ..)
  · next hnot =>
    unfold Leaving
    cases hs : s.state conn with
    | connecting => exact absurd hs hconn
    | connected => exact absurd hs hnot
    | disconnecting => exact .inl rfl
    | disconnected => exact .inr rfl

theorem Settled.closeNext (h : Settled s) {conns : List Nat} (hshutting : s.shutting = some conns)
    {fails : Bool} (hconn : ∀ conn rest, conns = conn :: rest →
      s.state conn ≠ .connecting ∧ s.failsInside fails conn = false) :
    Settled (s.closeNext fails conns) := by
  cases conns with
  | nil =>
    apply Settled.checkAllClosed
    refine ⟨h.defined, h.connecting, h.once, h.known, h.registered, h.found, fun rest hrest => ?_,
      fun r hr conn hmem => ?_⟩
    · cases hrest
    · rcases List.mem_append.mp hr with hr | hr
      · exact h.closed r hr conn hmem
      · cases List.mem_singleton.mp hr
        refine ⟨h.found conn hmem, ?_⟩
        exact (h.passed [] hshutting conn hmem).resolve_left (List.not_mem_nil)
  | cons conn rest =>
    -- the list of those still to come gets shorter by the connection that is shut down
    obtain ⟨hestablished, hsent⟩ := hconn conn rest rfl
    have hleaving := leaving_shutdown hestablished (s.loop conn = 0)
    obtain ⟨h₁, h₂, h₃, h₄, h₅, h₆, h₇, h₈⟩ := h.shutdown (s.loop conn = 0) conn
    have hsame : s.closeNext fails (conn :: rest) =
        { s.shutdown (s.loop conn = 0) conn with shutting := some rest } := by
      simp only [TcpServer.closeNext, TcpServer.shutdown, hsent]
      repeat' split
      all_goals first | rfl | contradiction
    have hrest : (s.shutdown (s.loop conn = 0) conn).shutting = some (conn :: rest) := by
      rw [← hshutting]
      unfold TcpServer.shutdown
      split
      · dsimp only
        split <;> rfl
      · rfl
    rw [hsame]
    refine ⟨h₁, h₂, h₃, h₄, h₅, h₆, fun rest' heq conn' hmem => ?_, h₈⟩
    cases heq
    rcases h₇ (conn :: rest) hrest conn' hmem with hmem' | hleft
    · rcases List.mem_cons.mp hmem' with rfl | hmem'
      · exact .inr hleaving
      · exact .inl hmem'
    · exact .inr hleft

/-- A functor is taken out of its queue. -/
theorem Settled.dequeue (h : Settled s) (index : Nat) :
    Settled { s with queue := s.queue.eraseIdx index } := by
  have hsub : ({ s with queue := s.queue.eraseIdx index } : TcpServer).establishing.Sublist
      s.establishing := (List.eraseIdx_sublist _ _).filterMap _
  exact ⟨h.defined, fun conn hmem => h.connecting conn (hsub.subset hmem), h.once.sublist hsub,
    fun conn hmem => h.known conn (hsub.subset hmem), h.registered, h.found, h.passed, h.closed⟩

/-- The functor that establishes a connection is the only one for it. -/
theorem Settled.notMem_dequeue (h : Settled s) {index : Nat} {p : Posted}
    (hget : s.queue[index]? = some p) (hp : p.functor = .connectEstablished conn) :
    s.state conn = .connecting ∧
      conn ∉ ({ s with queue := s.queue.eraseIdx index } : TcpServer).establishing := by
  obtain ⟨hlt, hget⟩ := List.getElem?_eq_some_iff.mp hget
  have hperm := (List.getElem_cons_eraseIdx_perm hlt).filterMap fun p : Posted =>
    match p.functor with
    | .connectEstablished conn => some conn
    | _ => none
  rw [hget, List.filterMap_cons, hp] at hperm
  have hnodup := hperm.nodup_iff.mpr h.once
  refine ⟨h.connecting conn (hperm.subset List.mem_cons_self), ?_⟩
  exact (List.nodup_cons.mp hnodup).1

theorem Settled.step (h : Settled s) (hcloses : ClosesEstablished s l)
    (hstep : s.step l = some s') : Settled s' := by
  cases l with
  | newConnection =>
    simp only [TcpServer.step, Option.ite_none_right_eq_some] at hstep
    obtain ⟨-, hstep⟩ := hstep
    cases hstep
    exact h.newConnection
  | stop =>
    simp only [TcpServer.step, Option.ite_none_right_eq_some] at hstep
    obtain ⟨-, hstep⟩ := hstep
    cases hstep
    exact ⟨h.defined, h.connecting, h.once, h.known, h.registered, h.found, h.passed, h.closed⟩
  | closeAllConnections callback =>
    simp only [TcpServer.step, Option.ite_none_right_eq_some] at hstep
    obtain ⟨-, hstep⟩ := hstep
    cases hstep
    exact h.closeAllConnectionsInLoop hcloses
  | remoteCloseAllConnections callback =>
    cases hstep
    exact h.post (by simp)
  | closeNext fails =>
    simp only [TcpServer.step, Option.map_eq_some_iff] at hstep
    obtain ⟨conns, hshutting, rfl⟩ := hstep
    refine h.closeNext hshutting fun conn rest heq => ?_
    exact hcloses conn rest (heq ▸ hshutting)
  | shutdown inLoop conn =>
    simp only [TcpServer.step, Option.ite_none_right_eq_some] at hstep
    obtain ⟨-, hstep⟩ := hstep
    cases hstep
    exact h.shutdown inLoop conn
  | handleClose conn =>
    simp only [TcpServer.step, Option.ite_none_right_eq_some, Bool.and_eq_true, Bool.or_eq_true,
      decide_eq_true_eq] at hstep
    obtain ⟨⟨-, hstate⟩, hstep⟩ := hstep
    cases hstep
    apply h.handleClose
    rcases hstate with hstate | hstate <;> simp [hstate]
  | closeCallback =>
    simp only [TcpServer.step, Option.ite_none_right_eq_some, Option.map_eq_some_iff] at hstep
    obtain ⟨-, conn, -, rfl⟩ := hstep
    have hpopped : Settled { s with removing := s.removing.tail } :=
      ⟨h.defined, h.connecting, h.once, h.known, h.registered, h.found, h.passed, h.closed⟩
    exact hpopped.removeConnectionInLoop conn
  | runFunctor index =>
    simp only [TcpServer.step, Option.bind_eq_some_iff, Option.ite_none_right_eq_some] at hstep
    obtain ⟨p, hget, -, hstep⟩ := hstep
    cases hstep
    have hdequeued := h.dequeue index
    cases hp : p.functor with
    | connectEstablished conn =>
      obtain ⟨hstate, hnot⟩ := h.notMem_dequeue hget hp
      exact hdequeued.connectEstablished hstate hnot
    | shutdownInLoop conn => exact hdequeued
    | connectDestroyed conn => exact hdequeued.connectDestroyed conn
    | removeConnectionInLoop conn => exact hdequeued.removeConnectionInLoop conn
    | closeAllConnectionsInLoop callback =>
      apply hdequeued.closeAllConnectionsInLoop
      exact hcloses callback (by simp [hget, hp])

/-- In every run in which the connections that `CloseAllConnectionsInLoop` comes to have been
established, and in which no `send` fails inside of it, it closes all of them. -/
theorem all_closed (ioThreads : Nat) (steps : List ServerStep) (s : TcpServer)
    (hcloses : Transition.Meets step ClosesEstablished (start ioThreads) steps)
    (hrun : (start ioThreads).run steps = some s) : AllClosed s := by
  have h : Settled s := Transition.invariant_run (fun _ _ _ hI hC hstep => hI.step hC hstep)
    (Settled.start ioThreads) hcloses hrun
  refine ⟨h.defined, fun r hr _ conn hmem hconnected => ?_⟩
  rcases (h.closed r hr conn hmem).2 with hleft | hleft
  · cases hconnected.symm.trans hleft
  · cases hconnected.symm.trans hleft

instance (s : TcpServer) (l : ServerStep) : Decidable (ClosesEstablished s l) := by
  cases l with
  | closeNext fails =>
    refine decidable_of_iff (∀ conns ∈ s.shutting, ∀ conn ∈ conns.head?,
      s.state conn ≠ .connecting ∧ s.failsInside fails conn = false) ?_
    unfold ClosesEstablished
    rcases s.shutting with _ | _ | ⟨conn, rest⟩ <;> simp
  | closeAllConnections | runFunctor =>
    unfold ClosesEstablished
    infer_instance
  | _ => exact .isTrue trivial

/-- Two connections are established on two io loops, and all functors run. On their own loops a `send`
may fail. -/
def closedBoth : List ServerStep :=
  [.newConnection, .newConnection, .runFunctor 0, .runFunctor 0, .stop, .closeAllConnections true,
    .closeNext true, .closeNext true, .closeNext true, .runFunctor 0, .runFunctor 0, .handleClose 1,
    .runFunctor 0, .runFunctor 0]

theorem all_closed_both : ∃ s, (start 2).run closedBoth = some s ∧ s.closed.length = 1 ∧
    s.queue.isEmpty ∧ s.state 1 = .disconnected ∧ s.state 2 = .disconnecting ∧ AllClosed s :=
  ⟨_, rfl, rfl, rfl, by decide, by decide, all_closed 2 closedBoth _ (by decide) rfl⟩

/-- A connection that is established only after `CloseAllConnectionsInLoop` has come to it stays
connected. -/
theorem established_after_close :
    ∃ s, (start 1).run [.newConnection, .closeAllConnections true, .closeNext false,
      .closeNext false, .runFunctor 0] = some s ∧ s.queue.isEmpty ∧ ¬AllClosed s := by
  refine ⟨_, rfl, rfl, fun h => ?_⟩
  exact h.2 ⟨[1], 1⟩ (List.mem_singleton.mpr rfl) (fun p hp => nomatch hp) 1
    (List.mem_singleton.mpr rfl) (by decide)

/-- Without io threads, a `send` that fails while the only connection is shut down erases it. -/
example : ((start 0).run [.newConnection, .closeAllConnections true, .closeNext true]).map
    (fun s => (s.connections, s.undefined)) = some ([], true) := rfl

end TcpServer

end NebulaRpc.Net
