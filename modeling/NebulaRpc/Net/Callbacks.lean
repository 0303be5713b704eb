import NebulaRpc.Library.Transition
import NebulaRpc.Net.Output

/-!
# The callbacks of a connection

The life of a `TcpConnection` from `ConnectEstablished` to `ConnectDestroyed`: the events that are
dispatched to it, with whatever the message callback does, the operations of users on the loop
thread, and `Shutdown` on another thread, which changes the state at once and posts the rest.

An event may be dispatched to a connection that is closed already: one epoll wake-up reports many
channels, and the handler of one of them may close another.
-/

namespace NebulaRpc.Net

/-- What users of a connection may call on its loop thread. -/
inductive UserCall where
  | write (data : List UInt8)
  | flush (send : SendResult)
  | shutdown (send : SendResult)
  | forceClose

def UserCall.step : UserCall → ConnectionAction
  | .write data => .write data
  | .flush send => .flush send
  | .shutdown send => .shutdown send
  | .forceClose => .forceClose

/-- `read` has got bytes, so the message callback is called. -/
def ReadResult.hasData : ReadResult → Bool
  | .data bytes => bytes ≠ []
  | _ => false

/-- The connection callback and the message callback. -/
def ConnectionCallback.isReport : ConnectionCallback → Bool
  | .up | .message | .down => true
  | _ => false

structure ConnectionLife where
  connection : TcpConnection
  /-- `ShutdownInLoop` has been posted -/
  shutdownQueued : Bool := false
  destroyed : Bool := false

inductive ConnectionLifeStep where
  /-- `Channel::HandleEvent`, with the calls of the message callback -/
  | handleEvent (revents : Revents) (read : ReadResult) (send : SendResult) (user : List UserCall)
  | call (op : UserCall)
  /-- `Shutdown` on another thread -/
  | requestShutdown
  /-- `ShutdownInLoop`, from the queue -/
  | shutdownInLoop (send : SendResult)
  | connectDestroyed

namespace ConnectionLife

def step (s : ConnectionLife) : ConnectionLifeStep → Option ConnectionLife
  | .handleEvent revents read send user =>
    -- `ConnectDestroyed` has removed the channel
    if s.destroyed then none
    else some { s with
      connection := s.connection.handleEvent (·.acts (user.map UserCall.step)) revents read send }
  | .call op => some { s with connection := s.connection.act op.step }
  | .requestShutdown =>
    some (if s.connection.state = .connected then
      { s with
        connection := { s.connection with state := .disconnecting }
        shutdownQueued := true }
    else s)
  | .shutdownInLoop send =>
    if s.shutdownQueued then
      some { s with connection := s.connection.shutdownInLoop send, shutdownQueued := false }
    else none
  | .connectDestroyed =>
    if s.destroyed then none
    else some { s with connection := s.connection.connectDestroyed, destroyed := true }

def run (s : ConnectionLife) (steps : List ConnectionLifeStep) : Option ConnectionLife :=
  Transition.run step s steps

/-- A connection that has just been established. -/
def start (maxInputBufferBytes maxOutputBufferBytes highWatermark : Nat) : ConnectionLife :=
  { connection :=
      (OutputStream.start maxInputBufferBytes maxOutputBufferBytes highWatermark).connection }

end ConnectionLife

namespace TcpConnection

/-- The calls of the connection callback and of the message callback. -/
def reports (c : TcpConnection) : List ConnectionCallback :=
  c.callbacks.filter ConnectionCallback.isReport

/-- The calls of the close callback. -/
def closes (c : TcpConnection) : Nat := c.callbacks.count .close

end TcpConnection

/-- Up, then messages, then perhaps down. -/
inductive InOrder : List ConnectionCallback → Prop where
  | up (n : Nat) : InOrder (.up :: List.replicate n .message)
  | down (n : Nat) : InOrder (.up :: (List.replicate n .message ++ [.down]))

/-- The protocol of the callbacks. -/
structure CallbackProtocol (s : ConnectionLife) : Prop where
  inOrder : InOrder s.connection.reports
  closes : s.connection.closes ≤ 1
  down : s.destroyed = true → ConnectionCallback.down ∈ s.connection.reports

/-- No bytes are read for a connection that is closed already or by the same event, and
`ConnectDestroyed` does not find the connection shutting down. -/
def Orderly (s : ConnectionLife) : ConnectionLifeStep → Prop
  | .handleEvent revents read _ _ => s.destroyed = false → revents.reads && read.hasData →
      s.connection.state ≠ .disconnected ∧ revents.err = false ∧
        (revents.hup && !revents.inp) = false
  | .connectDestroyed => s.connection.state ≠ .disconnecting
  | _ => True

instance (s : ConnectionLife) (l : ConnectionLifeStep) : Decidable (Orderly s l) := by
  cases l <;> unfold Orderly <;> infer_instance

/-- Nothing is reported behind the end. -/
theorem InOrder.not_behind_down {earlier later : List ConnectionCallback} {c : ConnectionCallback}
    (h : InOrder (earlier ++ .down :: c :: later)) : False := by
  have hmem : ∀ n, ConnectionCallback.down ∉
      ConnectionCallback.up :: List.replicate n ConnectionCallback.message := by
    intro n
    simp [List.mem_replicate]
  generalize heq : earlier ++ .down :: c :: later = reports at h
  cases h with
  | up n =>
    apply hmem n
    rw [← heq]
    simp
  | down n =>
    apply hmem n
    have hlast := congrArg List.dropLast heq
    rw [← List.cons_append, List.dropLast_concat, List.dropLast_append_of_ne_nil (by simp),
      List.dropLast_cons_of_ne_nil (by simp)] at hlast
    rw [← hlast]
    simp

/-! ## What an action reports -/

namespace TcpConnection

/-- Nothing is reported, and the connection is closed as little as before. -/
structure Unreported (c c' : TcpConnection) : Prop where
  state : c'.state = .disconnected ↔ c.state = .disconnected
  started : c'.state = .connecting → c.state = .connecting
  reports : c'.reports = c.reports
  closes : c'.closes = c.closes

/-- What an action reports, other than a message. -/
inductive Reports (c c' : TcpConnection) : Prop where
  | nothing (h : Unreported c c')
  | down (hstate : c.state ≠ .disconnected) (hstate' : c'.state = .disconnected)
      (hreports : c'.reports = c.reports ++ [.down]) (hcloses : c'.closes ≤ c.closes + 1)

variable {c c₁ c' : TcpConnection}

theorem Unreported.same (hstate : c'.state = c.state) (hcallbacks : c'.callbacks = c.callbacks) :
    Unreported c c' := by
  refine ⟨by rw [hstate], fun h => hstate ▸ h, ?_, ?_⟩
  · rw [TcpConnection.reports, hcallbacks, TcpConnection.reports]
  · rw [TcpConnection.closes, hcallbacks, TcpConnection.closes]

/-- The callbacks that are queued. -/
theorem unreported_call {callback : ConnectionCallback} (hreport : callback.isReport = false)
    (hclose : callback ≠ .close) : Unreported c (c.call callback) := by
  refine ⟨Iff.rfl, id, ?_, ?_⟩
  · simp [TcpConnection.reports, call, hreport]
  · simp [TcpConnection.closes, call, hclose]

theorem Reports.after (h' : Reports c₁ c') (h : Unreported c c₁) : Reports c c' := by
  obtain ⟨hstate, hstarted, hreports, hcloses⟩ := h
  cases h' with
  | nothing h' =>
    exact .nothing ⟨h'.state.trans hstate, fun h => hstarted (h'.started h),
      h'.reports.trans hreports, h'.closes.trans hcloses⟩
  | down hs hs' hr hc =>
    rw [hreports] at hr
    rw [hcloses] at hc
    exact .down (fun hclosed => hs (hstate.mpr hclosed)) hs' hr hc

theorem Reports.refl : Reports c c := .nothing (.same rfl rfl)

theorem reports_handleClose (c : TcpConnection) : Reports c c.handleClose := by
  unfold handleClose
  split
  · exact .refl
  · next hstate =>
    refine .down hstate rfl ?_ ?_
    · simp [call, TcpConnection.reports, List.filter_cons, ConnectionCallback.isReport]
    · simp [call, TcpConnection.closes]

theorem reports_forceCloseInLoop (c : TcpConnection) : Reports c c.forceCloseInLoop := by
  unfold forceCloseInLoop
  split
  · exact .refl
  · exact (reports_handleClose _).after (.same rfl rfl)

theorem unreported_notifyHighWatermark (c : TcpConnection) (before after : Nat) :
    Unreported c (c.notifyHighWatermark before after) := by
  unfold notifyHighWatermark
  split
  · exact .same rfl rfl
  · have hcall : Unreported { c with highWatermarkCount := c.highWatermarkCount + 1 }
        (TcpConnection.call { c with highWatermarkCount := c.highWatermarkCount + 1 }
          (.highWatermark after)) := unreported_call rfl (by simp)
    exact ⟨hcall.state, hcall.started, hcall.reports, hcall.closes⟩

theorem reports_writeInLoop (c : TcpConnection) (data : List UInt8) :
    Reports c (c.writeInLoop data) := by
  unfold writeInLoop
  split
  · exact .refl
  · dsimp only
    split
    · exact (reports_forceCloseInLoop _).after (.same rfl rfl)
    · obtain ⟨hstate, hstarted, hreports, hcloses⟩ := unreported_notifyHighWatermark c
        c.outputBuffer.readableBytes (c.outputBuffer.readableBytes + data.length)
      exact .nothing ⟨hstate, hstarted, hreports, hcloses⟩

theorem unreported_sendFin (c : TcpConnection) : Unreported c c.sendFin := by
  unfold sendFin
  split <;> exact .same rfl rfl

theorem reports_writeOutputBufferInLoop (c : TcpConnection) (send : SendResult) :
    Reports c (c.writeOutputBufferInLoop send) := by
  unfold writeOutputBufferInLoop
  split
  · exact .nothing (.same rfl rfl)
  · cases send with
    | wouldBlock => exact .nothing (.same rfl rfl)
    | failed => exact reports_forceCloseInLoop c
    | sent count =>
      cases count with
      | zero => exact .nothing (.same rfl rfl)
      | succ count =>
        dsimp only
        split
        · have hcomplete : ∀ c : TcpConnection, Unreported c (c.call .writeComplete) :=
            fun _ => unreported_call rfl (by simp)
          split
          · have hfin := Reports.nothing (unreported_sendFin (TcpConnection.call
              { c with
                sent := c.sent ++ c.outputBuffer.readable.take (count + 1)
                outputBuffer := c.outputBuffer.retrieve (count + 1)
                isWriting := false } .writeComplete))
            exact (hfin.after (hcomplete _)).after (.same rfl rfl)
          · exact (Reports.nothing (hcomplete _)).after (.same rfl rfl)
        · exact .nothing (.same rfl rfl)

theorem reports_flushInLoop (c : TcpConnection) (send : SendResult) :
    Reports c (c.flushInLoop send) := by
  unfold flushInLoop
  split
  · exact .refl
  · exact reports_writeOutputBufferInLoop c send

theorem reports_shutdownInLoop (c : TcpConnection) (send : SendResult) :
    Reports c (c.shutdownInLoop send) := by
  unfold shutdownInLoop
  split
  · split
    · exact .refl
    · exact reports_flushInLoop c send
  · exact .nothing (unreported_sendFin c)

/-- `Shutdown` on another thread does not close the connection. -/
theorem unreported_disconnecting (hstate : c.state = .connected) :
    Unreported c { c with state := .disconnecting } :=
  ⟨by simp [hstate], by simp, rfl, rfl⟩

theorem reports_connectDestroyed (c : TcpConnection) : Reports c c.connectDestroyed := by
  unfold connectDestroyed
  split
  · next hstate =>
    refine .down (by simp [hstate]) rfl ?_ ?_
    · simp [call, TcpConnection.reports, List.filter_cons, ConnectionCallback.isReport]
    · simp [call, TcpConnection.closes]
  · exact .refl

/-- Only the reception of bytes reports a message. -/
theorem reports_act (c : TcpConnection) {l : ConnectionAction} (hl : ∀ bytes, l ≠ .receive bytes) :
    Reports c (c.act l) := by
  cases l with
  | write data =>
    show Reports c (c.write data)
    unfold write
    split
    · exact reports_writeInLoop c data
    · exact .refl
  | flush send =>
    show Reports c (c.flush send)
    unfold flush
    split
    · exact reports_flushInLoop c send
    · exact .refl
  | shutdown send =>
    show Reports c (c.shutdown send)
    unfold shutdown
    split
    · next hstate => exact (reports_shutdownInLoop _ send).after (unreported_disconnecting hstate)
    · exact .refl
  | forceClose | handleError => exact reports_forceCloseInLoop c
  | handleClose => exact reports_handleClose c
  | handleWrite send =>
    show Reports c (c.handleWrite send)
    unfold handleWrite
    split
    · exact reports_writeOutputBufferInLoop c send
    · exact .refl
  | receive bytes => exact absurd rfl (hl bytes)
  | limitInput =>
    show Reports c c.limitInput
    unfold limitInput
    split
    · exact (reports_forceCloseInLoop _).after (.same rfl rfl)
    · exact .refl
  | connectDestroyed => exact reports_connectDestroyed c

/-- What has been reported while the connection is open, and behind its end. -/
structure Reported (c : TcpConnection) : Prop where
  started : c.state ≠ .connecting
  up : c.state ≠ .disconnected →
    (∃ n, c.reports = .up :: List.replicate n .message) ∧ c.closes = 0
  down : c.state = .disconnected →
    (∃ n, c.reports = .up :: (List.replicate n .message ++ [.down])) ∧ c.closes ≤ 1

theorem Reported.inOrder (h : Reported c) : InOrder c.reports := by
  by_cases hstate : c.state = .disconnected
  · obtain ⟨⟨n, hreports⟩, -⟩ := h.down hstate
    rw [hreports]
    exact .down n
  · obtain ⟨⟨n, hreports⟩, -⟩ := h.up hstate
    rw [hreports]
    exact .up n

theorem Reported.closes_le (h : Reported c) : c.closes ≤ 1 := by
  by_cases hstate : c.state = .disconnected
  · exact (h.down hstate).2
  · rw [(h.up hstate).2]
    exact zero_le_one

theorem Reported.reports (h : Reported c) (hreports : Reports c c') : Reported c' := by
  cases hreports with
  | nothing hsame =>
    refine ⟨fun hstate => h.started (hsame.started hstate), fun hopen => ?_, fun hclosed => ?_⟩
    · rw [hsame.reports, hsame.closes]
      exact h.up fun hstate => hopen (hsame.state.mpr hstate)
    · rw [hsame.reports, hsame.closes]
      exact h.down (hsame.state.mp hclosed)
  | down hstate hstate' hr hc =>
    refine ⟨by simp [hstate'], fun hopen => absurd hstate' hopen, fun _ => ?_⟩
    obtain ⟨⟨n, hreports⟩, hcloses⟩ := h.up hstate
    refine ⟨⟨n, by rw [hr, hreports, List.cons_append]⟩, ?_⟩
    rwa [hcloses] at hc

theorem Reported.receive (h : Reported c) (hopen : c.state ≠ .disconnected) (bytes : List UInt8) :
    Reported (c.act (.receive bytes)) := by
  refine ⟨h.started, fun _ => ?_, fun hclosed => absurd hclosed hopen⟩
  obtain ⟨⟨n, hreports⟩, hcloses⟩ := h.up hopen
  refine ⟨⟨n + 1, ?_⟩, ?_⟩
  · rw [List.replicate_succ', ← List.cons_append, ← hreports]
    simp [act, call, TcpConnection.reports, List.filter_cons, ConnectionCallback.isReport]
  · rw [← hcloses]
    simp [act, call, TcpConnection.closes]

/-- Actions that receive nothing. -/
theorem Reported.acts (h : Reported c) {steps : List ConnectionAction}
    (hsteps : ∀ l ∈ steps, ∀ bytes, l ≠ .receive bytes) : Reported (c.acts steps) := by
  induction steps generalizing c with
  | nil => exact h
  | cons l steps ih =>
    apply ih (h.reports (reports_act c (hsteps l List.mem_cons_self)))
    exact fun l' hl' => hsteps l' (List.mem_cons_of_mem _ hl')

/-- What has been reported stays in front. -/
theorem prefix_reports_act (c : TcpConnection) (l : ConnectionAction) :
    c.reports <+: (c.act l).reports := by
  by_cases hl : ∃ bytes, l = .receive bytes
  · obtain ⟨bytes, rfl⟩ := hl
    simp [act, call, TcpConnection.reports]
  · cases reports_act c (not_exists.mp hl) with
    | nothing hsame => rw [hsame.reports]
    | down _ _ hr _ =>
      rw [hr]
      exact List.prefix_append _ _

theorem prefix_reports_acts (c : TcpConnection) (steps : List ConnectionAction) :
    c.reports <+: (c.acts steps).reports := by
  induction steps generalizing c with
  | nil => exact List.prefix_rfl
  | cons l steps ih => exact (prefix_reports_act c l).trans (ih (c.act l))

theorem not_receive_map_step (user : List UserCall) :
    ∀ l ∈ user.map UserCall.step, ∀ bytes, l ≠ .receive bytes := by
  intro l hl bytes
  obtain ⟨op, -, rfl⟩ := List.mem_map.mp hl
  cases op <;> simp [UserCall.step]

/-- The actions of `HandleRead` for bytes, on a connection that is open. -/
theorem Reported.readActs (h : Reported c) (hopen : c.state ≠ .disconnected) {bytes : List UInt8}
    (hbytes : bytes ≠ []) (user : List UserCall) :
    Reported (c.acts (readActs (user.map UserCall.step) (.data bytes))) := by
  obtain ⟨byte, bytes, rfl⟩ := List.exists_cons_of_ne_nil hbytes
  show Reported ((c.act (.receive (byte :: bytes))).acts (user.map UserCall.step ++ [.limitInput]))
  apply (h.receive hopen _).acts
  intro l hl
  rw [List.mem_append, List.mem_singleton] at hl
  obtain hl | rfl := hl
  · exact not_receive_map_step user l hl
  · simp

/-- An event for which no bytes are read. -/
theorem Reported.eventActs_of_no_data (h : Reported c) {revents : Revents} {read : ReadResult}
    (hdata : (revents.reads && read.hasData) = false) (send : SendResult) (user : List UserCall) :
    Reported (c.acts (eventActs (user.map UserCall.step) revents read send)) := by
  apply h.acts
  intro l hl bytes
  simp only [eventActs, List.mem_append] at hl
  obtain hl | hl | hl | hl := hl
  · split at hl <;> simp_all
  · split at hl <;> simp_all
  · split at hl
    · next hreads =>
      rw [hreads, Bool.true_and] at hdata
      cases read with
      | data bytes =>
        obtain rfl : bytes = [] := by simpa [ReadResult.hasData] using hdata
        simp_all [TcpConnection.readActs]
      | wouldBlock | failed => simp_all [TcpConnection.readActs]
    · cases hl
  · split at hl <;> simp_all

/-- An event for which bytes are read on a connection that it does not close before. -/
theorem Reported.eventActs_of_open (h : Reported c) (hopen : c.state ≠ .disconnected)
    {revents : Revents} {bytes : List UInt8} (hreads : revents.reads = true) (hbytes : bytes ≠ [])
    (herr : revents.err = false) (hhup : (revents.hup && !revents.inp) = false) (send : SendResult)
    (user : List UserCall) :
    Reported (c.acts (eventActs (user.map UserCall.step) revents (.data bytes) send)) := by
  unfold eventActs
  rw [hhup, herr, hreads]
  simp only [Bool.false_eq_true, if_false, if_true, List.nil_append, acts_append]
  apply (h.readActs hopen hbytes user).acts
  intro l hl bytes
  split at hl <;> simp_all

end TcpConnection

namespace ConnectionLife

open TcpConnection

variable {s s' : ConnectionLife} {l : ConnectionLifeStep}

/-- The callbacks agree with the state, and a connection that is destroyed is closed. -/
structure Settled (s : ConnectionLife) : Prop where
  reported : Reported s.connection
  destroyed : s.destroyed = true → s.connection.state = .disconnected

theorem Settled.start (maxInputBufferBytes maxOutputBufferBytes highWatermark : Nat) :
    Settled (start maxInputBufferBytes maxOutputBufferBytes highWatermark) := by
  refine ⟨⟨?_, fun _ => ⟨⟨0, rfl⟩, rfl⟩, fun hclosed => ?_⟩, fun hdestroyed => ?_⟩
  · simp [ConnectionLife.start, OutputStream.start, connectEstablished, call]
  · cases hclosed
  · cases hdestroyed

/-- An action of the loop thread that receives nothing. -/
theorem Settled.reports (h : Settled s) {c : TcpConnection} (hreports : Reports s.connection c)
    (queued : Bool) : Settled { s with connection := c, shutdownQueued := queued } := by
  refine ⟨h.reported.reports hreports, fun hdestroyed => ?_⟩
  cases hreports with
  | nothing hsame => exact hsame.state.mpr (h.destroyed hdestroyed)
  | down _ hstate' _ _ => exact hstate'

theorem Settled.handleEvent (h : Settled s) (hdestroyed : s.destroyed = false) {revents : Revents}
    {read : ReadResult} {send : SendResult} {user : List UserCall}
    (horderly : Orderly s (.handleEvent revents read send user)) :
    Settled { s with
      connection := s.connection.handleEvent (·.acts (user.map UserCall.step)) revents read send } := by
  refine ⟨?_, fun htrue => ?_⟩
  · rw [handleEvent_acts]
    by_cases hdata : (revents.reads && read.hasData) = true
    · obtain ⟨hopen, herr, hhup⟩ := horderly hdestroyed hdata
      obtain ⟨hreads, hdata⟩ := Bool.and_eq_true_iff.mp hdata
      cases read with
      | data bytes =>
        exact h.reported.eventActs_of_open hopen hreads (by simpa [ReadResult.hasData] using hdata)
          herr hhup send user
      | wouldBlock | failed => cases hdata
    · exact h.reported.eventActs_of_no_data (by simpa using hdata) send user
  · rw [show s.destroyed = true from htrue] at hdestroyed
    cases hdestroyed

theorem Settled.connectDestroyed (h : Settled s) (horderly : Orderly s .connectDestroyed) :
    Settled { s with connection := s.connection.connectDestroyed, destroyed := true } := by
  refine ⟨h.reported.reports (reports_connectDestroyed _), fun _ => ?_⟩
  have hstarted := h.reported.started
  have hopen : s.connection.state ≠ .disconnecting := horderly
  show s.connection.connectDestroyed.state = .disconnected
  unfold TcpConnection.connectDestroyed
  cases hstate : s.connection.state with
  | connecting => exact absurd hstate hstarted
  | connected => rfl
  | disconnecting => exact absurd hstate hopen
  | disconnected => simp [hstate]

theorem Settled.step (h : Settled s) (horderly : Orderly s l) (hstep : s.step l = some s') :
    Settled s' := by
  cases l with
  | handleEvent revents read send user =>
    simp only [ConnectionLife.step, Option.ite_none_left_eq_some] at hstep
    obtain ⟨hdestroyed, hstep⟩ := hstep
    cases hstep
    exact h.handleEvent (by simpa using hdestroyed) horderly
  | call op =>
    cases hstep
    apply h.reports
    apply reports_act
    intro bytes
    cases op <;> simp [UserCall.step]
  | requestShutdown =>
    cases hstep
    split
    · next hstate => exact h.reports (.nothing (unreported_disconnecting hstate)) true
    · exact h
  | shutdownInLoop send =>
    simp only [ConnectionLife.step, Option.ite_none_right_eq_some] at hstep
    obtain ⟨-, hstep⟩ := hstep
    cases hstep
    exact h.reports (reports_shutdownInLoop _ send) false
  | connectDestroyed =>
    simp only [ConnectionLife.step, Option.ite_none_left_eq_some] at hstep
    obtain ⟨-, hstep⟩ := hstep
    cases hstep
    exact h.connectDestroyed horderly

theorem Settled.protocol (h : Settled s) : CallbackProtocol s := by
  refine ⟨h.reported.inOrder, h.reported.closes_le, fun hdestroyed => ?_⟩
  obtain ⟨⟨n, hreports⟩, -⟩ := h.reported.down (h.destroyed hdestroyed)
  rw [hreports]
  simp

/-- The first half of an event closes the connection. -/
theorem state_acts_hangup {c : TcpConnection} {revents : Revents}
    (hclosed : ¬(c.state ≠ .disconnected ∧ revents.err = false ∧
      (revents.hup && !revents.inp) = false)) :
    (c.acts ((if revents.hup && !revents.inp then [.handleClose] else []) ++
      (if revents.err then [.handleError] else []))).state = .disconnected := by
  rw [acts_append]
  cases herr : revents.err with
  | true => exact state_forceCloseInLoop
  | false =>
    show (c.acts _).state = _
    cases hhup : (revents.hup && !revents.inp) with
    | true => exact state_handleClose
    | false => simpa [acts, herr, hhup] using hclosed

/-- A message behind the end. -/
theorem Settled.orderly (h : Settled s) (hprotocol : ∀ s', s.step l = some s' → CallbackProtocol s') :
    Orderly s l := by
  cases l with
  | handleEvent revents read send user =>
    intro hdestroyed hdata
    by_contra hclosed
    obtain ⟨hreads, hdata⟩ := Bool.and_eq_true_iff.mp hdata
    cases read with
    | wouldBlock | failed => cases hdata
    | data bytes =>
      have hbytes : bytes ≠ [] := by simpa [ReadResult.hasData] using hdata
      obtain ⟨byte, bytes, rfl⟩ := List.exists_cons_of_ne_nil hbytes
      have hstep : s.step (.handleEvent revents (.data (byte :: bytes)) send user) = some { s with
          connection := s.connection.handleEvent (·.acts (user.map UserCall.step)) revents
            (.data (byte :: bytes)) send } := by
        simp [ConnectionLife.step, hdestroyed]
      have horder := (hprotocol _ hstep).inOrder
      set hangup : List ConnectionAction :=
        (if revents.hup && !revents.inp then [.handleClose] else []) ++
          (if revents.err then [.handleError] else []) with hhangup
      have hreported : Reported (s.connection.acts hangup) := by
        apply h.reported.acts
        intro l hl bytes
        rw [hhangup, List.mem_append] at hl
        obtain hl | hl := hl <;> split at hl <;> simp_all
      obtain ⟨⟨n, hreports⟩, -⟩ := hreported.down (state_acts_hangup hclosed)
      have hmessage : ((s.connection.acts hangup).act (.receive (byte :: bytes))).reports =
          (.up :: List.replicate n .message) ++ [.down, .message] := by
        have happend : ((s.connection.acts hangup).act (.receive (byte :: bytes))).reports =
            (s.connection.acts hangup).reports ++ [.message] := by
          simp [act, call, TcpConnection.reports, List.filter_cons, ConnectionCallback.isReport]
        rw [happend, hreports]
        simp
      have hprefix : ((s.connection.acts hangup).act (.receive (byte :: bytes))).reports <+:
          (s.connection.handleEvent (·.acts (user.map UserCall.step)) revents
            (.data (byte :: bytes)) send).reports := by
        have hsplit : eventActs (user.map UserCall.step) revents (.data (byte :: bytes)) send =
            hangup ++ (.receive (byte :: bytes) :: (user.map UserCall.step ++ [.limitInput] ++
              (if revents.out then [.handleWrite send] else []))) := by
          simp [eventActs, hhangup, hreads, readActs]
        rw [handleEvent_acts, hsplit, acts_append _ hangup]
        exact prefix_reports_acts ((s.connection.acts hangup).act _) _
      rw [hmessage] at hprefix
      obtain ⟨later, hlater⟩ := hprefix
      rw [← hlater, List.append_assoc] at horder
      exact horder.not_behind_down
  | connectDestroyed =>
    intro hstate
    have hdestroyed : s.destroyed ≠ true := by
      intro hdestroyed
      rw [h.destroyed hdestroyed] at hstate
      cases hstate
    have hstep : s.step .connectDestroyed = some { s with
        connection := s.connection.connectDestroyed, destroyed := true } := by
      simp [ConnectionLife.step, hdestroyed]
    have hdown := (hprotocol _ hstep).down rfl
    obtain ⟨⟨n, hreports⟩, -⟩ := h.reported.up (by simp [hstate])
    have hsame : s.connection.connectDestroyed = s.connection := by
      simp [TcpConnection.connectDestroyed, hstate]
    rw [show _ = _ from hsame, hreports] at hdown
    simp [List.mem_replicate] at hdown
  | call | requestShutdown | shutdownInLoop => trivial

/-- Along a run, the callbacks keep to their protocol exactly when no bytes are read for a connection
that is closed already or by the same event, and `ConnectDestroyed` does not find the connection
shutting down. -/
theorem callback_protocol_iff (maxInputBufferBytes maxOutputBufferBytes highWatermark : Nat)
    (steps : List ConnectionLifeStep) :
    (∀ earlier, earlier <+: steps → ∀ s,
      (start maxInputBufferBytes maxOutputBufferBytes highWatermark).run earlier = some s →
        CallbackProtocol s) ↔
      Transition.Meets step Orderly
        (start maxInputBufferBytes maxOutputBufferBytes highWatermark) steps :=
  (Transition.meets_iff_forall_prefix (fun _ _ _ hI hC hstep => hI.step hC hstep)
    (fun _ hI => hI.protocol) (fun _ _ hI hprotocol => hI.orderly hprotocol)
    (Settled.start _ _ _)).symm

/-- Bytes that arrived in front of a reset are reported behind the end of the connection, and a
connection that is destroyed while it is shutting down is never reported down. -/
theorem message_behind_down :
    (∃ s, (start 0 0 0).run
        [.handleEvent { err := true, inp := true } (.data [1]) .wouldBlock []] = some s ∧
      s.connection.reports = [.up, .down, .message] ∧ ¬CallbackProtocol s) ∧
    ∃ s, (start 0 0 0).run [.call (.shutdown .wouldBlock), .connectDestroyed] = some s ∧
      s.connection.reports = [.up] ∧ ¬CallbackProtocol s := by
  refine ⟨⟨_, rfl, rfl, fun h => ?_⟩, ⟨_, rfl, rfl, fun h => ?_⟩⟩
  · have horder : InOrder ([.up] ++ .down :: .message :: []) := h.inOrder
    exact horder.not_behind_down
  · exact absurd (h.down rfl) (by decide)

end ConnectionLife

end NebulaRpc.Net
