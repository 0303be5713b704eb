import NebulaRpc.Net.TcpConnection

/-!
# The output of a connection

The actions of the loop thread on a `TcpConnection`, one after the other, with every answer that
`send` may give. An event that `Channel::HandleEvent` dispatches is a list of such actions, and what
user code does in the message callback stands between them. `OutputStream` keeps the payloads that
`Write` has put into the output buffer.

Write-complete and high-watermark callbacks are queued, so user code never runs in the middle of a
write; in the callbacks for a connection that is down, its operations do nothing.
-/

namespace NebulaRpc.Net

/-- What the loop thread does with a connection. -/
inductive ConnectionAction where
  | write (data : List UInt8)
  | flush (send : SendResult)
  | shutdown (send : SendResult)
  | forceClose
  | handleClose
  | handleError
  | handleWrite (send : SendResult)
  /-- `HandleRead` up to the message callback, for a `read` that has got bytes -/
  | receive (bytes : List UInt8)
  /-- the end of `HandleRead` -/
  | limitInput
  | connectDestroyed

namespace TcpConnection

/-- The end of `HandleRead`: the check of the input limit. -/
def limitInput (c : TcpConnection) : TcpConnection :=
  if c.maxInputBufferBytes > 0 ∧ c.inputBuffer.readableBytes > c.maxInputBufferBytes then
    { c with overloadCloseCount := c.overloadCloseCount + 1 }.forceCloseInLoop
  else c

def act (c : TcpConnection) : ConnectionAction → TcpConnection
  | .write data => c.write data
  | .flush send => c.flush send
  | .shutdown send => c.shutdown send
  | .forceClose => c.forceCloseInLoop
  | .handleClose => c.handleClose
  | .handleError => c.handleError
  | .handleWrite send => c.handleWrite send
  | .receive bytes => { c with inputBuffer := c.inputBuffer.readFd bytes }.call .message
  | .limitInput => c.limitInput
  | .connectDestroyed => c.connectDestroyed

/-- A list of actions. -/
def acts (c : TcpConnection) (steps : List ConnectionAction) : TcpConnection := steps.foldl act c

/-- The actions of `HandleRead`; `user` is what the message callback does. -/
def readActs (user : List ConnectionAction) : ReadResult → List ConnectionAction
  | .data [] => [.handleClose]
  | .data bytes => .receive bytes :: (user ++ [.limitInput])
  | .wouldBlock => []
  | .failed => [.handleError]

/-- The actions of `HandleEvent`. -/
def eventActs (user : List ConnectionAction) (revents : Revents) (read : ReadResult)
    (send : SendResult) : List ConnectionAction :=
  (if revents.hup && !revents.inp then [.handleClose] else []) ++
    ((if revents.err then [.handleError] else []) ++
      ((if revents.reads then readActs user read else []) ++
        (if revents.out then [.handleWrite send] else [])))

theorem acts_append (c : TcpConnection) (steps later : List ConnectionAction) :
    c.acts (steps ++ later) = (c.acts steps).acts later := List.foldl_append

theorem handleRead_acts (c : TcpConnection) (user : List ConnectionAction) (read : ReadResult) :
    c.handleRead (·.acts user) read = c.acts (readActs user read) := by
  cases read with
  | data bytes =>
    cases bytes with
    | nil => rfl
    | cons byte bytes =>
      rw [readActs, ← List.cons_append, acts_append]
      · rfl
      · simp
  | wouldBlock | failed => rfl

/-- `HandleEvent` takes one action after the other. -/
theorem handleEvent_acts (c : TcpConnection) (user : List ConnectionAction) (revents : Revents)
    (read : ReadResult) (send : SendResult) :
    c.handleEvent (·.acts user) revents read send = c.acts (eventActs user revents read send) := by
  have hif : ∀ (b : Bool) (c : TcpConnection) (steps : List ConnectionAction),
      (if b then c.acts steps else c) = c.acts (if b then steps else []) := by
    intro b c steps
    cases b <;> rfl
  rw [eventActs, acts_append, acts_append, acts_append]
  simp only [← hif, ← handleRead_acts]
  rfl

/-- `WriteInLoop` does not run into the limit of the output buffer. -/
def withinLimit (c : TcpConnection) (data : List UInt8) : Bool :=
  c.maxOutputBufferBytes = 0 || c.outputBuffer.readableBytes + data.length ≤ c.maxOutputBufferBytes

/-- The payload that `WriteInLoop` puts into the output buffer. -/
def queued (c : TcpConnection) (data : List UInt8) : List (List UInt8) :=
  if c.state = .disconnected ∨ data = [] ∨ c.withinLimit data = false then [] else [data]

/-- The payload that the action puts into the output buffer. -/
def accepts (c : TcpConnection) : ConnectionAction → List (List UInt8)
  | .write data => if c.connected then c.queued data else []
  | _ => []

end TcpConnection

/-- A connection, with the payloads that `Write` has put into its output buffer. -/
structure OutputStream where
  connection : TcpConnection
  accepted : List (List UInt8) := []

namespace OutputStream

def step (s : OutputStream) (l : ConnectionAction) : OutputStream :=
  ⟨s.connection.act l, s.accepted ++ s.connection.accepts l⟩

def run (s : OutputStream) (steps : List ConnectionAction) : OutputStream := steps.foldl step s

/-- A connection that has just been established. -/
def start (maxInputBufferBytes maxOutputBufferBytes highWatermark : Nat) : OutputStream :=
  { connection := TcpConnection.connectEstablished {
      maxInputBufferBytes := maxInputBufferBytes
      maxOutputBufferBytes := maxOutputBufferBytes
      highWatermark := highWatermark } }

end OutputStream

namespace TcpConnection

variable {c : TcpConnection} {accepted : List UInt8}

/-- What has been accepted, what has been sent and what waits in the output buffer agree. -/
structure Intact (c : TcpConnection) (accepted : List UInt8) : Prop where
  started : c.state ≠ .connecting
  stream : c.state ≠ .disconnected → accepted = c.sent ++ c.outputBuffer.readable
  sent : c.sent <+: accepted
  writing : c.isWriting = true → c.outputBuffer.readable ≠ [] ∧ c.state ≠ .disconnected
  fins : c.shutdownWrites ≤ 1
  fin : c.shutdownWrites = 1 → c.sent = accepted ∧ c.state ≠ .connected
  drained : c.state = .disconnecting → c.outputBuffer.readable = [] → c.shutdownWrites = 1
  draining : c.state = .disconnecting → c.outputBuffer.readable ≠ [] → c.isWriting = true

/-- The output part of a connection has not changed. -/
structure SameOutput (c c' : TcpConnection) : Prop where
  state : c'.state = c.state
  readable : c'.outputBuffer.readable = c.outputBuffer.readable
  isWriting : c'.isWriting = c.isWriting
  sent : c'.sent = c.sent
  shutdownWrites : c'.shutdownWrites = c.shutdownWrites

theorem Intact.same {c' : TcpConnection} (h : Intact c accepted) (hsame : SameOutput c c') :
    Intact c' accepted := by
  obtain ⟨hstate, hreadable, hwriting, hsent, hfin⟩ := hsame
  constructor
  · rw [hstate]; exact h.started
  · rw [hstate, hreadable, hsent]; exact h.stream
  · rw [hsent]; exact h.sent
  · rw [hwriting, hreadable, hstate]; exact h.writing
  · rw [hfin]; exact h.fins
  · rw [hfin, hsent, hstate]; exact h.fin
  · rw [hstate, hreadable, hfin]; exact h.drained
  · rw [hstate, hreadable, hwriting]; exact h.draining

/-- The connection is closed, with or without its output buffer. -/
theorem Intact.closed (h : Intact c accepted) {c' : TcpConnection}
    (hstate : c'.state = .disconnected) (hwriting : c'.isWriting = false) (hsent : c'.sent = c.sent)
    (hfin : c'.shutdownWrites = c.shutdownWrites) : Intact c' accepted := by
  constructor
  · simp [hstate]
  · simp [hstate]
  · rw [hsent]; exact h.sent
  · simp [hwriting]
  · rw [hfin]; exact h.fins
  · rw [hfin, hsent]
    exact fun hone => ⟨(h.fin hone).1, by simp [hstate]⟩
  · simp [hstate]
  · simp [hstate]

theorem state_handleClose : c.handleClose.state = .disconnected := by
  unfold handleClose
  split
  · assumption
  · rfl

theorem state_forceCloseInLoop : c.forceCloseInLoop.state = .disconnected := by
  unfold forceCloseInLoop
  split
  · assumption
  · exact state_handleClose

theorem Intact.handleClose (h : Intact c accepted) : Intact c.handleClose accepted := by
  unfold TcpConnection.handleClose
  split
  · exact h
  · exact h.closed rfl rfl rfl rfl

theorem Intact.forceCloseInLoop (h : Intact c accepted) :
    Intact c.forceCloseInLoop accepted := by
  unfold TcpConnection.forceCloseInLoop TcpConnection.handleClose
  split
  · exact h
  · exact h.closed rfl rfl rfl rfl

theorem Intact.connectDestroyed (h : Intact c accepted) :
    Intact c.connectDestroyed accepted := by
  unfold TcpConnection.connectDestroyed
  split
  · exact h.closed rfl rfl rfl rfl
  · exact h

/-- While bytes wait on a connection that is not closed, no FIN has been sent. -/
theorem Intact.shutdownWrites_eq_zero (h : Intact c accepted) (hstate : c.state ≠ .disconnected)
    (hreadable : c.outputBuffer.readable ≠ []) : c.shutdownWrites = 0 := by
  by_contra hne
  have hfins := h.fins
  have hsent := (h.fin (by omega)).1
  rw [h.stream hstate] at hsent
  exact hreadable (List.self_eq_append_right.mp hsent)

theorem sameOutput_notifyHighWatermark (before after : Nat) :
    SameOutput c (c.notifyHighWatermark before after) := by
  unfold notifyHighWatermark
  split <;> exact ⟨rfl, rfl, rfl, rfl, rfl⟩

/-- Bytes are put behind those that wait. -/
theorem Intact.append (h : Intact c accepted) (hstate : c.state ≠ .disconnected)
    (hfin : c.shutdownWrites = 0) {data : List UInt8} (hdata : data ≠ []) {c' : TcpConnection}
    (hsame : SameOutput c c') :
    Intact { c' with outputBuffer := c'.outputBuffer.append data } (accepted ++ data) := by
  obtain ⟨hstate', hreadable, hwriting, hsent, hfin'⟩ := hsame
  have hne : c.outputBuffer.readable ++ data ≠ [] := by simp [hdata]
  constructor
  · rw [hstate']; exact h.started
  · intro _
    simp only [Buffer.readable_append, hreadable, hsent, h.stream hstate, List.append_assoc]
  · simp only [hsent]
    exact h.sent.trans (List.prefix_append _ _)
  · simp only [Buffer.readable_append, hreadable, hwriting, hstate']
    exact fun hw => ⟨hne, hstate⟩
  · simp [hfin', hfin]
  · simp [hfin', hfin]
  · simp only [Buffer.readable_append, hreadable]
    exact fun _ hnil => absurd hnil hne
  · simp only [hwriting, hstate']
    intro hd _
    by_cases hnil : c.outputBuffer.readable = []
    · have hone := h.drained hd hnil
      omega
    · exact h.draining hd hnil

theorem Intact.writeInLoop (h : Intact c accepted) {data : List UInt8}
    (hfin : c.state ≠ .disconnected → c.shutdownWrites = 0) :
    Intact (c.writeInLoop data) (accepted ++ (c.queued data).flatten) := by
  unfold TcpConnection.writeInLoop queued
  by_cases hskip : c.state = .disconnected ∨ data = []
  · rw [if_pos hskip, if_pos (by tauto)]
    simpa using h
  · rw [if_neg hskip]
    obtain ⟨hstate, hdata⟩ := not_or.mp hskip
    by_cases hlimit : c.withinLimit data = true
    · have hroom : ¬(c.maxOutputBufferBytes > 0 ∧
          c.outputBuffer.readableBytes + data.length > c.maxOutputBufferBytes) := by
        simp only [withinLimit, Bool.or_eq_true, decide_eq_true_eq] at hlimit
        omega
      rw [if_neg hroom, if_neg (by simp [hstate, hdata, hlimit])]
      simpa using h.append hstate (hfin hstate) hdata (sameOutput_notifyHighWatermark _ _)
    · have hover : c.maxOutputBufferBytes > 0 ∧
          c.outputBuffer.readableBytes + data.length > c.maxOutputBufferBytes := by
        simp only [withinLimit, Bool.or_eq_true, decide_eq_true_eq] at hlimit
        omega
      rw [if_pos hover, if_pos (by simp [hlimit])]
      have hsame : Intact { c with overloadCloseCount := c.overloadCloseCount + 1 } accepted :=
        h.same ⟨rfl, rfl, rfl, rfl, rfl⟩
      simpa using hsame.forceCloseInLoop

theorem Intact.write (h : Intact c accepted) (data : List UInt8) :
    Intact (c.write data) (accepted ++ (c.accepts (.write data)).flatten) := by
  unfold TcpConnection.write accepts
  by_cases hconnected : c.state = .connected
  · have hfin : c.shutdownWrites = 0 := by
      by_contra hne
      have hfins := h.fins
      exact (h.fin (by omega)).2 hconnected
    by_cases hdata : data = []
    · simpa [connected, hconnected, hdata, queued] using h
    · simpa [connected, hconnected, hdata] using h.writeInLoop (fun _ => hfin)
  · simpa [connected, hconnected] using h

/-- The FIN behind the last byte. -/
theorem Intact.sendFin {c : TcpConnection} {accepted : List UInt8} (hsent : c.sent = accepted)
    (hstate : c.state = .disconnecting) (hreadable : c.outputBuffer.readable = [])
    (hwriting : c.isWriting = false) (hfin : c.shutdownWrites = 0) :
    Intact c.sendFin accepted := by
  unfold TcpConnection.sendFin
  rw [hwriting]
  constructor <;> simp [hsent, hstate, hreadable, hfin]

theorem readable_eq_nil_iff (b : Buffer) : b.readable = [] ↔ b.readableBytes = 0 := by
  rw [← List.length_eq_zero_iff, Buffer.length_readable]

/-- Bytes wait on an open connection. -/
structure Sending (c : TcpConnection) (accepted : List UInt8) : Prop where
  started : c.state ≠ .connecting
  notClosed : c.state ≠ .disconnected
  stream : accepted = c.sent ++ c.outputBuffer.readable
  waiting : c.outputBuffer.readable ≠ []
  fin : c.shutdownWrites = 0

theorem Intact.sending (h : Intact c accepted) (hstate : c.state ≠ .disconnected)
    (hreadable : c.outputBuffer.readable ≠ []) : Sending c accepted :=
  ⟨h.started, hstate, h.stream hstate, hreadable, h.shutdownWrites_eq_zero hstate hreadable⟩

/-- Nothing more is taken for now. -/
theorem Sending.wait (h : Sending c accepted) : Intact { c with isWriting := true } accepted := by
  obtain ⟨hstarted, hopen, hstream, hwaiting, hfin⟩ := h
  refine ⟨hstarted, fun _ => hstream, ?_, fun _ => ⟨hwaiting, hopen⟩, by simp [hfin], by simp [hfin],
    fun _ hnil => absurd hnil hwaiting, fun _ _ => rfl⟩
  rw [hstream]
  exact List.prefix_append _ _

theorem Sending.forceCloseInLoop (h : Sending c accepted) :
    Intact c.forceCloseInLoop accepted := by
  unfold TcpConnection.forceCloseInLoop TcpConnection.handleClose
  rw [if_neg h.notClosed]
  split
  · next hclosed => exact absurd hclosed h.notClosed
  · exact h.wait.closed rfl rfl rfl rfl

/-- `send` takes bytes from the front, and the last one is followed by the FIN when the connection
is shutting down. -/
theorem Sending.writeOutputBufferInLoop (h : Sending c accepted) (send : SendResult) :
    Intact (c.writeOutputBufferInLoop send) accepted := by
  have hwait := h.wait
  have hclose := h.forceCloseInLoop
  obtain ⟨hstarted, hopen, hstream, hwaiting, hfin⟩ := h
  unfold TcpConnection.writeOutputBufferInLoop
  rw [if_neg (by rwa [← readable_eq_nil_iff])]
  cases send with
  | wouldBlock => exact hwait
  | failed => exact hclose
  | sent count =>
    cases count with
    | zero => exact hwait
    | succ count =>
      have hsplit : accepted = (c.sent ++ c.outputBuffer.readable.take (count + 1)) ++
          c.outputBuffer.readable.drop (count + 1) := by
        rw [List.append_assoc, List.take_append_drop]
        exact hstream
      dsimp only
      split
      · next hzero =>
        rw [← readable_eq_nil_iff, Buffer.readable_retrieve] at hzero
        rw [hzero, List.append_nil] at hsplit
        split
        · next hdisconnecting =>
          refine .sendFin hsplit.symm hdisconnecting ?_ rfl hfin
          simpa [call] using hzero
        · next hother =>
          have hnot : c.state ≠ .disconnecting := hother
          constructor <;> simp [call, hzero, hsplit, hfin, hnot, hstarted]
      · next hmore =>
        rw [← readable_eq_nil_iff] at hmore
        refine Sending.wait (c := { c with
          sent := c.sent ++ c.outputBuffer.readable.take (count + 1)
          outputBuffer := c.outputBuffer.retrieve (count + 1) }) ⟨hstarted, hopen, ?_, hmore, hfin⟩
        rw [Buffer.readable_retrieve]
        exact hsplit

theorem Intact.flushInLoop (h : Intact c accepted) (send : SendResult) :
    Intact (c.flushInLoop send) accepted := by
  unfold TcpConnection.flushInLoop
  split
  · exact h
  · next hgo =>
    obtain ⟨hstate, hreadable, -⟩ := by simpa only [not_or] using hgo
    rw [← readable_eq_nil_iff] at hreadable
    exact (h.sending hstate hreadable).writeOutputBufferInLoop send

theorem Intact.flush (h : Intact c accepted) (send : SendResult) :
    Intact (c.flush send) accepted := by
  unfold TcpConnection.flush
  split
  · exact h.flushInLoop send
  · exact h

theorem Intact.handleWrite (h : Intact c accepted) (send : SendResult) :
    Intact (c.handleWrite send) accepted := by
  unfold TcpConnection.handleWrite
  split
  · next hwriting =>
    obtain ⟨hreadable, hstate⟩ := h.writing hwriting
    exact (h.sending hstate hreadable).writeOutputBufferInLoop send
  · exact h

theorem Intact.shutdown (h : Intact c accepted) (send : SendResult) :
    Intact (c.shutdown send) accepted := by
  unfold TcpConnection.shutdown
  split
  · next hconnected =>
    have hopen : c.state ≠ .disconnected := by simp [hconnected]
    have hfin : c.shutdownWrites = 0 := by
      by_contra hne
      have hfins := h.fins
      exact (h.fin (by omega)).2 hconnected
    unfold TcpConnection.shutdownInLoop
    split
    · next hpos =>
      have hwaiting : c.outputBuffer.readable ≠ [] := by
        rw [ne_eq, readable_eq_nil_iff]
        exact Nat.pos_iff_ne_zero.mp hpos
      have hsending : Sending { c with state := .disconnecting } accepted :=
        ⟨by simp, by simp, h.stream hopen, hwaiting, hfin⟩
      split
      · next hwriting =>
        have hw := hsending.wait
        rw [← show c.isWriting = true from hwriting] at hw
        exact hw
      · next hwriting =>
        unfold TcpConnection.flushInLoop
        have hgo : ¬((.disconnecting : ConnectionState) = .disconnected ∨
            c.outputBuffer.readableBytes = 0 ∨ c.isWriting = true) := by
          have hne := Nat.pos_iff_ne_zero.mp hpos
          simp only [reduceCtorEq, false_or, not_or]
          exact ⟨hne, hwriting⟩
        rw [if_neg hgo]
        exact hsending.writeOutputBufferInLoop send
    · next hzero =>
      have hempty : c.outputBuffer.readable = [] := by
        rw [readable_eq_nil_iff]
        exact Nat.eq_zero_of_not_pos hzero
      refine .sendFin ?_ rfl hempty ?_ hfin
      · rw [h.stream hopen, hempty, List.append_nil]
      · cases hwriting : c.isWriting with
        | false => rfl
        | true => exact absurd hempty (h.writing hwriting).1
  · exact h

theorem Intact.limitInput (h : Intact c accepted) : Intact c.limitInput accepted := by
  unfold TcpConnection.limitInput
  split
  · have hsame : Intact { c with overloadCloseCount := c.overloadCloseCount + 1 } accepted :=
      h.same ⟨rfl, rfl, rfl, rfl, rfl⟩
    exact hsame.forceCloseInLoop
  · exact h

/-- Every action keeps the stream, with what it accepts behind. -/
theorem Intact.act (h : Intact c accepted) (l : ConnectionAction) :
    Intact (c.act l) (accepted ++ (c.accepts l).flatten) := by
  cases l with
  | write data => exact h.write data
  | flush send => simpa [accepts, TcpConnection.act] using h.flush send
  | shutdown send => simpa [accepts, TcpConnection.act] using h.shutdown send
  | forceClose => simpa [accepts, TcpConnection.act] using h.forceCloseInLoop
  | handleClose => simpa [accepts, TcpConnection.act] using h.handleClose
  | handleError => simpa [accepts, TcpConnection.act, handleError] using h.forceCloseInLoop
  | handleWrite send => simpa [accepts, TcpConnection.act] using h.handleWrite send
  | receive bytes =>
    have hsame : SameOutput c (c.act (.receive bytes)) := ⟨rfl, rfl, rfl, rfl, rfl⟩
    simpa [accepts] using h.same hsame
  | limitInput => simpa [accepts, TcpConnection.act] using h.limitInput
  | connectDestroyed => simpa [accepts, TcpConnection.act] using h.connectDestroyed

/-- Nothing is written any more and write interest is disabled. -/
structure Quiet (c : TcpConnection) : Prop where
  state : c.state ≠ .connected
  isWriting : c.isWriting = false

/-- Behind the FIN, and on a closed connection, nothing happens to the output any more. -/
theorem Intact.quiet (h : Intact c accepted)
    (hend : c.shutdownWrites = 1 ∨ c.state = .disconnected) : Quiet c := by
  have hwriting : c.isWriting ≠ true := by
    intro hwriting
    obtain ⟨hreadable, hopen⟩ := h.writing hwriting
    have hfin := h.shutdownWrites_eq_zero hopen hreadable
    obtain hone | hclosed := hend
    · omega
    · exact hopen hclosed
  refine ⟨?_, by simpa using hwriting⟩
  obtain hone | hclosed := hend
  · exact (h.fin hone).2
  · simp [hclosed]

/-- What an action does to a connection that is quiet. -/
structure Undisturbed (c c' : TcpConnection) : Prop where
  quiet : Quiet c'
  sent : c'.sent = c.sent
  shutdownWrites : c'.shutdownWrites = c.shutdownWrites
  readable : c'.outputBuffer.readable = c.outputBuffer.readable ∨ c'.outputBuffer.readable = []

theorem Quiet.refl (h : Quiet c) : Undisturbed c c := ⟨h, rfl, rfl, .inl rfl⟩

theorem Quiet.handleClose (h : Quiet c) : Undisturbed c c.handleClose := by
  unfold TcpConnection.handleClose
  split
  · exact h.refl
  · exact ⟨⟨by simp [call], rfl⟩, rfl, rfl, .inl rfl⟩

theorem Quiet.forceCloseInLoop (h : Quiet c) : Undisturbed c c.forceCloseInLoop := by
  unfold TcpConnection.forceCloseInLoop
  split
  · exact h.refl
  · have hquiet : Quiet { c with outputBuffer := c.outputBuffer.retrieveAll, isWriting := false } :=
      ⟨h.state, rfl⟩
    obtain ⟨hquiet, hsent, hfin, hreadable⟩ := hquiet.handleClose
    exact ⟨hquiet, hsent, hfin, .inr (by simpa using hreadable)⟩

theorem Quiet.act (h : Quiet c) (l : ConnectionAction) : Undisturbed c (c.act l) := by
  have hconnected : c.connected = false := by simpa [connected] using h.state
  cases l with
  | write data => simpa [TcpConnection.act, write, hconnected] using h.refl
  | flush send => simpa [TcpConnection.act, flush, hconnected] using h.refl
  | shutdown send => simpa [TcpConnection.act, shutdown, h.state] using h.refl
  | forceClose | handleError => exact h.forceCloseInLoop
  | handleClose => exact h.handleClose
  | handleWrite send => simpa [TcpConnection.act, handleWrite, h.isWriting] using h.refl
  | receive bytes => exact ⟨⟨h.state, h.isWriting⟩, rfl, rfl, .inl rfl⟩
  | limitInput =>
    show Undisturbed c c.limitInput
    unfold TcpConnection.limitInput
    split
    · have hquiet : Quiet { c with overloadCloseCount := c.overloadCloseCount + 1 } :=
        ⟨h.state, h.isWriting⟩
      obtain ⟨hquiet, hsent, hfin, hreadable⟩ := hquiet.forceCloseInLoop
      exact ⟨hquiet, hsent, hfin, hreadable⟩
    · exact h.refl
  | connectDestroyed => simpa [TcpConnection.act, connectDestroyed, h.state] using h.refl

/-- What `Flush` leaves behind. -/
theorem flush_post (hconnected : c.state = .connected) (send : SendResult) :
    (c.flush send).outputBuffer.readable = [] ∨
      (c.flush send).isWriting = true ∨ (c.flush send).state = .disconnected := by
  unfold TcpConnection.flush TcpConnection.flushInLoop
  rw [if_pos (by simp [connected, hconnected])]
  split
  · next hskip =>
    obtain hclosed | hzero | hwriting := hskip
    · exact .inr (.inr hclosed)
    · exact .inl (by rwa [readable_eq_nil_iff])
    · exact .inr (.inl hwriting)
  · next hgo =>
    obtain ⟨hopen, hzero, -⟩ := by simpa only [not_or] using hgo
    unfold TcpConnection.writeOutputBufferInLoop
    rw [if_neg hzero]
    cases send with
    | wouldBlock => exact .inr (.inl rfl)
    | failed =>
      exact .inr (.inr state_forceCloseInLoop)
    | sent count =>
      cases count with
      | zero => exact .inr (.inl rfl)
      | succ count =>
        dsimp only
        split
        · next hdrained =>
          rw [if_neg (by simp [call, hconnected])]
          exact .inl (readable_eq_nil_iff _ |>.mpr hdrained)
        · exact .inr (.inl rfl)

end TcpConnection

namespace OutputStream

open TcpConnection

variable {s : OutputStream}

theorem intact_start (maxInputBufferBytes maxOutputBufferBytes highWatermark : Nat) :
    Intact (start maxInputBufferBytes maxOutputBufferBytes highWatermark).connection [] := by
  constructor <;> simp [start, connectEstablished, call]

theorem intact_step (h : Intact s.connection s.accepted.flatten) (l : ConnectionAction) :
    Intact (s.step l).connection (s.step l).accepted.flatten := by
  simpa [step] using h.act l

theorem intact_run (h : Intact s.connection s.accepted.flatten) (steps : List ConnectionAction) :
    Intact (s.run steps).connection (s.run steps).accepted.flatten := by
  induction steps generalizing s with
  | nil => exact h
  | cons l steps ih => exact ih (intact_step h l)

theorem sent_run_of_quiet (h : Quiet s.connection) (steps : List ConnectionAction) :
    (s.run steps).connection.sent = s.connection.sent := by
  induction steps generalizing s with
  | nil => rfl
  | cons l steps ih =>
    obtain ⟨hquiet, hsent, -⟩ := h.act l
    exact (ih (s := s.step l) hquiet).trans hsent

/-- What an output stream promises. -/
structure Graceful (s : OutputStream) : Prop where
  /-- nothing is lost, duplicated or reordered in what has been sent -/
  ordered : s.connection.sent <+: s.accepted.flatten
  finOnce : s.connection.shutdownWrites ≤ 1
  finLast : s.connection.shutdownWrites = 1 → s.connection.sent = s.accepted.flatten
  silent : s.connection.shutdownWrites = 1 ∨ s.connection.state = .disconnected →
    ∀ later, (s.run later).connection.sent = s.connection.sent
  writing : s.connection.isWriting = true → s.connection.outputBuffer.readable ≠ []
  flushed : s.connection.state = .connected → ∀ send,
    (s.connection.flush send).outputBuffer.readable = [] ∨
      (s.connection.flush send).isWriting = true ∨ (s.connection.flush send).state = .disconnected

/-- Whatever the loop thread does with a connection and whatever `send` answers, what is sent is a
prefix of what has been accepted; the FIN is sent at most once, behind all of it; nothing is sent
behind the FIN or on a closed connection; write interest is enabled only while bytes wait, and
`Flush` leaves none waiting without it. -/
theorem output_graceful (maxInputBufferBytes maxOutputBufferBytes highWatermark : Nat)
    (steps : List ConnectionAction) :
    Graceful ((start maxInputBufferBytes maxOutputBufferBytes highWatermark).run steps) := by
  have h := intact_run (intact_start maxInputBufferBytes maxOutputBufferBytes highWatermark) steps
  refine ⟨h.sent, h.fins, fun hone => (h.fin hone).1, fun hend => ?_, fun hw => (h.writing hw).1,
    flush_post⟩
  exact sent_run_of_quiet (h.quiet hend)

end OutputStream

end NebulaRpc.Net
