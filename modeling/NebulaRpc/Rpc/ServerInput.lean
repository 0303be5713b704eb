import NebulaRpc.Library.Transition
import NebulaRpc.Net.TcpConnection
import NebulaRpc.Rpc.Receive
import NebulaRpc.Rpc.Server

/-!
# What a connection of the server holds

A connection of an `RpcServer` on its loop: events, with `RpcServer::OnMessage` as the message
callback, and between them whatever else the loop does with the connection, such as the replies of
handlers that end later. The input buffer is what is left of the drained stream.
-/

namespace NebulaRpc.Rpc

open NebulaRpc.Net Framing

/-- What surrounds a run of `OnMessage`: how the handlers that it calls end before they return, by
their number within the batch, and what `send` answers to its `Flush` and to its `Shutdown`. -/
structure Batch where
  handlers : Nat → Option HandlerEnd := fun _ => none
  flush : SendResult := .wouldBlock
  shutdown : SendResult := .wouldBlock

/-- The calls of `ResponseFlushScope::WriteInLoop` within the batch. -/
def writeScope (c : TcpConnection) (writes : List ScopeWrite) : TcpConnection :=
  writes.foldl (fun c w => if w.bytes ≠ [] then c.write w.bytes else c) c

/-- `RpcServer::OnMessage` on one connection, with the number of handlers called. -/
def serverLoop (F : MetaFormat) (S : Services) (b : Batch) : MessageLoop (TcpConnection × Nat) where
  dispatch frame c :=
    match handleFrame F S frame with
    | .reply writes => (writeScope c.1 writes, c.2)
    | .dispatch requestId traceId _ =>
      match b.handlers c.2 with
      | none => (c.1, c.2 + 1)
      | some ended => (writeScope c.1 (finishCall F requestId traceId ended), c.2 + 1)
  onNeedMore c := (c.1.flush b.flush, c.2)
  onError _ c := ((c.1.flush b.flush).shutdown b.shutdown, c.2)

/-- The message callback of a connection of the server. -/
def serverOnMessage (F : MetaFormat) (S : Services) (b : Batch) (c : TcpConnection) :
    TcpConnection :=
  let r := onMessage (serverLoop F S b) F c.inputBuffer (c, 0)
  { r.2.1 with inputBuffer := r.1 }

/-- What the loop does with a connection. -/
inductive ConnectionStep where
  | connectEstablished
  /-- an event, with the answers to `read` and to the `send` of `HandleWrite` -/
  | event (revents : Revents) (read : ReadResult) (send : SendResult) (batch : Batch)
  | write (data : List UInt8)
  | flush (send : SendResult)
  | shutdown (send : SendResult)
  | forceClose
  | connectDestroyed

/-- The bytes that a step reads. -/
def ConnectionStep.received : ConnectionStep → List UInt8
  | .event revents (.data bytes) _ _ => if revents.reads then bytes else []
  | _ => []

/-- The stream that the peer has sent in a run, as far as it was read. -/
def received (steps : List ConnectionStep) : List UInt8 := (steps.map (·.received)).flatten

/-- An event that was polled before the connection was closed is still handled. -/
def connectionStep (F : MetaFormat) (S : Services) (c : TcpConnection) :
    ConnectionStep → Option TcpConnection
  | .connectEstablished => if c.state = .connecting then some c.connectEstablished else none
  | .event revents read send batch =>
    if c.state = .connecting then none
    else some (c.handleEvent (serverOnMessage F S batch) revents read send)
  | .write data => some (c.write data)
  | .flush send => some (c.flush send)
  | .shutdown send => some (c.shutdown send)
  | .forceClose => some c.forceCloseInLoop
  | .connectDestroyed => some c.connectDestroyed

/-- The bytes of a stream from its first malformed frame on. -/
def malformed (F : MetaFormat) (s : List UInt8) : List UInt8 :=
  match (drain (framer F) s).error with
  | none => []
  | some _ => (drain (framer F) s).rest

variable {F : MetaFormat} {S : Services} {c c' : TcpConnection}

theorem readable_serverOnMessage (b : Batch) (c : TcpConnection) :
    (serverOnMessage F S b c).inputBuffer.readable =
      (drain (framer F) c.inputBuffer.readable).rest :=
  readable_onMessage (serverLoop F S b) F c.inputBuffer (c, 0)

/-- An unfinished frame is shorter than the largest frame with its size word. -/
theorem length_lt_of_parseFrame_eq_more {s : List UInt8} (h : parseFrame F s = .more) :
    s.length < 4 + kMaxFrameSize := by
  unfold parseFrame at h
  repeat' split at h
  · omega
  · cases h
  · omega
  · cases h
  · cases h

/-- Reading leaves what the drain of the longer stream leaves. -/
theorem readable_handleRead {s : List UInt8}
    (h : c.inputBuffer.readable = (drain (framer F) s).rest) (b : Batch) (read : ReadResult) :
    (c.handleRead (serverOnMessage F S b) read).inputBuffer.readable =
      (drain (framer F) (s ++ match read with | .data bytes => bytes | _ => [])).rest := by
  cases read with
  | wouldBlock => simpa [TcpConnection.handleRead] using h
  | failed => simpa [TcpConnection.handleRead] using h
  | data bytes =>
    cases bytes with
    | nil => simpa [TcpConnection.handleRead] using h
    | cons byte bytes =>
      have hread : (serverOnMessage F S b ({ c with
          inputBuffer := c.inputBuffer.readFd (byte :: bytes) }.call .message)).inputBuffer.readable =
            (drain (framer F) (s ++ byte :: bytes)).rest := by
        rw [readable_serverOnMessage, TcpConnection.inputBuffer_call, Buffer.readable_readFd, h,
          drain_append (framer F) s]
      unfold TcpConnection.handleRead
      dsimp only
      split
      · rw [TcpConnection.inputBuffer_forceCloseInLoop]
        exact hread
      · exact hread

/-- The input buffer follows the drained stream. -/
theorem readable_connectionStep {s : List UInt8} {a : ConnectionStep}
    (h : c.inputBuffer.readable = (drain (framer F) s).rest)
    (hstep : connectionStep F S c a = some c') :
    c'.inputBuffer.readable = (drain (framer F) (s ++ a.received)).rest := by
  cases a with
  | connectEstablished =>
    simp only [connectionStep, Option.ite_none_right_eq_some, Option.some.injEq] at hstep
    obtain ⟨-, rfl⟩ := hstep
    simpa [TcpConnection.connectEstablished, ConnectionStep.received] using h
  | event revents read send b =>
    simp only [connectionStep, Option.ite_none_left_eq_some, Option.some.injEq] at hstep
    obtain ⟨-, rfl⟩ := hstep
    have hclosed : (c.handleHangup revents).inputBuffer.readable = (drain (framer F) s).rest := by
      rw [TcpConnection.inputBuffer_handleHangup, h]
    have hread := readable_handleRead (S := S) hclosed b read
    unfold TcpConnection.handleEvent
    cases hreads : revents.reads with
    | false => cases read <;> cases revents.out <;> simpa [ConnectionStep.received, hreads] using h
    | true =>
      cases read <;> cases revents.out <;> simpa [ConnectionStep.received, hreads] using hread
  | write data | flush send | shutdown send | forceClose | connectDestroyed =>
    simp only [connectionStep, Option.some.injEq] at hstep
    subst hstep
    simpa [ConnectionStep.received] using h

theorem readable_run {steps : List ConnectionStep} {s : List UInt8}
    (h : c.inputBuffer.readable = (drain (framer F) s).rest)
    (hrun : Transition.run (connectionStep F S) c steps = some c') :
    c'.inputBuffer.readable = (drain (framer F) (s ++ received steps)).rest := by
  induction steps generalizing c s with
  | nil =>
    obtain rfl : c = c' := by simpa using hrun
    simpa [received] using h
  | cons a steps ih =>
    obtain ⟨c₁, hstep, hrun⟩ := Transition.run_cons_eq_some_iff.mp hrun
    have hnext := ih (readable_connectionStep h hstep) hrun
    simpa [received] using hnext

/-- **Input memory.** A connection starts with an empty input buffer and the default limit. In any
state of any run fewer than `4 + kMaxFrameSize` bytes are left in the buffer, unless the peer has
sent that many bytes from its first malformed frame on. -/
theorem input_bounded_iff (F : MetaFormat) (S : Services) (maxOutputBufferBytes highWatermark : Nat)
    (steps : List ConnectionStep) (c : TcpConnection)
    (hrun : Transition.run (connectionStep F S)
      { maxOutputBufferBytes := maxOutputBufferBytes, highWatermark := highWatermark } steps =
        some c) :
    c.inputBuffer.readableBytes < 4 + kMaxFrameSize ↔
      (malformed F (received steps)).length < 4 + kMaxFrameSize := by
  have hempty : drain (framer F) [] = ⟨[], none, []⟩ := drain_of_more rfl
  have hrest := readable_run (s := []) (by rw [hempty]; exact Buffer.readable_new _) hrun
  rw [List.nil_append] at hrest
  rw [← Buffer.length_readable, hrest]
  unfold malformed
  cases herror : (drain (framer F) (received steps)).error with
  | none =>
    have hlt := length_lt_of_parseFrame_eq_more (next_rest_of_no_error (framer F) _ herror)
    have hpos : 0 < 4 + kMaxFrameSize := by decide
    exact iff_of_true hlt hpos
  | some e => rfl

/-- A frame of size zero, and then other bytes. -/
def flood (bytes : List UInt8) : List ConnectionStep :=
  [.connectEstablished, .event { inp := true } (.data [0, 0, 0, 0]) .wouldBlock {},
    .event { inp := true } (.data bytes) .wouldBlock {}]

/-- Behind a malformed frame nothing happens to a connection that is shut down, whatever it
reads. -/
theorem state_handleRead_of_bad {bytes : List UInt8} {e : String}
    (hbad : parseFrame F c.inputBuffer.readable = .bad e) (hstate : c.state = .disconnecting)
    (hlimit : c.maxInputBufferBytes = 0) (hbytes : bytes ≠ []) (b : Batch) :
    (c.handleRead (serverOnMessage F S b) (.data bytes)).state = .disconnecting := by
  obtain ⟨byte, bytes, rfl⟩ := List.exists_cons_of_ne_nil hbytes
  set c₁ := { c with inputBuffer := c.inputBuffer.readFd (byte :: bytes) }.call .message with hc₁
  have hdrain : drain (framer F) c₁.inputBuffer.readable =
      ⟨[], some e, c₁.inputBuffer.readable⟩ := by
    apply drain_of_bad
    rw [hc₁, TcpConnection.inputBuffer_call, Buffer.readable_readFd]
    exact (framer F).bad_append _ hbad
  have hnone : (serverOnMessage F S b c₁) =
      { c₁ with inputBuffer := (onMessage (serverLoop F S b) F c₁.inputBuffer (c₁, 0)).1 } := by
    have hstate₁ : c₁.state = .disconnecting := hstate
    have hsnd : (onMessage (serverLoop F S b) F c₁.inputBuffer (c₁, 0)).2 = (c₁, 0) := by
      rw [onMessage_snd, hdrain]
      simp [serverLoop, TcpConnection.flush, TcpConnection.connected, TcpConnection.shutdown,
        hstate₁]
    simp only [serverOnMessage, hsnd]
  have hread : c.handleRead (serverOnMessage F S b) (.data (byte :: bytes)) =
      serverOnMessage F S b c₁ := by
    have hlimit₁ : (serverOnMessage F S b c₁).maxInputBufferBytes = 0 := by
      rw [hnone]
      exact hlimit
    simp [TcpConnection.handleRead, ← hc₁, hlimit₁]
  rw [hread, hnone]
  exact hstate

set_option maxRecDepth 8192 in
/-- The malformed frame only half-closes the connection, which goes on reading. -/
theorem run_flood {bytes : List UInt8} (hbytes : bytes ≠ []) :
    ∃ c, Transition.run (connectionStep wireFormat {}) {} (flood bytes) = some c ∧
      c.state = .disconnecting ∧ c.inputBuffer.readableBytes = 4 + bytes.length := by
  obtain ⟨c₁, hrun₁, hstate₁, hlimit₁, hbad⟩ : ∃ c₁, Transition.run (connectionStep wireFormat {}) {}
      [.connectEstablished, .event { inp := true } (.data [0, 0, 0, 0]) .wouldBlock {}] = some c₁ ∧
        c₁.state = .disconnecting ∧ c₁.maxInputBufferBytes = 0 ∧
        parseFrame wireFormat c₁.inputBuffer.readable = .bad "invalid RPC frame size" :=
    ⟨_, rfl, rfl, rfl, rfl⟩
  have hstep : connectionStep wireFormat {} c₁
      (.event { inp := true } (.data bytes) .wouldBlock {}) =
        some (c₁.handleEvent (serverOnMessage wireFormat {} {}) { inp := true } (.data bytes)
          .wouldBlock) := by
    rw [connectionStep, if_neg (by simp [hstate₁])]
  have hrun : Transition.run (connectionStep wireFormat {}) {} (flood bytes) =
      some (c₁.handleEvent (serverOnMessage wireFormat {} {}) { inp := true } (.data bytes)
        .wouldBlock) := by
    have hflood : flood bytes =
        [.connectEstablished, .event { inp := true } (.data [0, 0, 0, 0]) .wouldBlock {}] ++
          [.event { inp := true } (.data bytes) .wouldBlock {}] := rfl
    rw [hflood, Transition.run_append, hrun₁, Option.bind_some]
    exact Transition.run_cons_eq_some_iff.mpr ⟨_, hstep, rfl⟩
  refine ⟨_, hrun, state_handleRead_of_bad hbad hstate₁ hlimit₁ hbytes {}, ?_⟩
  have hstream : received (flood bytes) = [0, 0, 0, 0] ++ bytes := by
    simp [received, flood, ConnectionStep.received, Revents.reads]
  have hdrain : drain (framer wireFormat) (received (flood bytes)) =
      ⟨[], some "invalid RPC frame size", received (flood bytes)⟩ := by
    apply drain_of_bad
    rw [hstream]
    exact (framer wireFormat).bad_append _ rfl
  have hempty : drain (framer wireFormat) [] = ⟨[], none, []⟩ := drain_of_more rfl
  have hrest := readable_run (s := []) (by rw [hempty]; exact Buffer.readable_new _) hrun
  rw [List.nil_append, hdrain] at hrest
  rw [← Buffer.length_readable, hrest, hstream]
  rw [List.length_append]
  rfl

/-- Behind the malformed frame come as many bytes as the largest frame has. -/
theorem flood_unbounded :
    ∃ c, Transition.run (connectionStep wireFormat {}) {}
        (flood (List.replicate kMaxFrameSize 0)) = some c ∧
      c.state = .disconnecting ∧ ¬ c.inputBuffer.readableBytes < 4 + kMaxFrameSize := by
  have hbytes : List.replicate kMaxFrameSize (0 : UInt8) ≠ [] := by
    rw [ne_eq, List.replicate_eq_nil_iff]
    decide
  obtain ⟨c, hrun, hstate, hlength⟩ := run_flood hbytes
  rw [List.length_replicate] at hlength
  exact ⟨c, hrun, hstate, by omega⟩

/-- A peer that sends the first bytes of a frame. -/
theorem input_bounded_unfinished :
    ∃ c, Transition.run (connectionStep wireFormat {}) {}
        [.connectEstablished, .event { inp := true } (.data [0, 0, 1]) .wouldBlock {}] = some c ∧
      c.inputBuffer.readableBytes < 4 + kMaxFrameSize := by
  refine ⟨_, rfl, ?_⟩
  refine (input_bounded_iff wireFormat {} 0 0
    [.connectEstablished, .event { inp := true } (.data [0, 0, 1]) .wouldBlock {}] _ rfl).mpr ?_
  have hempty : drain (framer wireFormat) [0, 0, 1] = ⟨[], none, [0, 0, 1]⟩ := drain_of_more rfl
  show (malformed wireFormat [0, 0, 1]).length < _
  rw [malformed, hempty]
  decide

end NebulaRpc.Rpc
