import NebulaRpc.Net.Buffer

/-!
# Connections

`TcpConnection` on its loop, and the dispatch of its events by `Channel::HandleEvent`. What the
socket answers to `read` and `send` is given. Each of the functions makes at most one call of
`send`.
-/

namespace NebulaRpc.Net

/-- `TcpConnection::State`. -/
inductive ConnectionState where
  | connecting
  | connected
  | disconnecting
  | disconnected
  deriving DecidableEq

/-- What `read` answers; no bytes is the end of the stream. -/
inductive ReadResult where
  | data (bytes : List UInt8)
  | wouldBlock
  | failed

/-- What `send` answers; it never takes more than it is offered. -/
inductive SendResult where
  | sent (count : Nat)
  | wouldBlock
  | failed

/-- The events of a poll. -/
structure Revents where
  hup : Bool := false
  err : Bool := false
  inp : Bool := false
  pri : Bool := false
  rdhup : Bool := false
  out : Bool := false

/-- The events with which `HandleEvent` calls `HandleRead`. -/
def Revents.reads (e : Revents) : Bool := e.inp || e.pri || e.rdhup

/-- The callbacks of a connection, as they are called or queued. -/
inductive ConnectionCallback where
  | up
  | message
  | down
  | close
  | writeComplete
  | highWatermark (pending : Nat)
  deriving DecidableEq

structure TcpConnection where
  state : ConnectionState := .connecting
  inputBuffer : Buffer := .new
  outputBuffer : Buffer := .new
  /-- `channel_->IsWriting()` -/
  isWriting : Bool := false
  maxInputBufferBytes : Nat := 0
  maxOutputBufferBytes : Nat := 0
  /-- zero also when there is no callback -/
  highWatermark : Nat := 0
  highWatermarkCount : Nat := 0
  overloadCloseCount : Nat := 0
  /-- what `send` has taken -/
  sent : List UInt8 := []
  /-- how often `ShutdownWrite` was called -/
  shutdownWrites : Nat := 0
  callbacks : List ConnectionCallback := []

namespace TcpConnection

def connected (c : TcpConnection) : Bool := c.state = .connected

def call (c : TcpConnection) (callback : ConnectionCallback) : TcpConnection :=
  { c with callbacks := c.callbacks ++ [callback] }

/-! ## Closing -/

def handleClose (c : TcpConnection) : TcpConnection :=
  if c.state = .disconnected then c
  else ({ c with state := .disconnected, isWriting := false }.call .down).call .close

def forceCloseInLoop (c : TcpConnection) : TcpConnection :=
  if c.state = .disconnected then c
  else { c with outputBuffer := c.outputBuffer.retrieveAll, isWriting := false }.handleClose

def handleError (c : TcpConnection) : TcpConnection := c.forceCloseInLoop

def connectEstablished (c : TcpConnection) : TcpConnection :=
  { c with state := .connected }.call .up

def connectDestroyed (c : TcpConnection) : TcpConnection :=
  if c.state = .connected then { c with state := .disconnected, isWriting := false }.call .down
  else c

/-! ## Writing -/

def notifyHighWatermark (c : TcpConnection) (before after : Nat) : TcpConnection :=
  if c.highWatermark = 0 ∨ before ≥ c.highWatermark ∨ after < c.highWatermark then c
  else { c with highWatermarkCount := c.highWatermarkCount + 1 }.call (.highWatermark after)

def writeInLoop (c : TcpConnection) (data : List UInt8) : TcpConnection :=
  if c.state = .disconnected ∨ data = [] then c
  else
    let before := c.outputBuffer.readableBytes
    let pending := before + data.length
    if c.maxOutputBufferBytes > 0 ∧ pending > c.maxOutputBufferBytes then
      { c with overloadCloseCount := c.overloadCloseCount + 1 }.forceCloseInLoop
    else
      let c := c.notifyHighWatermark before pending
      { c with outputBuffer := c.outputBuffer.append data }

/-- `Write` on the loop. -/
def write (c : TcpConnection) (data : List UInt8) : TcpConnection :=
  if c.connected && data ≠ [] then c.writeInLoop data else c

/-- The end of `ShutdownInLoop`, when nothing is left to send. -/
def sendFin (c : TcpConnection) : TcpConnection :=
  if c.isWriting then c else { c with shutdownWrites := c.shutdownWrites + 1 }

/-- `WriteOutputBufferInLoop`. It calls `ShutdownInLoop` only behind the last byte, where that is
`sendFin`. -/
def writeOutputBufferInLoop (c : TcpConnection) (send : SendResult) : TcpConnection :=
  if c.outputBuffer.readableBytes = 0 then { c with isWriting := false }
  else
    match send with
    | .sent (count + 1) =>
      let c := { c with
        sent := c.sent ++ c.outputBuffer.readable.take (count + 1)
        outputBuffer := c.outputBuffer.retrieve (count + 1) }
      if c.outputBuffer.readableBytes = 0 then
        let c := { c with isWriting := false }.call .writeComplete
        if c.state = .disconnecting then c.sendFin else c
      else { c with isWriting := true }
    | .failed => c.handleError
    | .sent 0 | .wouldBlock => { c with isWriting := true }

def flushInLoop (c : TcpConnection) (send : SendResult) : TcpConnection :=
  if c.state = .disconnected ∨ c.outputBuffer.readableBytes = 0 ∨ c.isWriting then c
  else c.writeOutputBufferInLoop send

/-- `Flush` on the loop. -/
def flush (c : TcpConnection) (send : SendResult) : TcpConnection :=
  if c.connected then c.flushInLoop send else c

def shutdownInLoop (c : TcpConnection) (send : SendResult) : TcpConnection :=
  if c.outputBuffer.readableBytes > 0 then
    if c.isWriting then c else c.flushInLoop send
  else c.sendFin

/-- `Shutdown` on the loop. -/
def shutdown (c : TcpConnection) (send : SendResult) : TcpConnection :=
  if c.state = .connected then { c with state := .disconnecting }.shutdownInLoop send else c

/-! ## Events -/

/-- `HandleRead`, with the message callback. -/
def handleRead (message : TcpConnection → TcpConnection) (c : TcpConnection) :
    ReadResult → TcpConnection
  | .data [] => c.handleClose
  | .data bytes =>
    let c := message ({ c with inputBuffer := c.inputBuffer.readFd bytes }.call .message)
    if c.maxInputBufferBytes > 0 ∧ c.inputBuffer.readableBytes > c.maxInputBufferBytes then
      { c with overloadCloseCount := c.overloadCloseCount + 1 }.forceCloseInLoop
    else c
  | .wouldBlock => c
  | .failed => c.handleError

def handleWrite (c : TcpConnection) (send : SendResult) : TcpConnection :=
  if c.isWriting then c.writeOutputBufferInLoop send else c

/-- The first half of `HandleEvent`, for `EPOLLHUP` and `EPOLLERR`. -/
def handleHangup (c : TcpConnection) (revents : Revents) : TcpConnection :=
  let c := if revents.hup && !revents.inp then c.handleClose else c
  if revents.err then c.handleError else c

/-- `Channel::HandleEvent`. -/
def handleEvent (message : TcpConnection → TcpConnection) (c : TcpConnection) (revents : Revents)
    (read : ReadResult) (send : SendResult) : TcpConnection :=
  let c := c.handleHangup revents
  let c := if revents.reads then c.handleRead message read else c
  if revents.out then c.handleWrite send else c

/-! ## The input buffer -/

variable (c : TcpConnection)

@[simp]
theorem inputBuffer_call (callback : ConnectionCallback) :
    (c.call callback).inputBuffer = c.inputBuffer := rfl

@[simp]
theorem inputBuffer_handleClose : c.handleClose.inputBuffer = c.inputBuffer := by
  unfold handleClose
  split <;> rfl

@[simp]
theorem inputBuffer_forceCloseInLoop : c.forceCloseInLoop.inputBuffer = c.inputBuffer := by
  unfold forceCloseInLoop
  split <;> simp

@[simp]
theorem inputBuffer_handleError : c.handleError.inputBuffer = c.inputBuffer := by
  simp [handleError]

@[simp]
theorem inputBuffer_connectDestroyed : c.connectDestroyed.inputBuffer = c.inputBuffer := by
  unfold connectDestroyed
  split <;> rfl

@[simp]
theorem inputBuffer_notifyHighWatermark (before after : Nat) :
    (c.notifyHighWatermark before after).inputBuffer = c.inputBuffer := by
  unfold notifyHighWatermark
  split <;> rfl

@[simp]
theorem inputBuffer_write (data : List UInt8) : (c.write data).inputBuffer = c.inputBuffer := by
  unfold write writeInLoop
  grind [inputBuffer_notifyHighWatermark, inputBuffer_forceCloseInLoop]

@[simp]
theorem inputBuffer_sendFin : c.sendFin.inputBuffer = c.inputBuffer := by
  unfold sendFin
  split <;> rfl

@[simp]
theorem inputBuffer_writeOutputBufferInLoop (send : SendResult) :
    (c.writeOutputBufferInLoop send).inputBuffer = c.inputBuffer := by
  unfold writeOutputBufferInLoop
  grind [inputBuffer_sendFin, inputBuffer_handleError, inputBuffer_call]

@[simp]
theorem inputBuffer_flushInLoop (send : SendResult) :
    (c.flushInLoop send).inputBuffer = c.inputBuffer := by
  unfold flushInLoop
  split <;> simp

@[simp]
theorem inputBuffer_flush (send : SendResult) : (c.flush send).inputBuffer = c.inputBuffer := by
  unfold flush
  split <;> simp

@[simp]
theorem inputBuffer_shutdown (send : SendResult) :
    (c.shutdown send).inputBuffer = c.inputBuffer := by
  unfold shutdown shutdownInLoop
  grind [inputBuffer_sendFin, inputBuffer_flushInLoop]

@[simp]
theorem inputBuffer_handleWrite (send : SendResult) :
    (c.handleWrite send).inputBuffer = c.inputBuffer := by
  unfold handleWrite
  split <;> simp

@[simp]
theorem inputBuffer_handleHangup (revents : Revents) :
    (c.handleHangup revents).inputBuffer = c.inputBuffer := by
  unfold handleHangup
  grind [inputBuffer_handleClose, inputBuffer_handleError]

end TcpConnection

end NebulaRpc.Net
