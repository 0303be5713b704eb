import NebulaRpc.Library.Bytes

/-!
# The input and output buffer

`nebula/net/buffer.h`: one vector with a reserved prefix of `kCheapPrepend` bytes, a read index
and a write index. The readable bytes lie between the two indices. The index inequalities are
fields of the structure, so every operation below has to re-establish them.

The abstract value of a buffer is its byte queue `readable`; each operation has one lemma that
says what it does to that queue.
-/

namespace NebulaRpc.Net

def kCheapPrepend : Nat := 8
def kInitialSize : Nat := 1024

/-- `net::Buffer`. The vector `buffer_` is a list of octets. -/
structure Buffer where
  buffer : List UInt8
  readIndex : Nat
  writeIndex : Nat
  prepend_le_read : kCheapPrepend ≤ readIndex
  read_le_write : readIndex ≤ writeIndex
  write_le_size : writeIndex ≤ buffer.length

namespace Buffer

/-- A fresh buffer: the vector is value-initialised and nothing is readable. -/
def new (initialSize : Nat := kInitialSize) : Buffer where
  buffer := List.replicate (kCheapPrepend + initialSize) 0
  readIndex := kCheapPrepend
  writeIndex := kCheapPrepend
  prepend_le_read := le_rfl
  read_le_write := le_rfl
  write_le_size := by simp

def readableBytes (b : Buffer) : Nat := b.writeIndex - b.readIndex
def writableBytes (b : Buffer) : Nat := b.buffer.length - b.writeIndex
def prependableBytes (b : Buffer) : Nat := b.readIndex

/-- What `Peek()` points at: the vector from the read index on. -/
def peek (b : Buffer) : List UInt8 := b.buffer.drop b.readIndex

/-- The byte queue a buffer stands for. -/
def readable (b : Buffer) : List UInt8 := b.peek.take b.readableBytes

@[simp] theorem length_readable (b : Buffer) : b.readable.length = b.readableBytes := by
  have := b.write_le_size
  simp only [readable, peek, readableBytes, List.length_take, List.length_drop]
  omega

/-- The readable bytes are the written prefix of the vector without its first `readIndex`. -/
theorem readable_eq_drop (b : Buffer) :
    b.readable = (b.buffer.take b.writeIndex).drop b.readIndex := by
  rw [readable, peek, readableBytes, List.drop_take]

@[simp] theorem readable_new (n : Nat) : (new n).readable = [] := by
  simp [readable, readableBytes, new]

/-! ## Consuming -/

def retrieveAll (b : Buffer) : Buffer where
  buffer := b.buffer
  readIndex := kCheapPrepend
  writeIndex := kCheapPrepend
  prepend_le_read := le_rfl
  read_le_write := le_rfl
  write_le_size := b.prepend_le_read.trans (b.read_le_write.trans b.write_le_size)

def retrieve (b : Buffer) (len : Nat) : Buffer :=
  if h : len < b.readableBytes then
    { b with
      readIndex := b.readIndex + len
      prepend_le_read := b.prepend_le_read.trans (Nat.le_add_right _ _)
      read_le_write := by unfold readableBytes at h; omega }
  else b.retrieveAll

def retrieveAsString (b : Buffer) (len : Nat) : List UInt8 × Buffer :=
  (b.peek.take len, b.retrieve len)

def retrieveAllAsString (b : Buffer) : List UInt8 × Buffer :=
  b.retrieveAsString b.readableBytes

@[simp] theorem readable_retrieveAll (b : Buffer) : b.retrieveAll.readable = [] := by
  simp [readable, readableBytes, retrieveAll]

/-- Consuming `len` bytes drops them from the queue; past the end it empties the queue. -/
@[simp] theorem readable_retrieve (b : Buffer) (len : Nat) :
    (b.retrieve len).readable = b.readable.drop len := by
  unfold retrieve
  split
  · next h =>
    rw [readable_eq_drop, readable_eq_drop, List.drop_drop]
  · next h =>
    rw [readable_retrieveAll, List.drop_of_length_le (by simp; omega)]

/-! ## Making room -/

/-- `MakeSpace`: grow the vector when sliding cannot free `len` bytes, else slide the readable
bytes down to the reserved prefix. -/
def makeSpace (b : Buffer) (len : Nat) : Buffer :=
  if b.writableBytes + b.prependableBytes < len + kCheapPrepend then
    { b with
      buffer := (b.buffer ++ List.replicate (b.writeIndex + len - b.buffer.length) 0).take
        (b.writeIndex + len)
      write_le_size := by have := b.write_le_size; simp; omega }
  else
    { buffer := Bytes.overwrite b.buffer kCheapPrepend b.readable
      readIndex := kCheapPrepend
      writeIndex := kCheapPrepend + b.readableBytes
      prepend_le_read := le_rfl
      read_le_write := Nat.le_add_right _ _
      write_le_size := by
        have h₁ := b.prepend_le_read
        have h₂ := b.read_le_write
        have h₃ := b.write_le_size
        rw [Bytes.length_overwrite (by simp [readableBytes]; omega)]
        unfold readableBytes
        omega }

def ensureWritableBytes (b : Buffer) (len : Nat) : Buffer :=
  if b.writableBytes < len then b.makeSpace len else b

@[simp] theorem readable_makeSpace (b : Buffer) (len : Nat) :
    (b.makeSpace len).readable = b.readable := by
  have h₁ := b.prepend_le_read
  have h₂ := b.read_le_write
  have h₃ := b.write_le_size
  unfold makeSpace
  split
  · rw [readable_eq_drop, readable_eq_drop, List.take_take,
      Nat.min_eq_left (Nat.le_add_right _ _), List.take_append_of_le_length h₃]
  · rw [readable_eq_drop]
    dsimp only
    rw [← length_readable, Bytes.take_overwrite _ (by omega)]
    exact List.drop_left' (by simp; omega)

theorem writableBytes_makeSpace (b : Buffer) (len : Nat) :
    len ≤ (b.makeSpace len).writableBytes := by
  have h₁ := b.prepend_le_read
  have h₂ := b.read_le_write
  have h₃ := b.write_le_size
  unfold makeSpace
  split
  · simp only [writableBytes, List.length_take, List.length_append, List.length_replicate]
    omega
  · next h =>
    simp only [writableBytes, prependableBytes] at h
    simp only [writableBytes]
    rw [Bytes.length_overwrite (by simp [readableBytes]; omega)]
    unfold readableBytes
    omega

@[simp] theorem readable_ensureWritableBytes (b : Buffer) (len : Nat) :
    (b.ensureWritableBytes len).readable = b.readable := by
  unfold ensureWritableBytes
  split <;> simp

theorem writableBytes_ensureWritableBytes (b : Buffer) (len : Nat) :
    len ≤ (b.ensureWritableBytes len).writableBytes := by
  unfold ensureWritableBytes
  split
  · exact b.writableBytes_makeSpace len
  · omega

/-! ## Filling -/

/-- Copy `data` to the write position and count it as written. The hypothesis is the assertion
of `HasWritten`. -/
def hasWritten (b : Buffer) (data : List UInt8) (h : data.length ≤ b.writableBytes) : Buffer where
  buffer := Bytes.overwrite b.buffer b.writeIndex data
  readIndex := b.readIndex
  writeIndex := b.writeIndex + data.length
  prepend_le_read := b.prepend_le_read
  read_le_write := b.read_le_write.trans (Nat.le_add_right _ _)
  write_le_size := by
    have h₃ := b.write_le_size
    unfold writableBytes at h
    rw [Bytes.length_overwrite (by omega)]
    omega

theorem readable_hasWritten (b : Buffer) (data : List UInt8)
    (h : data.length ≤ b.writableBytes) :
    (b.hasWritten data h).readable = b.readable ++ data := by
  have h₂ := b.read_le_write
  have h₃ := b.write_le_size
  rw [readable_eq_drop, readable_eq_drop]
  simp only [hasWritten]
  rw [Bytes.take_overwrite _ h₃, List.drop_append_of_le_length (by simp; omega)]

def append (b : Buffer) (data : List UInt8) : Buffer :=
  (b.ensureWritableBytes data.length).hasWritten data
    (b.writableBytes_ensureWritableBytes data.length)

def appendUInt32 (b : Buffer) (value : UInt32) : Buffer := b.append (Bytes.word value)

@[simp] theorem readable_append (b : Buffer) (data : List UInt8) :
    (b.append data).readable = b.readable ++ data := by
  rw [append, readable_hasWritten, readable_ensureWritableBytes]

/-- `ReadFd` after a `readv` that returned the bytes `data`: they fill the writable tail of the
vector first and spill into the stack buffer, whose content is then appended. -/
def readFd (b : Buffer) (data : List UInt8) : Buffer :=
  if h : data.length ≤ b.writableBytes then b.hasWritten data h
  else
    (b.hasWritten (data.take b.writableBytes) (by simp)).append (data.drop b.writableBytes)

/-- However `readv` split them over the two areas, the bytes read end up queued in order. -/
@[simp] theorem readable_readFd (b : Buffer) (data : List UInt8) :
    (b.readFd data).readable = b.readable ++ data := by
  unfold readFd
  split
  · exact b.readable_hasWritten data _
  · rw [readable_append, readable_hasWritten, List.append_assoc, List.take_append_drop]

/-! ## Words -/

def peekUInt32 (b : Buffer) (offset : Nat := 0) : UInt32 := Bytes.ofWord (b.peek.drop offset)

def retrieveUInt32 (b : Buffer) : UInt32 × Buffer := (b.peekUInt32, b.retrieve 4)

/-- A word inside the readable bytes is read from them. -/
theorem peekUInt32_eq (b : Buffer) (h : 4 ≤ b.readableBytes) :
    b.peekUInt32 = Bytes.ofWord b.readable := by
  have h₃ := b.write_le_size
  rw [peekUInt32, List.drop_zero, readable,
    Bytes.ofWord_take h (by simp [peek]; unfold readableBytes; omega)]

end Buffer

end NebulaRpc.Net
