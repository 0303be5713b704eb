import NebulaRpc.Library.Transition
import NebulaRpc.Net.Buffer

/-!
# The buffer in memory

`net::Buffer` as the machine has it: a vector and two indices without any promise about them,
`size_t` arithmetic that wraps, and accesses that fail when they leave the vector. Run side by side
with a byte queue it shows that the promises of `Buffer` are kept, and when.
-/

namespace NebulaRpc.Net

/-- A value of `size_t`. -/
def sizeT (n : Int) : Nat := (n % 2 ^ 64).toNat

theorem sizeT_of_lt {n : Nat} (h : n < 2 ^ 64) : sizeT n = n := by
  unfold sizeT
  omega

theorem sizeT_sub {m n : Nat} (hle : n ≤ m) (h : m < 2 ^ 64) : sizeT (m - n : Int) = m - n := by
  unfold sizeT
  omega

/-- `std::vector<char>::max_size()`. -/
def kMaxSize : Nat := 2 ^ 63 - 1

/-- Room on the stack that `ReadFd` offers behind the writable bytes. -/
def kExtraBuffer : Nat := 65536

/-- Why an operation does not return: the vector throws, or an access is outside of it. -/
inductive BufferFault where
  | lengthError
  | outOfBounds
  deriving DecidableEq

/-! ## The vector -/

/-- Constructing or resizing a vector. -/
def resize (buffer : List UInt8) (size : Nat) : Except BufferFault (List UInt8) :=
  if size > kMaxSize then .error .lengthError
  else .ok ((buffer ++ List.replicate (size - buffer.length) 0).take size)

def readAt (buffer : List UInt8) (pos len : Nat) : Except BufferFault (List UInt8) :=
  if pos + len ≤ buffer.length then .ok ((buffer.drop pos).take len) else .error .outOfBounds

def writeAt (buffer : List UInt8) (pos : Nat) (data : List UInt8) :
    Except BufferFault (List UInt8) :=
  if pos + data.length ≤ buffer.length then .ok (Bytes.overwrite buffer pos data)
  else .error .outOfBounds

/-- The members of `net::Buffer`. -/
structure RawBuffer where
  buffer : List UInt8
  readIndex : Nat
  writeIndex : Nat
  deriving DecidableEq

namespace RawBuffer

def new (initialSize : Nat) : Except BufferFault RawBuffer := do
  let buffer ← resize [] (sizeT (kCheapPrepend + initialSize))
  return ⟨buffer, kCheapPrepend, kCheapPrepend⟩

def readableBytes (b : RawBuffer) : Nat := sizeT (b.writeIndex - b.readIndex)
def writableBytes (b : RawBuffer) : Nat := sizeT (b.buffer.length - b.writeIndex)
def prependableBytes (b : RawBuffer) : Nat := b.readIndex

def readable (b : RawBuffer) : List UInt8 := (b.buffer.take b.writeIndex).drop b.readIndex

def retrieveAll (b : RawBuffer) : RawBuffer :=
  { b with readIndex := kCheapPrepend, writeIndex := kCheapPrepend }

def retrieve (b : RawBuffer) (len : Nat) : RawBuffer :=
  if len < b.readableBytes then { b with readIndex := sizeT (b.readIndex + len) }
  else b.retrieveAll

def retrieveAsString (b : RawBuffer) (len : Nat) : Except BufferFault (List UInt8 × RawBuffer) := do
  let result ← readAt b.buffer b.readIndex len
  return (result, b.retrieve len)

def retrieveAllAsString (b : RawBuffer) : Except BufferFault (List UInt8 × RawBuffer) :=
  b.retrieveAsString b.readableBytes

def makeSpace (b : RawBuffer) (len : Nat) : Except BufferFault RawBuffer :=
  if sizeT (b.writableBytes + b.prependableBytes) < sizeT (len + kCheapPrepend) then do
    let buffer ← resize b.buffer (sizeT (b.writeIndex + len))
    return { b with buffer := buffer }
  else
    let readable := b.readableBytes
    match Bytes.copyForward b.buffer b.readIndex kCheapPrepend readable with
    | none => .error .outOfBounds
    | some buffer => .ok ⟨buffer, kCheapPrepend, sizeT (kCheapPrepend + readable)⟩

def ensureWritableBytes (b : RawBuffer) (len : Nat) : Except BufferFault RawBuffer :=
  if b.writableBytes < len then b.makeSpace len else .ok b

def hasWritten (b : RawBuffer) (len : Nat) : RawBuffer :=
  { b with writeIndex := sizeT (b.writeIndex + len) }

def append (b : RawBuffer) (data : List UInt8) : Except BufferFault RawBuffer := do
  let b ← b.ensureWritableBytes data.length
  let buffer ← writeAt b.buffer b.writeIndex data
  return RawBuffer.hasWritten { b with buffer := buffer } data.length

def appendUInt32 (b : RawBuffer) (value : UInt32) : Except BufferFault RawBuffer :=
  b.append (Bytes.word value)

def peekUInt32 (b : RawBuffer) (offset : Nat := 0) : Except BufferFault UInt32 := do
  let be32 ← readAt b.buffer (b.readIndex + offset) 4
  return Bytes.ofWord be32

def retrieveUInt32 (b : RawBuffer) : Except BufferFault (UInt32 × RawBuffer) := do
  let value ← b.peekUInt32
  return (value, b.retrieve 4)

/-- How much `ReadFd` lets `readv` return. -/
def offered (b : RawBuffer) : Nat :=
  b.writableBytes + if b.writableBytes < kExtraBuffer then kExtraBuffer else 0

/-- `ReadFd`, given the bytes that `readv` fills in, or `none` when it fails. -/
def readFd (b : RawBuffer) : Option (List UInt8) → Except BufferFault RawBuffer
  | none => .ok b
  | some data => do
    let writable := b.writableBytes
    let _ ← readAt b.buffer b.writeIndex writable
    let buffer ← writeAt b.buffer b.writeIndex (data.take writable)
    if data.length ≤ writable then
      return RawBuffer.hasWritten { b with buffer := buffer } data.length
    else
      RawBuffer.append { b with buffer := buffer, writeIndex := buffer.length } (data.drop writable)

end RawBuffer

/-! ## Operations -/

inductive BufferOp where
  | append (data : List UInt8)
  | appendUInt32 (value : UInt32)
  | retrieve (len : Nat)
  | retrieveAll
  | retrieveAsString (len : Nat)
  | retrieveAllAsString
  | retrieveUInt32
  | ensureWritableBytes (len : Nat)
  | readFd (data : Option (List UInt8))
  deriving DecidableEq

/-- What an operation returns. -/
inductive BufferAnswer where
  | nothing
  | bytes (data : List UInt8)
  | word (value : UInt32)
  | count (n : Int)
  deriving DecidableEq

def RawBuffer.step (b : RawBuffer) : BufferOp → Except BufferFault (BufferAnswer × RawBuffer)
  | .append data => return (.nothing, ← b.append data)
  | .appendUInt32 value => return (.nothing, ← b.appendUInt32 value)
  | .retrieve len => return (.nothing, b.retrieve len)
  | .retrieveAll => return (.nothing, b.retrieveAll)
  | .retrieveAsString len => do
    let (result, b) ← b.retrieveAsString len
    return (.bytes result, b)
  | .retrieveAllAsString => do
    let (result, b) ← b.retrieveAllAsString
    return (.bytes result, b)
  | .retrieveUInt32 => do
    let (value, b) ← b.retrieveUInt32
    return (.word value, b)
  | .ensureWritableBytes len => return (.nothing, ← b.ensureWritableBytes len)
  | .readFd data => do
    let n : Int := match data with
      | some data => data.length
      | none => -1
    return (.count n, ← b.readFd data)

/-- The same operation on a queue of bytes. -/
def BufferOp.onQueue : BufferOp → List UInt8 → BufferAnswer × List UInt8
  | .append data, q => (.nothing, q ++ data)
  | .appendUInt32 value, q => (.nothing, q ++ Bytes.word value)
  | .retrieve len, q => (.nothing, q.drop len)
  | .retrieveAll, _ => (.nothing, [])
  | .retrieveAsString len, q => (.bytes (q.take len), q.drop len)
  | .retrieveAllAsString, q => (.bytes q, [])
  | .retrieveUInt32, q => (.word (Bytes.ofWord q), q.drop 4)
  | .ensureWritableBytes _, q => (.nothing, q)
  | .readFd none, q => (.count (-1), q)
  | .readFd (some data), q => (.count data.length, q ++ data)

/-- What the assertions of the operations and `readv` promise. -/
def BufferOp.Allowed (b : RawBuffer) : BufferOp → Prop
  | .retrieve len | .retrieveAsString len => len ≤ b.readableBytes
  | .retrieveUInt32 => 4 ≤ b.readableBytes
  | .readFd (some data) => data.length ≤ b.offered
  | _ => True

instance (b : RawBuffer) : (op : BufferOp) → Decidable (op.Allowed b)
  | .retrieve len => inferInstanceAs (Decidable (len ≤ b.readableBytes))
  | .retrieveAsString len => inferInstanceAs (Decidable (len ≤ b.readableBytes))
  | .retrieveUInt32 => inferInstanceAs (Decidable (4 ≤ b.readableBytes))
  | .readFd (some data) => inferInstanceAs (Decidable (data.length ≤ b.offered))
  | .readFd none | .append _ | .appendUInt32 _ | .retrieveAll | .retrieveAllAsString
  | .ensureWritableBytes _ => .isTrue trivial

/-- Making room for `len` bytes does not carry the write index past the end of `size_t`. -/
def RawBuffer.Fits (b : RawBuffer) (len : Nat) : Prop :=
  len ≤ b.writableBytes ∨ b.writeIndex + len < 2 ^ 64

def BufferOp.Fits (b : RawBuffer) : BufferOp → Prop
  | .append data => b.Fits data.length
  | .appendUInt32 _ => b.Fits 4
  | .ensureWritableBytes len => b.Fits len
  | _ => True

instance (b : RawBuffer) (len : Nat) : Decidable (b.Fits len) := inferInstanceAs (Decidable (_ ∨ _))

instance (b : RawBuffer) : (op : BufferOp) → Decidable (op.Fits b)
  | .append data => inferInstanceAs (Decidable (b.Fits data.length))
  | .appendUInt32 _ => inferInstanceAs (Decidable (b.Fits 4))
  | .ensureWritableBytes len => inferInstanceAs (Decidable (b.Fits len))
  | .retrieve _ | .retrieveAll | .retrieveAsString _ | .retrieveAllAsString | .retrieveUInt32
  | .readFd _ => .isTrue trivial

/-! ## The promises of `Buffer` are kept -/

namespace Buffer

variable {b b' : Buffer}

/-- The members of a buffer. -/
def toRaw (b : Buffer) : RawBuffer := ⟨b.buffer, b.readIndex, b.writeIndex⟩

/-- The vector is not longer than a vector can be. -/
def Sized (b : Buffer) : Prop := b.buffer.length ≤ kMaxSize

theorem Sized.lt (h : b.Sized) : b.buffer.length < 2 ^ 64 := by
  unfold Sized kMaxSize at h
  omega

theorem Sized.writeIndex_lt (h : b.Sized) : b.writeIndex < 2 ^ 64 :=
  b.write_le_size.trans_lt h.lt

theorem Sized.readableBytes (h : b.Sized) : b.toRaw.readableBytes = b.readableBytes :=
  sizeT_sub b.read_le_write h.writeIndex_lt

theorem Sized.writableBytes (h : b.Sized) : b.toRaw.writableBytes = b.writableBytes :=
  sizeT_sub b.write_le_size h.lt

theorem readable_toRaw (b : Buffer) : b.toRaw.readable = b.readable := b.readable_eq_drop.symm

theorem Sized.retrieve (h : b.Sized) (len : Nat) :
    b.toRaw.retrieve len = (b.retrieve len).toRaw ∧ (b.retrieve len).Sized := by
  unfold RawBuffer.retrieve Buffer.retrieve
  rw [h.readableBytes]
  split
  · next hlt =>
    have hsize : sizeT (b.readIndex + len : Int) = b.readIndex + len := by
      have hwrite := h.writeIndex_lt
      unfold Buffer.readableBytes at hlt
      exact sizeT_of_lt (n := b.readIndex + len) (by omega)
    exact ⟨by simp only [toRaw, hsize], h⟩
  · exact ⟨rfl, h⟩

theorem readAt_toRaw (b : Buffer) {len : Nat} (hlen : len ≤ b.readableBytes) :
    readAt b.buffer b.readIndex len = .ok (b.readable.take len) := by
  have hwrite := b.write_le_size
  have hread := b.read_le_write
  unfold Buffer.readableBytes at hlen
  rw [readAt, if_pos (by omega), Buffer.readable, List.take_take, peek, Buffer.readableBytes,
    Nat.min_eq_left (by omega)]

/-- The operation returns this buffer, or the vector throws. -/
inductive Yields (x : Except BufferFault RawBuffer) (b : Buffer) : Prop
  | throws (h : x = .error .lengthError)
  | returns (h : x = .ok b.toRaw) (hsized : b.Sized)

theorem Sized.makeSpace (h : b.Sized) {len : Nat} (hlen : b.writeIndex + len < 2 ^ 64) :
    Yields (b.toRaw.makeSpace len) (b.makeSpace len) := by
  have hread := b.read_le_write
  have hwrite := b.write_le_size
  have hprepend := b.prepend_le_read
  have hlt := h.lt
  have hroom : sizeT (b.toRaw.writableBytes + b.toRaw.prependableBytes : Int) =
      b.writableBytes + b.prependableBytes := by
    rw [h.writableBytes]
    apply sizeT_of_lt (n := b.writableBytes + b.prependableBytes)
    unfold Buffer.writableBytes prependableBytes
    omega
  have hneed : sizeT (len + kCheapPrepend : Int) = len + kCheapPrepend := by
    apply sizeT_of_lt (n := len + kCheapPrepend)
    unfold kCheapPrepend at hprepend ⊢
    omega
  unfold RawBuffer.makeSpace Buffer.makeSpace
  rw [hroom, hneed]
  split
  · have hsize : sizeT (b.toRaw.writeIndex + len : Int) = b.writeIndex + len :=
      sizeT_of_lt (n := b.writeIndex + len) hlen
    rw [hsize]
    unfold resize
    split
    · exact .throws rfl
    · next hfit =>
      refine .returns rfl ?_
      unfold Sized
      simp only [List.length_take]
      omega
  · have hcopy : Bytes.copyForward b.toRaw.buffer b.toRaw.readIndex kCheapPrepend
        b.toRaw.readableBytes = some (Bytes.overwrite b.buffer kCheapPrepend b.readable) := by
      rw [h.readableBytes]
      apply Bytes.copyForward_eq hprepend
      show b.readIndex + (b.writeIndex - b.readIndex) ≤ b.buffer.length
      omega
    have hsize : sizeT (kCheapPrepend + b.toRaw.readableBytes : Int) =
        kCheapPrepend + b.readableBytes := by
      rw [h.readableBytes]
      apply sizeT_of_lt (n := kCheapPrepend + b.readableBytes)
      unfold Buffer.readableBytes
      omega
    refine .returns ?_ ?_
    · simp only [hcopy, hsize]
      rfl
    · unfold Sized
      dsimp only
      rw [Bytes.length_overwrite]
      · exact h
      · rw [length_readable]
        unfold Buffer.readableBytes
        omega

theorem Sized.fits (h : b.Sized) {len : Nat} (hfits : b.toRaw.Fits len)
    (hshort : b.writableBytes < len) : b.writeIndex + len < 2 ^ 64 := by
  unfold RawBuffer.Fits at hfits
  rw [h.writableBytes] at hfits
  exact hfits.resolve_left (Nat.not_le.mpr hshort)

theorem Sized.ensureWritableBytes (h : b.Sized) {len : Nat} (hfits : b.toRaw.Fits len) :
    Yields (b.toRaw.ensureWritableBytes len) (b.ensureWritableBytes len) := by
  unfold RawBuffer.ensureWritableBytes Buffer.ensureWritableBytes
  rw [h.writableBytes]
  split
  · next hshort => exact h.makeSpace (h.fits hfits hshort)
  · exact .returns rfl h

/-- Writing behind the write index, within the writable bytes. -/
theorem Sized.hasWritten (h : b.Sized) {data : List UInt8} (hlen : data.length ≤ b.writableBytes) :
    writeAt b.buffer b.writeIndex data = .ok (b.hasWritten data hlen).buffer ∧
      RawBuffer.hasWritten { b.toRaw with buffer := (b.hasWritten data hlen).buffer } data.length =
        (b.hasWritten data hlen).toRaw ∧ (b.hasWritten data hlen).Sized := by
  have hwrite := b.write_le_size
  have hin : b.writeIndex + data.length ≤ b.buffer.length := by
    unfold Buffer.writableBytes at hlen
    omega
  have hsize : sizeT (b.writeIndex + data.length : Int) = b.writeIndex + data.length :=
    sizeT_of_lt (n := b.writeIndex + data.length) (hin.trans_lt h.lt)
  refine ⟨by rw [writeAt, if_pos hin]; rfl, ?_, ?_⟩
  · unfold RawBuffer.hasWritten toRaw
    simp only [hsize]
    rfl
  · unfold Sized Buffer.hasWritten
    rw [Bytes.length_overwrite hin]
    exact h

theorem Sized.append (h : b.Sized) {data : List UInt8} (hfits : b.toRaw.Fits data.length) :
    Yields (b.toRaw.append data) (b.append data) := by
  unfold RawBuffer.append Buffer.append
  have hroom := b.writableBytes_ensureWritableBytes data.length
  cases h.ensureWritableBytes hfits with
  | throws herror => exact .throws (by rw [herror]; rfl)
  | returns hok hsized =>
    obtain ⟨hwrite, hwritten, hsized'⟩ := hsized.hasWritten hroom
    refine .returns ?_ hsized'
    rw [hok]
    show (do
      let buffer ← writeAt (b.ensureWritableBytes data.length).buffer
        (b.ensureWritableBytes data.length).writeIndex data
      return RawBuffer.hasWritten { (b.ensureWritableBytes data.length).toRaw with buffer := buffer }
        data.length) = _
    rw [hwrite]
    exact congrArg Except.ok hwritten

/-- Filling up the writable bytes brings the write index to the end of the vector. -/
theorem writeIndex_hasWritten {data : List UInt8} (hlen : data.length ≤ b.writableBytes)
    (hfull : data.length = b.writableBytes) :
    (b.hasWritten data hlen).writeIndex = (b.hasWritten data hlen).buffer.length := by
  have hwrite := b.write_le_size
  unfold Buffer.writableBytes at hfull
  show b.writeIndex + data.length = (Bytes.overwrite b.buffer b.writeIndex data).length
  rw [Bytes.length_overwrite (by omega)]
  omega

theorem Sized.readFd (h : b.Sized) (data : List UInt8) (hoffered : data.length ≤ b.toRaw.offered) :
    Yields (b.toRaw.readFd (some data)) (b.readFd data) := by
  have hread : readAt b.toRaw.buffer b.toRaw.writeIndex b.toRaw.writableBytes =
      .ok ((b.buffer.drop b.writeIndex).take b.writableBytes) := by
    rw [h.writableBytes, readAt, if_pos]
    · rfl
    · have hwrite := b.write_le_size
      show b.writeIndex + (b.buffer.length - b.writeIndex) ≤ b.buffer.length
      omega
  unfold RawBuffer.readFd Buffer.readFd
  dsimp only
  rw [hread, h.writableBytes]
  show Yields (do
    let buffer ← writeAt b.buffer b.writeIndex (data.take b.writableBytes)
    if data.length ≤ b.writableBytes then
      return RawBuffer.hasWritten { b.toRaw with buffer := buffer } data.length
    else
      RawBuffer.append { b.toRaw with buffer := buffer, writeIndex := buffer.length }
        (data.drop b.writableBytes)) _
  by_cases hfit : data.length ≤ b.writableBytes
  · obtain ⟨hwrite, hwritten, hsized⟩ := h.hasWritten hfit
    rw [dif_pos hfit, List.take_of_length_le hfit, hwrite]
    refine .returns ?_ hsized
    show (if data.length ≤ b.writableBytes then _ else _) = _
    rw [if_pos hfit]
    exact congrArg Except.ok hwritten
  · have htake : (data.take b.writableBytes).length ≤ b.writableBytes := by simp
    obtain ⟨hwrite, -, hsized⟩ := h.hasWritten htake
    rw [hwrite, dif_neg hfit]
    show Yields (if data.length ≤ b.writableBytes then _ else _) _
    rw [if_neg hfit]
    have hmin : (data.take b.writableBytes).length = b.writableBytes := by
      rw [List.length_take]
      omega
    have hfull : ({ b.toRaw with
        buffer := (b.hasWritten (data.take b.writableBytes) htake).buffer
        writeIndex := (b.hasWritten (data.take b.writableBytes) htake).buffer.length } : RawBuffer) =
          (b.hasWritten (data.take b.writableBytes) htake).toRaw := by
      rw [← writeIndex_hasWritten htake hmin]
      rfl
    rw [hfull]
    apply hsized.append
    right
    have hindex : (b.hasWritten (data.take b.writableBytes) htake).toRaw.writeIndex ≤ kMaxSize :=
      (b.hasWritten (data.take b.writableBytes) htake).write_le_size.trans hsized
    unfold RawBuffer.offered at hoffered
    rw [h.writableBytes] at hoffered
    have hdrop : (data.drop b.writableBytes).length ≤ kExtraBuffer := by
      rw [List.length_drop]
      split at hoffered <;> omega
    unfold kMaxSize at hindex
    unfold kExtraBuffer at hdrop
    omega

theorem Yields.answer {x : Except BufferFault RawBuffer} (h : Yields x b) (answer : BufferAnswer) :
    (do return (answer, ← x)) = (.error .lengthError : Except BufferFault (BufferAnswer × RawBuffer)) ∨
      (do return (answer, ← x)) =
        (.ok (answer, b.toRaw) : Except BufferFault (BufferAnswer × RawBuffer)) ∧ b.Sized := by
  cases h with
  | throws h =>
    subst h
    exact .inl rfl
  | returns h hsized =>
    subst h
    exact .inr ⟨rfl, hsized⟩

/-- What an operation on a buffer in order comes to, as seen from the queue. -/
structure Served (op : BufferOp) (q : List UInt8) (answer : BufferAnswer) (b' : Buffer) : Prop where
  sized : b'.Sized
  answer_eq : answer = (op.onQueue q).1
  readable_eq : b'.readable = (op.onQueue q).2
  room : ∀ len, op = .ensureWritableBytes len → len ≤ b'.writableBytes

theorem Sized.retrieveAsString (h : b.Sized) {len : Nat} (hlen : len ≤ b.readableBytes) :
    b.toRaw.retrieveAsString len = .ok (b.readable.take len, (b.retrieve len).toRaw) := by
  unfold RawBuffer.retrieveAsString
  rw [show readAt b.toRaw.buffer b.toRaw.readIndex len = .ok (b.readable.take len) from
    b.readAt_toRaw hlen, (h.retrieve len).1]
  rfl

/-- One operation, when its assertions hold and its sizes do not wrap: the vector throws, or the
answer and the bytes left are those of the queue. -/
theorem Sized.step (h : b.Sized) {op : BufferOp} (hallowed : op.Allowed b.toRaw)
    (hfits : op.Fits b.toRaw) :
    b.toRaw.step op = .error .lengthError ∨
      ∃ answer b', b.toRaw.step op = .ok (answer, b'.toRaw) ∧ Served op b.readable answer b' := by
  cases op with
  | append data =>
    refine ((h.append hfits).answer .nothing).imp_right fun ⟨hok, hsized⟩ => ?_
    exact ⟨.nothing, _, hok, hsized, rfl, b.readable_append data, by rintro len ⟨⟩⟩
  | appendUInt32 value =>
    have happend : Yields (b.toRaw.appendUInt32 value) (b.append (Bytes.word value)) :=
      h.append hfits
    refine (happend.answer .nothing).imp_right fun ⟨hok, hsized⟩ => ?_
    exact ⟨.nothing, _, hok, hsized, rfl, b.readable_append _, by rintro len ⟨⟩⟩
  | retrieve len =>
    obtain ⟨hraw, hsized⟩ := h.retrieve len
    refine .inr ⟨.nothing, b.retrieve len, ?_, hsized, rfl, b.readable_retrieve len, by rintro _ ⟨⟩⟩
    rw [← hraw]
    rfl
  | retrieveAll =>
    exact .inr ⟨.nothing, b.retrieveAll, rfl, h, rfl, b.readable_retrieveAll, by rintro _ ⟨⟩⟩
  | retrieveAsString len =>
    have hlen : len ≤ b.readableBytes := h.readableBytes ▸ hallowed
    refine .inr ⟨.bytes (b.readable.take len), b.retrieve len, ?_, (h.retrieve len).2, rfl,
      b.readable_retrieve len, by rintro _ ⟨⟩⟩
    simp only [RawBuffer.step]
    rw [h.retrieveAsString hlen]
    rfl
  | retrieveAllAsString =>
    have htake : b.readable.take b.readableBytes = b.readable :=
      List.take_of_length_le b.length_readable.le
    refine .inr ⟨.bytes b.readable, b.retrieve b.readableBytes, ?_, (h.retrieve _).2, rfl, ?_,
      by rintro _ ⟨⟩⟩
    · simp only [RawBuffer.step, RawBuffer.retrieveAllAsString]
      rw [h.readableBytes, h.retrieveAsString le_rfl, htake]
      rfl
    · rw [b.readable_retrieve, List.drop_of_length_le b.length_readable.le]
      rfl
  | retrieveUInt32 =>
    have hlen : 4 ≤ b.readableBytes := h.readableBytes ▸ hallowed
    have hword : b.toRaw.peekUInt32 = .ok (Bytes.ofWord b.readable) := by
      unfold RawBuffer.peekUInt32
      rw [show readAt b.toRaw.buffer (b.toRaw.readIndex + 0) 4 = .ok (b.readable.take 4) from
        b.readAt_toRaw hlen]
      exact congrArg Except.ok (Bytes.ofWord_take le_rfl (by simpa using hlen))
    refine .inr ⟨.word (Bytes.ofWord b.readable), b.retrieve 4, ?_, (h.retrieve 4).2, rfl,
      b.readable_retrieve 4, by rintro _ ⟨⟩⟩
    simp only [RawBuffer.step, RawBuffer.retrieveUInt32]
    rw [hword, ← (h.retrieve 4).1]
    rfl
  | ensureWritableBytes len =>
    refine ((h.ensureWritableBytes hfits).answer .nothing).imp_right fun ⟨hok, hsized⟩ => ?_
    refine ⟨.nothing, _, hok, hsized, rfl, b.readable_ensureWritableBytes len, ?_⟩
    rintro len ⟨⟩
    exact b.writableBytes_ensureWritableBytes len
  | readFd data =>
    cases data with
    | none => exact .inr ⟨.count (-1), b, rfl, h, rfl, rfl, by rintro _ ⟨⟩⟩
    | some data =>
      refine ((h.readFd data hallowed).answer (.count data.length)).imp_right fun ⟨hok, hsized⟩ => ?_
      exact ⟨.count data.length, _, hok, hsized, rfl, b.readable_readFd data, by rintro _ ⟨⟩⟩

end Buffer

/-! ## Runs -/

/-- The indices are in order and within the vector. -/
def RawBuffer.InOrder (b : RawBuffer) : Prop :=
  kCheapPrepend ≤ b.readIndex ∧ b.readIndex ≤ b.writeIndex ∧ b.writeIndex ≤ b.buffer.length

instance (b : RawBuffer) : Decidable b.InOrder := inferInstanceAs (Decidable (_ ∧ _))

namespace BufferRun

/-- An operation on the buffer and on the queue next to it. -/
def step (s : RawBuffer × List UInt8) (op : BufferOp) : Option (RawBuffer × List UInt8) :=
  match s.1.step op with
  | .ok (_, b) => some (b, (op.onQueue s.2).2)
  | .error _ => none

/-- The state is a buffer in order and the queue of its bytes. -/
def Refines (s : RawBuffer × List UInt8) : Prop :=
  ∃ b : Buffer, b.Sized ∧ s.1 = b.toRaw ∧ b.readable = s.2

theorem refines_new {initialSize : Nat} {b : RawBuffer} (hsize : kCheapPrepend + initialSize < 2 ^ 64)
    (hnew : RawBuffer.new initialSize = .ok b) : Refines (b, []) := by
  have hlength : sizeT (kCheapPrepend + initialSize : Int) = kCheapPrepend + initialSize :=
    sizeT_of_lt (n := kCheapPrepend + initialSize) hsize
  unfold RawBuffer.new at hnew
  rw [hlength, resize] at hnew
  split at hnew
  · cases hnew
  · next hfit =>
    cases hnew
    refine ⟨.new initialSize, ?_, ?_, Buffer.readable_new initialSize⟩
    · unfold Buffer.Sized Buffer.new
      rw [List.length_replicate]
      omega
    · simp [Buffer.toRaw, Buffer.new]

theorem Refines.step {s s' : RawBuffer × List UInt8} {op : BufferOp} (h : Refines s)
    (hcond : op.Allowed s.1 ∧ op.Fits s.1) (hstep : step s op = some s') : Refines s' := by
  obtain ⟨b, hsized, hraw, hq⟩ := h
  unfold BufferRun.step at hstep
  rw [hraw] at hcond hstep
  obtain herror | ⟨answer, b', hok, hserved⟩ := hsized.step hcond.1 hcond.2
  · rw [herror] at hstep
    cases hstep
  · rw [hok] at hstep
    cases hstep
    exact ⟨b', hserved.sized, rfl, hq ▸ hserved.readable_eq⟩

/-- Along every run whose operations are used as their assertions say and whose sizes do not wrap,
the buffer is a queue of bytes: an operation that does not make the vector throw stays within the
vector, answers as the queue does, and leaves its bytes in an ordered buffer. -/
theorem fifo_of_run (initialSize : Nat) (ops : List BufferOp) {b₀ b : RawBuffer} {q : List UInt8}
    (hsize : kCheapPrepend + initialSize < 2 ^ 64) (hnew : RawBuffer.new initialSize = .ok b₀)
    (hmeets : Transition.Meets step (fun s op => op.Allowed s.1 ∧ op.Fits s.1) (b₀, []) ops)
    (hrun : Transition.run step (b₀, []) ops = some (b, q)) :
    b.InOrder ∧ b.readable = q ∧ (∀ op, op.Allowed b → op.Fits b →
      match b.step op with
      | .error fault => fault = .lengthError
      | .ok (answer, b') => answer = (op.onQueue q).1 ∧ b'.InOrder ∧
          b'.readable = (op.onQueue q).2 ∧
            ∀ len, op = .ensureWritableBytes len → len ≤ b'.writableBytes) ∧
      ∀ value, (BufferOp.retrieveUInt32.onQueue (BufferOp.onQueue (.appendUInt32 value) []).2).1 =
        .word value := by
  have horder : ∀ b : Buffer, b.toRaw.InOrder := fun b =>
    ⟨b.prepend_le_read, b.read_le_write, b.write_le_size⟩
  obtain ⟨c, hsized, rfl, rfl⟩ : Refines (b, q) :=
    Transition.invariant_run (fun _ _ _ h hcond hstep => h.step hcond hstep)
      (refines_new hsize hnew) hmeets hrun
  refine ⟨horder c, c.readable_toRaw, fun op hallowed hfits => ?_, fun value => ?_⟩
  · obtain herror | ⟨answer, c', hok, hserved⟩ := hsized.step hallowed hfits
    · rw [herror]
    · rw [hok]
      refine ⟨hserved.answer_eq, horder c', ?_, fun len hop => ?_⟩
      · exact c'.readable_toRaw.trans hserved.readable_eq
      · rw [hserved.sized.writableBytes]
        exact hserved.room len hop
  · exact congrArg BufferAnswer.word (Bytes.ofWord_word_append value [])

/-- Bytes are appended, read in part, and more is read from the socket than was writable. -/
theorem fifo_of_run_spilling : ∃ b₀ s, RawBuffer.new 4 = .ok b₀ ∧
    Transition.run step (b₀, []) [.append [1, 2, 3], .retrieve 2, .readFd (some [4, 5, 6]),
      .retrieveUInt32] = some s ∧ s.1.InOrder ∧ s.1.readable = s.2 := by
  refine ⟨_, _, rfl, rfl, ?_⟩
  have h := fifo_of_run 4 [.append [1, 2, 3], .retrieve 2, .readFd (some [4, 5, 6]),
    .retrieveUInt32] (by decide) rfl (by decide) rfl
  exact ⟨h.1, h.2.1⟩

/-- Making room for nearly `2 ^ 64` bytes wraps and shrinks the vector. -/
theorem not_inOrder_of_wrap : ¬ ∀ (initialSize : Nat) (ops : List BufferOp) (b₀ b : RawBuffer)
    (q : List UInt8), initialSize < 2 ^ 64 → RawBuffer.new initialSize = .ok b₀ →
      Transition.Meets step (fun s op => op.Allowed s.1) (b₀, []) ops →
        Transition.run step (b₀, []) ops = some (b, q) → b.InOrder ∧ b.readable = q := by
  intro hall
  have h := hall 0 [.append [1, 2, 3, 4, 5, 6, 7, 8], .ensureWritableBytes (2 ^ 64 - 10)] _ _ _
    (by decide) rfl (by simp [Transition.Meets, BufferOp.Allowed]) rfl
  exact absurd h.1 (by decide)

end BufferRun

end NebulaRpc.Net
