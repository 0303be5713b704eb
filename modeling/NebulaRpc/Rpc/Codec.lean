import NebulaRpc.Library.Framing
import NebulaRpc.Net.Buffer

/-!
# The wire format

`nebula/rpc/rpc_codec.cpp` and `nebula/rpc/proto/rpc_meta.proto`. A frame is a big-endian body
size, a big-endian meta size, the serialised `RpcMeta` and the payload. The protobuf runtime is
not part of the repository, so the generated class enters as the parameter `MetaFormat`, and what
the code relies on is collected in `MetaFormat.Lawful`.

`Decode` reads only the readable bytes of its buffer. `parseFrame` is its value as a function of
those bytes; it is a `Framing.Framer`, which is what the receive loops use.
-/

namespace NebulaRpc.Rpc

open NebulaRpc.Net

/-! ## RpcMeta -/

/-- `RpcMeta.MessageType`. Enumerations of proto3 are open: a number without a name is kept. -/
inductive MessageType where
  | request
  | response
  | error
  | heartbeat
  | unrecognized (value : {v : Int32 // v < 0 ∨ 3 < v})
  deriving DecidableEq

/-- `nebula.rpc.proto.RpcMeta`. Strings and byte fields are octet strings. -/
structure RpcMeta where
  type : MessageType := .request
  requestId : UInt64 := 0
  serviceName : List UInt8 := []
  methodIndex : UInt32 := 0
  payloadSize : UInt32 := 0
  errorCode : Int32 := 0
  errorText : List UInt8 := []
  traceId : UInt64 := 0
  deriving DecidableEq

/-- Well-formed UTF-8, which proto3 demands of `string` fields when parsing. -/
def ValidUtf8 (text : List UInt8) : Prop := (ByteArray.mk text.toArray).IsValidUTF8

/-- The methods of the generated class `RpcMeta` that the codec calls. -/
structure MetaFormat where
  byteSizeLong : RpcMeta → Nat
  appendToString : RpcMeta → List UInt8 → Option (List UInt8)
  serializeWithCachedSizesToArray : RpcMeta → List UInt8
  parseFromArray : List UInt8 → Option RpcMeta

/-- The documented behaviour of protobuf that the codec relies on: one serialisation `wire`,
whose length is `ByteSizeLong` and which, below the protobuf limit of 2 GiB, never fails and is
inverted by parsing. -/
structure MetaFormat.Lawful (F : MetaFormat) (wire : RpcMeta → List UInt8) : Prop where
  byteSizeLong_eq : ∀ m, F.byteSizeLong m = (wire m).length
  appendToString_eq : ∀ m output, (wire m).length < 2 ^ 31 →
    F.appendToString m output = some (output ++ wire m)
  serializeWithCachedSizesToArray_eq : ∀ m, (wire m).length < 2 ^ 31 →
    F.serializeWithCachedSizesToArray m = wire m
  parseFromArray_wire : ∀ m, (wire m).length < 2 ^ 31 → ValidUtf8 m.errorText →
    F.parseFromArray (wire m) = some m

/-- The documented behaviour of proto3 on text that is not UTF-8: it is written as it is, but a
message that holds it does not parse. -/
def MetaFormat.RejectsInvalidUtf8 (F : MetaFormat) (wire : RpcMeta → List UInt8) : Prop :=
  ∀ m, (wire m).length < 2 ^ 31 → ¬ ValidUtf8 m.errorText → F.parseFromArray (wire m) = none

/-- The documented size of a message with the fields of `RpcMeta`: beside its two texts it takes a few
octets for each number and each tag. -/
def Compact (wire : RpcMeta → List UInt8) : Prop :=
  ∀ m, (wire m).length ≤ 160 + m.serviceName.length + m.errorText.length

/-- The documented behaviour of proto3 on which both ends of a connection rely. -/
structure MetaFormat.Proto3 (F : MetaFormat) (wire : RpcMeta → List UInt8) : Prop where
  lawful : F.Lawful wire
  rejectsInvalidUtf8 : F.RejectsInvalidUtf8 wire
  compact : Compact wire

/-- The methods of a `google::protobuf::MessageLite` that the codec and the server call. -/
structure MessageLite where
  byteSizeLong : Nat
  serializeWithCachedSizesToArray : List UInt8
  serializeToString : Option (List UInt8)

/-! ## Encoding -/

/-- Sixteen mebibytes. -/
def kMaxFrameSize : Nat := 16 * 1024 * 1024

def uint32Max : Nat := 2 ^ 32 - 1

/-- `meta.set_payload_size(static_cast<std::uint32_t>(size))`. -/
def RpcMeta.setPayloadSize (m : RpcMeta) (size : Nat) : RpcMeta :=
  { m with payloadSize := UInt32.ofNat size }

/-- `RpcCodec::Encode`. The empty string reports failure. -/
def encode (F : MetaFormat) (m : RpcMeta) (payload : List UInt8) : List UInt8 :=
  if payload.length > uint32Max then []
  else
    let m := m.setPayloadSize payload.length
    let metaSize := F.byteSizeLong m
    let bodySize := 4 + metaSize + payload.length
    if bodySize > kMaxFrameSize ∨ bodySize > uint32Max then []
    else
      let output := Bytes.word (UInt32.ofNat bodySize) ++ Bytes.word (UInt32.ofNat metaSize)
      match F.appendToString m output with
      | none => []
      | some output => output ++ payload

/-- `RpcCodec::EncodeMessage`: the frame is written through raw offsets into a string of its
final size, and is given up when the last write does not end at the end of that string. -/
def encodeMessage (F : MetaFormat) (m : RpcMeta) (payload : MessageLite) : List UInt8 :=
  if payload.byteSizeLong > uint32Max then []
  else
    let m := m.setPayloadSize payload.byteSizeLong
    let metaSize := F.byteSizeLong m
    let bodySize := 4 + metaSize + payload.byteSizeLong
    if bodySize > kMaxFrameSize ∨ bodySize > uint32Max then []
    else
      let output := List.replicate (4 + bodySize) 0
      let output := Bytes.overwrite output 0 (Bytes.word (UInt32.ofNat bodySize))
      let output := Bytes.overwrite output 4 (Bytes.word (UInt32.ofNat metaSize))
      let metaBytes := F.serializeWithCachedSizesToArray m
      let output := Bytes.overwrite output 8 metaBytes
      let payloadBegin := 8 + metaBytes.length
      let payloadBytes := payload.serializeWithCachedSizesToArray
      let output := Bytes.overwrite output payloadBegin payloadBytes
      if payloadBegin + payloadBytes.length ≠ 4 + bodySize then [] else output

/-! ## Decoding -/

inductive DecodeResult where
  | needMore
  | ok
  | error
  deriving DecidableEq, Repr

/-- `RpcFrame`. The payload view is the octets it refers to. -/
structure RpcFrame where
  rpcMeta : RpcMeta := {}
  payload : List UInt8 := []
  wireSize : Nat := 0
  deriving DecidableEq

/-- `RpcCodec::DecodeBody`. The frame and the error text are in-out parameters. -/
def decodeBody (F : MetaFormat) (body : List UInt8) (frame : RpcFrame) (error : String) :
    Bool × RpcFrame × String :=
  if body.length < 4 then (false, frame, "RPC frame body is too small")
  else
    let metaSize := (Bytes.ofWord body).toNat
    if metaSize > body.length - 4 then (false, frame, "RPC meta size exceeds frame body")
    else
      let metaBytes := (body.drop 4).take metaSize
      let payload := body.drop (4 + metaSize)
      match F.parseFromArray metaBytes with
      | none => (false, frame, "failed to parse RPC meta")
      | some m =>
        if m.payloadSize.toNat ≠ payload.length then (false, frame, "RPC payload size mismatch")
        else (true, { frame with rpcMeta := m, payload := payload }, error)

/-- `RpcCodec::Decode`. The buffer is only read. -/
def decode (F : MetaFormat) (buffer : Buffer) (frame : RpcFrame) (error : String) :
    DecodeResult × RpcFrame × String :=
  if buffer.readableBytes < 4 then (.needMore, frame, error)
  else
    let frameSize := buffer.peekUInt32.toNat
    if frameSize < 4 ∨ frameSize > kMaxFrameSize then (.error, frame, "invalid RPC frame size")
    else
      let totalSize := 4 + frameSize
      if buffer.readableBytes < totalSize then (.needMore, frame, error)
      else
        match decodeBody F ((buffer.peek.drop 4).take frameSize) frame error with
        | (false, frame, error) => (.error, frame, error)
        | (true, frame, error) => (.ok, { frame with wireSize := totalSize }, error)

/-! ## The verdict as a function of the bytes -/

open Framing (Verdict Framer)

/-- What a body of a complete frame is worth. -/
def parseBody (F : MetaFormat) (body : List UInt8) : Except String (RpcMeta × List UInt8) :=
  if body.length < 4 then .error "RPC frame body is too small"
  else if (Bytes.ofWord body).toNat > body.length - 4 then
    .error "RPC meta size exceeds frame body"
  else
    match F.parseFromArray ((body.drop 4).take (Bytes.ofWord body).toNat) with
    | none => .error "failed to parse RPC meta"
    | some m =>
      if m.payloadSize.toNat ≠ (body.drop (4 + (Bytes.ofWord body).toNat)).length then
        .error "RPC payload size mismatch"
      else .ok (m, body.drop (4 + (Bytes.ofWord body).toNat))

/-- The verdict on a byte string that a decoder faces. -/
def parseFrame (F : MetaFormat) (s : List UInt8) : Verdict String RpcFrame :=
  if s.length < 4 then .more
  else if (Bytes.ofWord s).toNat < 4 ∨ (Bytes.ofWord s).toNat > kMaxFrameSize then
    .bad "invalid RPC frame size"
  else if s.length < 4 + (Bytes.ofWord s).toNat then .more
  else
    match parseBody F ((s.drop 4).take (Bytes.ofWord s).toNat) with
    | .error e => .bad e
    | .ok (m, payload) =>
      .ok ⟨m, payload, 4 + (Bytes.ofWord s).toNat⟩ (4 + (Bytes.ofWord s).toNat)

theorem decodeBody_eq (F : MetaFormat) (body : List UInt8) (frame : RpcFrame) (error : String) :
    decodeBody F body frame error =
      match parseBody F body with
      | .error e => (false, frame, e)
      | .ok (m, payload) => (true, { frame with rpcMeta := m, payload := payload }, error) := by
  unfold decodeBody parseBody
  dsimp only
  split
  · rfl
  · split
    · rfl
    · cases F.parseFromArray ((body.drop 4).take (Bytes.ofWord body).toNat) with
      | none => rfl
      | some m => dsimp only; split <;> rfl

/-- `Decode` sees the readable bytes and nothing else. -/
theorem decode_eq (F : MetaFormat) (b : Buffer) (frame : RpcFrame) (error : String) :
    decode F b frame error =
      match parseFrame F b.readable with
      | .more => (.needMore, frame, error)
      | .bad e => (.error, frame, e)
      | .ok f _ => (.ok, f, error) := by
  unfold decode parseFrame
  rw [Buffer.length_readable]
  by_cases h₄ : b.readableBytes < 4
  · simp [h₄]
  rw [if_neg h₄, if_neg h₄, Buffer.peekUInt32_eq b (by omega)]
  dsimp only
  split
  · rfl
  split
  · rfl
  · next h =>
    have hbody : (b.readable.drop 4).take (Bytes.ofWord b.readable).toNat =
        (b.peek.drop 4).take (Bytes.ofWord b.readable).toNat := by
      have hr : b.readable = b.peek.take b.readableBytes := rfl
      generalize (Bytes.ofWord b.readable).toNat = n at h
      rw [hr, List.drop_take, List.take_take, Nat.min_eq_left (by omega)]
    rw [hbody, decodeBody_eq]
    cases parseBody F ((b.peek.drop 4).take (Bytes.ofWord b.readable).toNat) with
    | error e => rfl
    | ok p => rfl

/-- The verdict of the decoder is stable, and an accepted frame is never empty. -/
def framer (F : MetaFormat) : Framer UInt8 String RpcFrame where
  next := parseFrame F
  size_pos := by
    intro s a n h
    unfold parseFrame at h
    repeat' split at h
    all_goals cases h
    omega
  size_le := by
    intro s a n h
    unfold parseFrame at h
    repeat' split at h
    all_goals cases h
    omega
  ok_append := by
    intro s a n t h
    unfold parseFrame at h ⊢
    split at h
    · cases h
    · next h₄ =>
      rw [Bytes.ofWord_append t (by omega), List.length_append, if_neg (by omega)]
      split at h
      · cases h
      · next hr =>
        rw [if_neg hr]
        split at h
        · cases h
        · next hs =>
          rw [if_neg (by omega), List.drop_append_of_le_length (by omega),
            List.take_append_of_le_length (by simp; omega)]
          exact h
  bad_append := by
    intro s e t h
    unfold parseFrame at h ⊢
    split at h
    · cases h
    · next h₄ =>
      rw [Bytes.ofWord_append t (by omega), List.length_append, if_neg (by omega)]
      split at h
      · next hr => rw [if_pos hr]; exact h
      · next hr =>
        rw [if_neg hr]
        split at h
        · cases h
        · next hs =>
          rw [if_neg (by omega), List.drop_append_of_le_length (by omega),
            List.take_append_of_le_length (by simp; omega)]
          exact h

end NebulaRpc.Rpc
