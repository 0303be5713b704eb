import NebulaRpc.Net.BufferMemory
import NebulaRpc.Rpc.RoundTrip

/-!
# The codec in memory

The encoder of messages with every write checked against the string that it has allocated, and the
decoder with every read, every view and every subtraction of lengths checked. Neither check ever
fails. The two encoders agree, and the decoder accepts the frames of a grammar over raw bytes.
-/

namespace NebulaRpc.Rpc

open NebulaRpc.Net

variable {F : MetaFormat} {wire : RpcMeta → List UInt8}

/-! ## Encoding -/

/-- The documented behaviour of a message with this serialisation. -/
structure MessageLite.Serializes (payload : MessageLite) (bytes : List UInt8) : Prop where
  byteSizeLong_eq : payload.byteSizeLong = bytes.length
  serializeWithCachedSizesToArray_eq : bytes.length < 2 ^ 31 →
    payload.serializeWithCachedSizesToArray = bytes

/-- `RpcCodec::EncodeMessage` with checked writes. -/
def encodeMessageChecked (F : MetaFormat) (m : RpcMeta) (payload : MessageLite) :
    Except BufferFault (List UInt8) :=
  if payload.byteSizeLong > uint32Max then return []
  else
    let m := m.setPayloadSize payload.byteSizeLong
    let metaSize := F.byteSizeLong m
    let bodySize := 4 + metaSize + payload.byteSizeLong
    if bodySize > kMaxFrameSize ∨ bodySize > uint32Max then return []
    else do
      let output := List.replicate (4 + bodySize) 0
      let output ← writeAt output 0 (Bytes.word (UInt32.ofNat bodySize))
      let output ← writeAt output 4 (Bytes.word (UInt32.ofNat metaSize))
      let metaBytes := F.serializeWithCachedSizesToArray m
      let output ← writeAt output 8 metaBytes
      let payloadBegin := 8 + metaBytes.length
      let payloadBytes := payload.serializeWithCachedSizesToArray
      let output ← writeAt output payloadBegin payloadBytes
      if payloadBegin + payloadBytes.length ≠ 4 + bodySize then return [] else return output

theorem writeAt_eq {buffer data : List UInt8} {pos : Nat} (h : pos + data.length ≤ buffer.length) :
    writeAt buffer pos data = .ok (Bytes.overwrite buffer pos data) := if_pos h

/-- The four writes of a frame stay within a string of its size. -/
theorem writeAt_frame (v w : UInt32) (metaBytes payload : List UInt8) :
    (do
      let output ← writeAt (List.replicate (4 + (4 + metaBytes.length + payload.length)) 0) 0
        (Bytes.word v)
      let output ← writeAt output 4 (Bytes.word w)
      let output ← writeAt output 8 metaBytes
      writeAt output (8 + metaBytes.length) payload) =
      .ok (Bytes.word v ++ (Bytes.word w ++ (metaBytes ++ payload))) := by
  have hframe := overwrite_frame v w metaBytes payload
  generalize hbuffer : List.replicate (4 + (4 + metaBytes.length + payload.length)) (0 : UInt8) =
    buffer at hframe ⊢
  have hlength : buffer.length = 8 + metaBytes.length + payload.length := by
    rw [← hbuffer, List.length_replicate]
    omega
  have h₁ : 0 + (Bytes.word v).length ≤ buffer.length := by
    rw [Bytes.length_word]
    omega
  have hlength₁ := Bytes.length_overwrite h₁
  have h₂ : 4 + (Bytes.word w).length ≤ (Bytes.overwrite buffer 0 (Bytes.word v)).length := by
    rw [Bytes.length_word]
    omega
  have hlength₂ := Bytes.length_overwrite h₂
  have h₃ : 8 + metaBytes.length ≤ (Bytes.overwrite (Bytes.overwrite buffer 0 (Bytes.word v)) 4
      (Bytes.word w)).length := by
    omega
  have hlength₃ := Bytes.length_overwrite h₃
  simp only [writeAt_eq h₁, writeAt_eq h₂, writeAt_eq h₃, bind, Except.bind]
  rw [writeAt_eq (by omega), hframe]

/-- Both encoders emit the same bytes, or both give up, and no write is outside. -/
theorem encodeMessage_eq_encode (hF : F.Serializes wire) {payload : MessageLite}
    {bytes : List UInt8} (hpayload : payload.Serializes bytes) (m : RpcMeta) :
    encodeMessageChecked F m payload = .ok (encode F m bytes) ∧
      encodeMessage F m payload = encode F m bytes := by
  rw [encode_eq hF]
  unfold encodeMessageChecked encodeMessage
  rw [hpayload.byteSizeLong_eq]
  dsimp only
  have hbody : 4 + F.byteSizeLong (m.setPayloadSize bytes.length) + bytes.length =
      bodySize wire m bytes := by rw [hF.byteSizeLong_eq, bodySize]
  have hmax : kMaxFrameSize < 2 ^ 31 := by decide
  have huint : uint32Max = 2 ^ 32 - 1 := rfl
  have hle : (wire (m.setPayloadSize bytes.length)).length + bytes.length ≤
      bodySize wire m bytes := by
    unfold bodySize
    omega
  rw [hbody]
  by_cases hbig : bodySize wire m bytes > kMaxFrameSize
  · have hor : bodySize wire m bytes > kMaxFrameSize ∨ bodySize wire m bytes > uint32Max := .inl hbig
    simp only [if_pos hbig, if_pos hor]
    split
    · exact ⟨rfl, rfl⟩
    · exact ⟨rfl, rfl⟩
  · have hpay : ¬bytes.length > uint32Max := by omega
    have hor : ¬(bodySize wire m bytes > kMaxFrameSize ∨ bodySize wire m bytes > uint32Max) := by
      omega
    simp only [if_neg hbig, if_neg hpay, if_neg hor]
    rw [hF.byteSizeLong_eq, hF.serializeWithCachedSizesToArray_eq _ (by omega),
      hpayload.serializeWithCachedSizesToArray_eq (by omega)]
    have hend : ¬8 + (wire (m.setPayloadSize bytes.length)).length + bytes.length ≠
        4 + bodySize wire m bytes := by
      unfold bodySize
      omega
    have hwrites := writeAt_frame (UInt32.ofNat (bodySize wire m bytes))
      (UInt32.ofNat (wire (m.setPayloadSize bytes.length)).length)
      (wire (m.setPayloadSize bytes.length)) bytes
    simp only [if_neg hend, bind_pure]
    exact ⟨hwrites, overwrite_frame _ _ _ _⟩

/-- A message of three octets. -/
def sampleMessage : MessageLite where
  byteSizeLong := 3
  serializeWithCachedSizesToArray := [1, 2, 3]
  serializeToString := some [1, 2, 3]

theorem encodeMessage_eq_encode_sampleError :
    encodeMessageChecked wireFormat sampleError sampleMessage =
        .ok (encode wireFormat sampleError [1, 2, 3]) ∧
      encodeMessage wireFormat sampleError sampleMessage = encode wireFormat sampleError [1, 2, 3] :=
  encodeMessage_eq_encode wireFormat_lawful.serializes ⟨rfl, fun _ => rfl⟩ sampleError

/-! ## Decoding -/

/-- Why the decoder would not return. -/
inductive DecodeFault where
  | outOfBounds
  | underflow
  deriving DecidableEq

/-- `memcpy` of a word at the beginning of a view. -/
def readWord (view : List UInt8) : Except DecodeFault UInt32 :=
  if 4 ≤ view.length then .ok (Bytes.ofWord view) else .error .outOfBounds

/-- `std::string_view(data + pos, len)` with `data` at the beginning of `bytes`. -/
def viewAt (bytes : List UInt8) (pos len : Nat) : Except DecodeFault (List UInt8) :=
  if pos + len ≤ bytes.length then .ok ((bytes.drop pos).take len) else .error .outOfBounds

/-- `std::string_view::substr`. -/
def substr (view : List UInt8) (pos : Nat) (len : Option Nat) : Except DecodeFault (List UInt8) :=
  if pos ≤ view.length then .ok ((view.drop pos).take (len.getD (view.length - pos)))
  else .error .outOfBounds

/-- A difference of lengths that must not wrap. -/
def lengthSub (m n : Nat) : Except DecodeFault Nat :=
  if n ≤ m then .ok (m - n) else .error .underflow

/-- `RpcCodec::DecodeBody` with checks. -/
def decodeBodyChecked (F : MetaFormat) (body : List UInt8) (frame : RpcFrame) (error : String) :
    Except DecodeFault (Bool × RpcFrame × String) :=
  if body.length < 4 then return (false, frame, "RPC frame body is too small")
  else do
    let metaSize := (← readWord body).toNat
    if metaSize > (← lengthSub body.length 4) then
      return (false, frame, "RPC meta size exceeds frame body")
    else
      let metaBytes ← substr body 4 (some metaSize)
      let payload ← substr body (4 + metaSize) none
      match F.parseFromArray metaBytes with
      | none => return (false, frame, "failed to parse RPC meta")
      | some m =>
        if m.payloadSize.toNat ≠ payload.length then
          return (false, frame, "RPC payload size mismatch")
        else return (true, { frame with rpcMeta := m, payload := payload }, error)

/-- `RpcCodec::Decode` with checks: only the readable bytes may be read. The buffer is handed over
and given back. -/
def decodeChecked (F : MetaFormat) (frame : RpcFrame) (error : String) :
    StateT Buffer (Except DecodeFault) (DecodeResult × RpcFrame × String) := do
  let buffer ← get
  if buffer.readableBytes < 4 then return (.needMore, frame, error)
  else
    let frameSize := (← readWord buffer.readable).toNat
    if frameSize < 4 ∨ frameSize > kMaxFrameSize then
      return (.error, frame, "invalid RPC frame size")
    else
      let totalSize := 4 + frameSize
      if buffer.readableBytes < totalSize then return (.needMore, frame, error)
      else
        let body ← viewAt buffer.readable 4 frameSize
        match ← decodeBodyChecked F body frame error with
        | (false, frame, error) => return (.error, frame, error)
        | (true, frame, error) => return (.ok, { frame with wireSize := totalSize }, error)

theorem decodeBodyChecked_eq (F : MetaFormat) (body : List UInt8) (frame : RpcFrame)
    (error : String) : decodeBodyChecked F body frame error = .ok (decodeBody F body frame error) := by
  unfold decodeBodyChecked decodeBody
  split
  · rfl
  next hbody =>
  have hword : readWord body = .ok (Bytes.ofWord body) := if_pos (by omega)
  have hsub : lengthSub body.length 4 = .ok (body.length - 4) := if_pos (by omega)
  simp only [hword, hsub, bind, Except.bind]
  split
  · rfl
  next hmeta =>
  have hmetaBytes : substr body 4 (some (Bytes.ofWord body).toNat) =
      .ok ((body.drop 4).take (Bytes.ofWord body).toNat) := if_pos (by omega)
  have hpayload : substr body (4 + (Bytes.ofWord body).toNat) none =
      .ok (body.drop (4 + (Bytes.ofWord body).toNat)) := by
    rw [substr, if_pos (by omega), Option.getD_none, List.take_of_length_le (by simp)]
  simp only [hmetaBytes, hpayload]
  cases F.parseFromArray ((body.drop 4).take (Bytes.ofWord body).toNat) with
  | none => rfl
  | some m =>
    dsimp only
    split <;> rfl

theorem liftM_ok {α : Type} (x : α) :
    (liftM (Except.ok x : Except DecodeFault α) : StateT Buffer (Except DecodeFault) α) = pure x :=
  rfl

/-- No check fails, and the buffer stays as it is. -/
theorem decodeChecked_eq (F : MetaFormat) (b : Buffer) (frame : RpcFrame) (error : String) :
    (decodeChecked F frame error).run b = .ok (decode F b frame error, b) := by
  have hlength := Buffer.length_readable b
  unfold decodeChecked decode
  simp only [StateT.run_bind, StateT.run_get, pure_bind]
  by_cases hfour : b.readableBytes < 4
  · simp only [if_pos hfour]
    rfl
  have hword : readWord b.readable = .ok (Bytes.ofWord b.readable) := if_pos (by omega)
  rw [if_neg hfour, if_neg hfour, Buffer.peekUInt32_eq b (by omega), hword, liftM_ok, pure_bind]
  split
  · rfl
  split
  · rfl
  next hcomplete =>
  have hbody : viewAt b.readable 4 (Bytes.ofWord b.readable).toNat =
      .ok ((b.peek.drop 4).take (Bytes.ofWord b.readable).toNat) := by
    rw [viewAt, if_pos (by omega)]
    generalize (Bytes.ofWord b.readable).toNat = size at hcomplete ⊢
    rw [Buffer.readable, List.drop_take, List.take_take, Nat.min_eq_left (by omega)]
  rw [hbody, liftM_ok, pure_bind, decodeBodyChecked_eq, liftM_ok, pure_bind]
  generalize decodeBody F _ frame error = result
  obtain ⟨_ | _, frame', error'⟩ := result
  · rfl
  · rfl

/-! ## The grammar -/

/-- The size that a frame at the beginning of the bytes announces. -/
def frameSize (bytes : List UInt8) : Nat := (Bytes.ofWord bytes).toNat

def metaSize (bytes : List UInt8) : Nat := (Bytes.ofWord (bytes.drop 4)).toNat

/-- The announced size can be that of a frame. -/
def InRange (bytes : List UInt8) : Prop := 4 ≤ frameSize bytes ∧ frameSize bytes ≤ kMaxFrameSize

/-- The bytes begin with a frame that has this meta. -/
structure StartsWithFrame (F : MetaFormat) (bytes : List UInt8) (m : RpcMeta) : Prop where
  range : InRange bytes
  complete : 4 + frameSize bytes ≤ bytes.length
  meta_le : metaSize bytes ≤ frameSize bytes - 4
  parses : F.parseFromArray ((bytes.drop 8).take (metaSize bytes)) = some m
  payload : m.payloadSize.toNat = frameSize bytes - 4 - metaSize bytes

/-- More bytes are needed to tell. -/
def Incomplete (bytes : List UInt8) : Prop :=
  bytes.length < 4 ∨ InRange bytes ∧ bytes.length < 4 + frameSize bytes

/-- The payload of the frame at the beginning of the bytes. -/
def framePayload (bytes : List UInt8) : List UInt8 :=
  (bytes.drop (8 + metaSize bytes)).take (frameSize bytes - 4 - metaSize bytes)

variable {bytes : List UInt8}

/-- The body of a complete frame. -/
theorem parseBody_frame (F : MetaFormat) (hrange : InRange bytes)
    (hcomplete : 4 + frameSize bytes ≤ bytes.length) :
    parseBody F ((bytes.drop 4).take (frameSize bytes)) =
      if metaSize bytes > frameSize bytes - 4 then .error "RPC meta size exceeds frame body"
      else
        match F.parseFromArray ((bytes.drop 8).take (metaSize bytes)) with
        | none => .error "failed to parse RPC meta"
        | some m =>
          if m.payloadSize.toNat ≠ frameSize bytes - 4 - metaSize bytes then
            .error "RPC payload size mismatch"
          else .ok (m, framePayload bytes) := by
  obtain ⟨hfour, -⟩ := hrange
  have hlength : ((bytes.drop 4).take (frameSize bytes)).length = frameSize bytes := by
    simp only [List.length_take, List.length_drop]
    omega
  have hword : (Bytes.ofWord ((bytes.drop 4).take (frameSize bytes))).toNat = metaSize bytes := by
    rw [Bytes.ofWord_take hfour (by simp only [List.length_drop]; omega)]
    rfl
  unfold parseBody
  rw [hlength, hword, if_neg (by omega)]
  split
  · rfl
  next hmeta =>
  have hmetaBytes : (((bytes.drop 4).take (frameSize bytes)).drop 4).take (metaSize bytes) =
      (bytes.drop 8).take (metaSize bytes) := by
    rw [List.drop_take, List.drop_drop, List.take_take, Nat.min_eq_left (by omega)]
  have hpayload : ((bytes.drop 4).take (frameSize bytes)).drop (4 + metaSize bytes) =
      framePayload bytes := by
    rw [List.drop_take, List.drop_drop, framePayload, ← Nat.add_assoc, Nat.sub_sub]
  have hsize : (framePayload bytes).length = frameSize bytes - 4 - metaSize bytes := by
    simp only [framePayload, List.length_take, List.length_drop]
    omega
  rewrite [hmetaBytes, hpayload, hsize]
  rfl

/-- The verdict on the bytes is that of the grammar. -/
inductive Judged (F : MetaFormat) (bytes : List UInt8) : Framing.Verdict String RpcFrame → Prop
  | more (h : Incomplete bytes) : Judged F bytes .more
  | bad (error : String) (hcomplete : ¬Incomplete bytes) (h : ∀ m, ¬StartsWithFrame F bytes m) :
      Judged F bytes (.bad error)
  | ok {m : RpcMeta} (h : StartsWithFrame F bytes m) :
      Judged F bytes (.ok ⟨m, framePayload bytes, 4 + frameSize bytes⟩ (4 + frameSize bytes))

theorem judged_parseFrame (F : MetaFormat) (bytes : List UInt8) :
    Judged F bytes (parseFrame F bytes) := by
  unfold parseFrame
  change Judged F bytes (if bytes.length < 4 then _ else
    if frameSize bytes < 4 ∨ frameSize bytes > kMaxFrameSize then _ else
    if bytes.length < 4 + frameSize bytes then _ else _)
  split
  · next hshort => exact .more (.inl hshort)
  next hfour =>
  split
  · next hout =>
    refine .bad _ ?_ fun m h => ?_
    · rintro (hshort | ⟨hrange, -⟩)
      · exact hfour hshort
      · unfold InRange at hrange
        omega
    · have hrange := h.range
      unfold InRange at hrange
      omega
  next hin =>
  have hrange : InRange bytes := by
    unfold InRange
    omega
  split
  · next hshort => exact .more (.inr ⟨hrange, hshort⟩)
  next hcomplete =>
  have hcomplete' : ¬Incomplete bytes := by
    rintro (hshort | ⟨-, hshort⟩)
    · exact hfour hshort
    · exact hcomplete hshort
  rw [show parseBody F ((bytes.drop 4).take (Bytes.ofWord bytes).toNat) = _ from
    parseBody_frame F hrange (by omega)]
  by_cases hmeta : metaSize bytes > frameSize bytes - 4
  · rw [if_pos hmeta]
    exact .bad _ hcomplete' fun m h => absurd h.meta_le (by omega)
  rw [if_neg hmeta]
  cases hparse : F.parseFromArray ((bytes.drop 8).take (metaSize bytes)) with
  | none => exact .bad _ hcomplete' fun m h => absurd (hparse.symm.trans h.parses) (by simp)
  | some m =>
    by_cases hpayload : m.payloadSize.toNat ≠ frameSize bytes - 4 - metaSize bytes
    · simp only [if_pos hpayload]
      refine .bad _ hcomplete' fun m' h => hpayload ?_
      obtain rfl : m = m' := Option.some.inj (hparse.symm.trans h.parses)
      exact h.payload
    · simp only [if_neg hpayload]
      exact .ok ⟨hrange, by omega, by omega, hparse, not_not.mp hpayload⟩

/-! ## The decoder -/

theorem Incomplete.not_startsWithFrame {m : RpcMeta} (h : Incomplete bytes) :
    ¬StartsWithFrame F bytes m := by
  intro hframe
  have hcomplete := hframe.complete
  have hrange := hframe.range
  unfold Incomplete InRange at *
  omega

/-- `Decode` on a buffer with these readable bytes. -/
structure DecodesByGrammar (F : MetaFormat) (b : Buffer) (frame : RpcFrame) (error : String) :
    Prop where
  /-- no read is outside, no difference of lengths wraps, and the buffer stays -/
  checked : (decodeChecked F frame error).run b = .ok (decode F b frame error, b)
  ok : (decode F b frame error).1 = .ok ↔ ∃ m, StartsWithFrame F b.readable m
  needMore : (decode F b frame error).1 = .needMore ↔ Incomplete b.readable
  bad : (decode F b frame error).1 = .error ↔
    ¬Incomplete b.readable ∧ ∀ m, ¬StartsWithFrame F b.readable m
  /-- the frame is written on success only -/
  written : ∀ m, StartsWithFrame F b.readable m →
    decode F b frame error = (.ok, ⟨m, framePayload b.readable, 4 + frameSize b.readable⟩, error)
  kept : (decode F b frame error).1 ≠ .ok → (decode F b frame error).2.1 = frame
  stable : (decode F b frame error).1 ≠ .needMore → ∀ (b' : Buffer) (rest : List UInt8),
    b'.readable = b.readable ++ rest → decode F b' frame error = decode F b frame error

theorem StartsWithFrame.unique {m m' : RpcMeta} (h : StartsWithFrame F bytes m)
    (h' : StartsWithFrame F bytes m') : m = m' := Option.some.inj (h.parses.symm.trans h'.parses)

/-- `Decode` accepts exactly the frames, and its verdict does not change when bytes are appended. -/
theorem decode_grammar (F : MetaFormat) (b : Buffer) (frame : RpcFrame) (error : String) :
    DecodesByGrammar F b frame error := by
  have hdecode := decode_eq F b frame error
  have hjudged := judged_parseFrame F b.readable
  have hchecked := decodeChecked_eq F b frame error
  have hstable : ∀ {v}, parseFrame F b.readable = v → ∀ (b' : Buffer),
      parseFrame F b'.readable = v → decode F b' frame error = decode F b frame error := by
    intro v hv b' hv'
    rw [decode_eq, decode_eq, hv, hv']
  generalize hverdict : parseFrame F b.readable = verdict at hdecode hjudged
  cases hjudged with
  | more hmore =>
    refine ⟨hchecked, ?_, ?_, ?_, fun m h => absurd h hmore.not_startsWithFrame, ?_, ?_⟩
    · rw [hdecode]
      exact ⟨nofun, fun ⟨m, h⟩ => absurd h hmore.not_startsWithFrame⟩
    · rw [hdecode]
      exact ⟨fun _ => hmore, fun _ => rfl⟩
    · rw [hdecode]
      exact ⟨nofun, fun h => absurd hmore h.1⟩
    · rw [hdecode]
      exact fun _ => rfl
    · rw [hdecode]
      exact fun hne => absurd rfl hne
  | bad text hcomplete hnone =>
    refine ⟨hchecked, ?_, ?_, ?_, fun m h => absurd h (hnone m), ?_, fun _ b' rest hb' => ?_⟩
    · rw [hdecode]
      exact ⟨nofun, fun ⟨m, h⟩ => absurd h (hnone m)⟩
    · rw [hdecode]
      exact ⟨nofun, fun h => absurd h hcomplete⟩
    · rw [hdecode]
      exact ⟨fun _ => ⟨hcomplete, hnone⟩, fun _ => rfl⟩
    · rw [hdecode]
      exact fun _ => rfl
    · exact hstable hverdict b' (hb' ▸ (framer F).bad_append rest hverdict)
  | @ok m hframe =>
    refine ⟨hchecked, ?_, ?_, ?_, fun m' h => ?_, ?_, fun _ b' rest hb' => ?_⟩
    · rw [hdecode]
      exact ⟨fun _ => ⟨m, hframe⟩, fun _ => rfl⟩
    · rw [hdecode]
      exact ⟨nofun, fun h => absurd hframe h.not_startsWithFrame⟩
    · rw [hdecode]
      exact ⟨nofun, fun h => absurd hframe (h.2 m)⟩
    · obtain rfl := hframe.unique h
      rw [hdecode]
    · rw [hdecode]
      exact fun hne => absurd rfl hne
    · exact hstable hverdict b' (hb' ▸ (framer F).ok_append rest hverdict)

end NebulaRpc.Rpc
