import NebulaRpc.Rpc.WireFormat

/-!
# Decoding undoes encoding

Whatever the encoder emits is one complete frame of the decoder's grammar, also at the size limit,
and the decoder gives back the meta and the payload it was made from.
-/

namespace NebulaRpc.Rpc

open NebulaRpc.Net

variable {F : MetaFormat} {wire : RpcMeta → List UInt8}

/-- What the encoders rely on. -/
structure MetaFormat.Serializes (F : MetaFormat) (wire : RpcMeta → List UInt8) : Prop where
  byteSizeLong_eq : ∀ m, F.byteSizeLong m = (wire m).length
  appendToString_eq : ∀ m output, (wire m).length < 2 ^ 31 →
    F.appendToString m output = some (output ++ wire m)
  serializeWithCachedSizesToArray_eq : ∀ m, (wire m).length < 2 ^ 31 →
    F.serializeWithCachedSizesToArray m = wire m

theorem MetaFormat.Lawful.serializes (hF : F.Lawful wire) : F.Serializes wire :=
  ⟨hF.byteSizeLong_eq, hF.appendToString_eq, hF.serializeWithCachedSizesToArray_eq⟩

/-- The size that `frame_size` announces. -/
def bodySize (wire : RpcMeta → List UInt8) (m : RpcMeta) (payload : List UInt8) : Nat :=
  4 + (wire (m.setPayloadSize payload.length)).length + payload.length

/-- The octets of one frame. -/
def frameBytes (wire : RpcMeta → List UInt8) (m : RpcMeta) (payload : List UInt8) : List UInt8 :=
  Bytes.word (UInt32.ofNat (bodySize wire m payload)) ++
    (Bytes.word (UInt32.ofNat (wire (m.setPayloadSize payload.length)).length) ++
      (wire (m.setPayloadSize payload.length) ++ payload))

theorem length_frameBytes (wire : RpcMeta → List UInt8) (m : RpcMeta) (payload : List UInt8) :
    (frameBytes wire m payload).length = 4 + bodySize wire m payload := by
  simp only [frameBytes, bodySize, List.length_append, Bytes.length_word]
  omega

/-- The encoder emits one frame, or nothing when the frame would be too large. -/
theorem encode_eq (hF : F.Serializes wire) (m : RpcMeta) (payload : List UInt8) :
    encode F m payload =
      if bodySize wire m payload > kMaxFrameSize then [] else frameBytes wire m payload := by
  unfold encode
  have hsize : 4 + F.byteSizeLong (m.setPayloadSize payload.length) + payload.length =
      bodySize wire m payload := by rw [hF.byteSizeLong_eq, bodySize]
  by_cases hbig : bodySize wire m payload > kMaxFrameSize
  · rw [if_pos hbig]
    dsimp only
    rw [hsize, if_pos (Or.inl hbig)]
    split <;> rfl
  · have hle : payload.length ≤ bodySize wire m payload := by unfold bodySize; omega
    have hmeta : (wire (m.setPayloadSize payload.length)).length ≤ bodySize wire m payload := by
      unfold bodySize; omega
    have hmax : kMaxFrameSize < 2 ^ 31 := by decide
    have hu : uint32Max = 2 ^ 32 - 1 := rfl
    rw [if_neg hbig, if_neg (by omega)]
    dsimp only
    rw [hsize, if_neg (by omega), hF.appendToString_eq _ _ (by omega), hF.byteSizeLong_eq]
    simp only [frameBytes, List.append_assoc]

/-- A frame is never the empty string that reports failure. -/
theorem frameBytes_ne_nil (wire : RpcMeta → List UInt8) (m : RpcMeta) (payload : List UInt8) :
    frameBytes wire m payload ≠ [] := by
  intro h
  have hlen := length_frameBytes wire m payload
  rw [h, List.length_nil] at hlen
  omega

theorem encode_eq_nil_iff (hF : F.Lawful wire) (m : RpcMeta) (payload : List UInt8) :
    encode F m payload = [] ↔ bodySize wire m payload > kMaxFrameSize := by
  rw [encode_eq hF.serializes]
  split
  · next h => simp [h]
  · next h => simp [h, frameBytes_ne_nil]

/-- Four writes that fill four windows of a string, from its begin to its end. -/
theorem overwrite_frame (v w : UInt32) (metaBytes payload : List UInt8) :
    Bytes.overwrite (Bytes.overwrite (Bytes.overwrite (Bytes.overwrite
      (List.replicate (4 + (4 + metaBytes.length + payload.length)) 0) 0 (Bytes.word v)) 4
        (Bytes.word w)) 8 metaBytes) (8 + metaBytes.length) payload =
      Bytes.word v ++ (Bytes.word w ++ (metaBytes ++ payload)) := by
  have hwindows : List.replicate (4 + (4 + metaBytes.length + payload.length)) (0 : UInt8) =
      [] ++ (List.replicate 4 0 ++ (List.replicate 4 0 ++
        (List.replicate metaBytes.length 0 ++ (List.replicate payload.length 0 ++ [])))) := by
    simp only [List.nil_append, List.append_nil, ← List.replicate_add, Nat.add_assoc]
  have hword : ∀ v, (List.replicate 4 (0 : UInt8)).length = (Bytes.word v).length := by
    intro v
    rw [List.length_replicate, Bytes.length_word]
  have hbegin : ∀ v w, (([] ++ Bytes.word v ++ Bytes.word w) : List UInt8).length = 8 := by
    intro v w
    rw [List.nil_append, List.length_append, Bytes.length_word, Bytes.length_word]
  rw [hwindows, Bytes.overwrite_append List.length_nil (hword _),
    Bytes.overwrite_append (by simp [Bytes.length_word]) (hword _),
    Bytes.overwrite_append (hbegin _ _) (by simp),
    Bytes.overwrite_append (by rw [List.length_append, hbegin]) (by simp)]
  simp only [List.nil_append, List.append_nil, List.append_assoc]

/-- `EncodeMessage` emits one frame too, or nothing. -/
theorem encodeMessage_eq (hF : F.Lawful wire) {m : RpcMeta} {payload : MessageLite}
    (hne : encodeMessage F m payload ≠ []) :
    encodeMessage F m payload = frameBytes wire m payload.serializeWithCachedSizesToArray ∧
      ¬ bodySize wire m payload.serializeWithCachedSizesToArray > kMaxFrameSize := by
  set bytes := payload.serializeWithCachedSizesToArray with hbytes
  unfold encodeMessage at hne ⊢
  split at hne
  · exact absurd rfl hne
  next hpayload =>
  simp only [if_neg hpayload] at hne ⊢
  split at hne
  · exact absurd rfl hne
  next hsize =>
  simp only [if_neg hsize] at hne ⊢
  rw [not_or, hF.byteSizeLong_eq] at hsize
  have hmax : kMaxFrameSize < 2 ^ 31 := by decide
  have hmeta := hF.serializeWithCachedSizesToArray_eq (m.setPayloadSize payload.byteSizeLong)
    (by omega)
  rw [hmeta, hF.byteSizeLong_eq, ← hbytes] at hne ⊢
  split at hne
  · exact absurd rfl hne
  next hend =>
  rw [if_neg hend]
  have hlength : payload.byteSizeLong = bytes.length := by omega
  rw [hlength] at hsize ⊢
  refine ⟨?_, by rw [bodySize]; omega⟩
  rw [overwrite_frame]
  rfl

/-- The body of a frame is worth what its meta is worth. -/
theorem parseBody_eq (F : MetaFormat) {m : RpcMeta} {payload : List UInt8}
    (hsize : ¬ bodySize wire m payload > kMaxFrameSize) :
    parseBody F (Bytes.word (UInt32.ofNat (wire (m.setPayloadSize payload.length)).length) ++
      (wire (m.setPayloadSize payload.length) ++ payload)) =
      match F.parseFromArray (wire (m.setPayloadSize payload.length)) with
      | none => .error "failed to parse RPC meta"
      | some m => if m.payloadSize.toNat ≠ payload.length then .error "RPC payload size mismatch"
        else .ok (m, payload) := by
  have hmax : kMaxFrameSize < 2 ^ 31 := by decide
  have hbody : bodySize wire m payload =
    4 + (wire (m.setPayloadSize payload.length)).length + payload.length := rfl
  set m' := m.setPayloadSize payload.length
  have hword : (UInt32.ofNat (wire m').length).toNat = (wire m').length := by
    rw [UInt32.toNat_ofNat']; omega
  have hdrop : (Bytes.word (UInt32.ofNat (wire m').length) ++ (wire m' ++ payload)).drop
      (4 + (wire m').length) = payload := by
    rw [← List.drop_drop, List.drop_left' (Bytes.length_word _), List.drop_left' rfl]
  unfold parseBody
  rw [Bytes.ofWord_word_append, hword, if_neg (by simp)]
  rewrite [if_neg (by simp), List.drop_left' (Bytes.length_word _), List.take_left' rfl, hdrop]
  rfl

/-- Decoding a frame that is followed by arbitrary bytes. -/
theorem parseFrame_eq (F : MetaFormat) {m : RpcMeta} {payload : List UInt8}
    (hsize : ¬ bodySize wire m payload > kMaxFrameSize) (rest : List UInt8) :
    parseFrame F (frameBytes wire m payload ++ rest) =
      match F.parseFromArray (wire (m.setPayloadSize payload.length)) with
      | none => .bad "failed to parse RPC meta"
      | some m' => if m'.payloadSize.toNat ≠ payload.length then .bad "RPC payload size mismatch"
        else .ok ⟨m', payload, 4 + bodySize wire m payload⟩ (4 + bodySize wire m payload) := by
  have hmax : kMaxFrameSize < 2 ^ 31 := by decide
  have hlen := length_frameBytes wire m payload
  have hfour : 4 ≤ bodySize wire m payload := by unfold bodySize; omega
  have hword : (Bytes.ofWord (frameBytes wire m payload ++ rest)).toNat =
      bodySize wire m payload := by
    rw [frameBytes, List.append_assoc, Bytes.ofWord_word_append, UInt32.toNat_ofNat']
    omega
  have hbody : ((frameBytes wire m payload ++ rest).drop 4).take (bodySize wire m payload) =
      Bytes.word (UInt32.ofNat (wire (m.setPayloadSize payload.length)).length) ++
        (wire (m.setPayloadSize payload.length) ++ payload) := by
    rw [frameBytes, List.append_assoc, List.drop_left' (Bytes.length_word _),
      List.take_left' (by simp [bodySize]; omega)]
  unfold parseFrame
  rw [hword, List.length_append, hlen, if_neg (by omega), if_neg (by omega), if_neg (by omega),
    hbody, parseBody_eq F hsize]
  cases F.parseFromArray (wire (m.setPayloadSize payload.length)) with
  | none => rfl
  | some m' =>
    by_cases h : m'.payloadSize.toNat ≠ payload.length
    · simp only [if_pos h]
    · simp only [if_neg h]

/-- A frame parses to what it was made from. -/
theorem parseFrame_frameBytes (hF : F.Lawful wire) {m : RpcMeta} {payload : List UInt8}
    (htext : ValidUtf8 m.errorText) (hsize : ¬ bodySize wire m payload > kMaxFrameSize)
    (rest : List UInt8) :
    parseFrame F (frameBytes wire m payload ++ rest) =
      .ok ⟨m.setPayloadSize payload.length, payload, 4 + bodySize wire m payload⟩
        (4 + bodySize wire m payload) := by
  have hmax : kMaxFrameSize < 2 ^ 31 := by decide
  have hbody : bodySize wire m payload =
    4 + (wire (m.setPayloadSize payload.length)).length + payload.length := rfl
  have hparse : F.parseFromArray (wire (m.setPayloadSize payload.length)) =
      some (m.setPayloadSize payload.length) :=
    hF.parseFromArray_wire _ (by omega) htext
  have hpay : (m.setPayloadSize payload.length).payloadSize.toNat = payload.length := by
    rw [RpcMeta.setPayloadSize, UInt32.toNat_ofNat']; omega
  rw [parseFrame_eq F hsize, hparse]
  exact if_neg (not_not.mpr hpay)

/-- A frame whose text is not UTF-8 is not accepted. -/
theorem parseFrame_frameBytes_of_invalid (hF : F.RejectsInvalidUtf8 wire) {m : RpcMeta}
    {payload : List UInt8} (htext : ¬ ValidUtf8 m.errorText)
    (hsize : ¬ bodySize wire m payload > kMaxFrameSize) (rest : List UInt8) :
    parseFrame F (frameBytes wire m payload ++ rest) = .bad "failed to parse RPC meta" := by
  have hmax : kMaxFrameSize < 2 ^ 31 := by decide
  have hbody : bodySize wire m payload =
    4 + (wire (m.setPayloadSize payload.length)).length + payload.length := rfl
  have hparse : F.parseFromArray (wire (m.setPayloadSize payload.length)) = none :=
    hF _ (by omega) htext
  rw [parseFrame_eq F hsize, hparse]

/-- **Round trip.** An encoded frame, followed by anything, is decoded to the meta with its
payload size set and to the payload; consuming its wire size leaves what follows. The encoder
gives up exactly on the frames whose size is over the limit. -/
theorem decode_encode (hF : F.Lawful wire) (m : RpcMeta) (payload : List UInt8) :
    (encode F m payload = [] ↔
      4 + (wire (m.setPayloadSize payload.length)).length + payload.length > kMaxFrameSize) ∧
    (ValidUtf8 m.errorText → encode F m payload ≠ [] →
      ∀ (b : Buffer) (rest : List UInt8) (frame : RpcFrame) (error : String),
        b.readable = encode F m payload ++ rest →
        decode F b frame error =
          (.ok, ⟨m.setPayloadSize payload.length, payload, (encode F m payload).length⟩, error) ∧
        (b.retrieve (encode F m payload).length).readable = rest) := by
  refine ⟨encode_eq_nil_iff hF m payload, ?_⟩
  intro htext hne b rest frame error hb
  have hsize : ¬ bodySize wire m payload > kMaxFrameSize := by
    rwa [ne_eq, encode_eq_nil_iff hF] at hne
  have henc : encode F m payload = frameBytes wire m payload := by
    rw [encode_eq hF.serializes, if_neg hsize]
  rw [henc] at hb ⊢
  constructor
  · rw [decode_eq, hb, parseFrame_frameBytes hF htext hsize, length_frameBytes]
  · rw [Buffer.readable_retrieve, hb, List.drop_left' rfl]

/-- An error frame of the echo service, as the server would send it. -/
def sampleError : RpcMeta where
  type := .error
  requestId := 300
  errorCode := -2
  errorText := [98, 111, 111, 109]
  traceId := 77

theorem decode_encode_sampleError :
    decode wireFormat ((Buffer.new 16).append (encode wireFormat sampleError [1, 2, 3] ++ [9])) {} ""
      = (.ok, ⟨sampleError.setPayloadSize 3, [1, 2, 3], 44⟩, "") := by
  have hne : encode wireFormat sampleError [1, 2, 3] ≠ [] := by decide
  have htext : ValidUtf8 sampleError.errorText := ⟨['b', 'o', 'o', 'm'], rfl⟩
  have hlen : (encode wireFormat sampleError [1, 2, 3]).length = 44 := by decide
  have h := ((decode_encode wireFormat_lawful sampleError [1, 2, 3]).2 htext hne
    ((Buffer.new 16).append (encode wireFormat sampleError [1, 2, 3] ++ [9])) [9] {} ""
    (by simp)).1
  rw [hlen] at h
  exact h

end NebulaRpc.Rpc
