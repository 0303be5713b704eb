import NebulaRpc.Library.ProtoWire
import NebulaRpc.Rpc.Codec

/-!
# RpcMeta on the wire

The proto3 encoding of `RpcMeta`: fields in the order of their numbers, default values left out,
negative `int32` values sign-extended to ten-octet varints. It is an instance of `MetaFormat`, and
`wireFormat_lawful` shows that it behaves as the codec assumes.
-/

namespace NebulaRpc.Rpc

open ProtoWire

namespace MessageType

/-- The number of a message type on the wire. -/
def number : MessageType → Int32
  | .request => 0
  | .response => 1
  | .error => 2
  | .heartbeat => 3
  | .unrecognized v => v.val

def ofNumber (n : Int32) : MessageType :=
  if n = 0 then .request
  else if n = 1 then .response
  else if n = 2 then .error
  else if n = 3 then .heartbeat
  else if h : n < 0 ∨ 3 < n then .unrecognized ⟨n, h⟩
  else .request

theorem ofNumber_number (t : MessageType) : ofNumber t.number = t := by
  cases t with
  | unrecognized v =>
    obtain ⟨v, hv⟩ := v
    have h₀ : v ≠ 0 := by rintro rfl; simp at hv
    have h₁ : v ≠ 1 := by rintro rfl; simp at hv
    have h₂ : v ≠ 2 := by rintro rfl; simp at hv
    have h₃ : v ≠ 3 := by rintro rfl; simp at hv
    simp [number, ofNumber, h₀, h₁, h₂, h₃, hv]
  | _ => rfl

end MessageType

/-- An `int32` as the varint of its sign extension. -/
def int32Varint (n : Int32) : Nat := n.toInt64.toUInt64.toNat

/-- The low 32 bits of a varint, as an `int32`. -/
def int32OfVarint (n : Nat) : Int32 := (UInt64.ofNat n).toUInt32.toInt32

theorem int32OfVarint_int32Varint (n : Int32) : int32OfVarint (int32Varint n) = n := by
  unfold int32OfVarint int32Varint
  rw [UInt64.ofNat_toNat]
  apply Int32.toBitVec_inj.mp
  ext i hi
  have h64 : i < 64 := by omega
  simp [BitVec.getElem_signExtend, hi, h64]

/-- A field that is left out when it has its default value. -/
def field (number : Nat) (isDefault : Bool) (value : Value) : List Field :=
  if isDefault then [] else [⟨number, value⟩]

namespace RpcMeta

/-- The fields of a meta that are present on the wire. -/
def fields (m : RpcMeta) : List Field :=
  field 1 (m.type.number = 0) (.varint (int32Varint m.type.number)) ++
  (field 2 (m.requestId = 0) (.varint m.requestId.toNat) ++
  (field 3 (m.serviceName = []) (.bytes m.serviceName) ++
  (field 4 (m.methodIndex = 0) (.varint m.methodIndex.toNat) ++
  (field 5 (m.payloadSize = 0) (.varint m.payloadSize.toNat) ++
  (field 6 (m.errorCode = 0) (.varint (int32Varint m.errorCode)) ++
  (field 7 (m.errorText = []) (.bytes m.errorText) ++
  field 8 (m.traceId = 0) (.fixed64 m.traceId.toNat)))))))

/-- Merge one field into a message. A `string` that is not UTF-8 is an error; a field that was read
and has an unknown number, or another wire type than declared, is skipped. Groups and fixed 32-bit
fields are not read, so `parse` refuses a message that holds one. -/
def merge (m : RpcMeta) (f : Field) : Option RpcMeta :=
  match f with
  | ⟨1, .varint n⟩ => some { m with type := .ofNumber (int32OfVarint n) }
  | ⟨2, .varint n⟩ => some { m with requestId := UInt64.ofNat n }
  | ⟨3, .bytes b⟩ => some { m with serviceName := b }
  | ⟨4, .varint n⟩ => some { m with methodIndex := UInt32.ofNat n }
  | ⟨5, .varint n⟩ => some { m with payloadSize := UInt32.ofNat n }
  | ⟨6, .varint n⟩ => some { m with errorCode := int32OfVarint n }
  | ⟨7, .bytes b⟩ =>
    if (ByteArray.mk b.toArray).validateUTF8 then some { m with errorText := b } else none
  | ⟨8, .fixed64 n⟩ => some { m with traceId := UInt64.ofNat n }
  | _ => some m

def serialize (m : RpcMeta) : List UInt8 := writeFields m.fields

def parse (s : List UInt8) : Option RpcMeta :=
  (readFields s.length s).bind fun fs => fs.foldlM merge {}

theorem foldlM_field (m : RpcMeta) (number : Nat) (isDefault : Bool) (value : Value)
    (rest : List Field) :
    (field number isDefault value ++ rest).foldlM merge m =
      (if isDefault then some m else merge m ⟨number, value⟩).bind fun m' =>
        rest.foldlM merge m' := by
  unfold field
  split <;> simp [List.foldlM_cons]

/-- Merging the fields of a message into an empty one gives the message back. -/
theorem foldlM_fields (m : RpcMeta) (h : ValidUtf8 m.errorText) :
    m.fields.foldlM merge {} = some m := by
  have htext : (ByteArray.mk m.errorText.toArray).validateUTF8 = true :=
    ByteArray.validateUTF8_eq_true_iff.mpr h
  have htype : m.type.number = 0 → m.type = .request := fun h0 => by
    rw [← MessageType.ofNumber_number m.type, h0]; rfl
  -- Each field either is skipped, and then has its default already, or sets its own entry.
  have step : ∀ {c : Bool} {a b d : RpcMeta}, (c = true → a = d) → (c = false → b = d) →
      (if c = true then some a else some b) = some d := by
    intro c a b d h₁ h₂
    cases c
    · simp [h₂]
    · simp [h₁]
  unfold fields
  rw [foldlM_field, merge, step (d := { ({} : RpcMeta) with type := m.type })
    (by intro h0; simp [htype (by simpa using h0)])
    (by intro _; rw [int32OfVarint_int32Varint, MessageType.ofNumber_number]), Option.bind_some,
    foldlM_field, merge, step (d := { ({} : RpcMeta) with
      type := m.type, requestId := m.requestId })
    (by intro h0; simp at h0; simp [h0]) (by intro _; simp), Option.bind_some,
    foldlM_field, merge, step (d := { ({} : RpcMeta) with
      type := m.type, requestId := m.requestId, serviceName := m.serviceName })
    (by intro h0; simp at h0; simp [h0]) (by intro _; simp), Option.bind_some,
    foldlM_field, merge, step (d := { ({} : RpcMeta) with
      type := m.type, requestId := m.requestId, serviceName := m.serviceName,
      methodIndex := m.methodIndex })
    (by intro h0; simp at h0; simp [h0]) (by intro _; simp), Option.bind_some,
    foldlM_field, merge, step (d := { ({} : RpcMeta) with
      type := m.type, requestId := m.requestId, serviceName := m.serviceName,
      methodIndex := m.methodIndex, payloadSize := m.payloadSize })
    (by intro h0; simp at h0; simp [h0]) (by intro _; simp), Option.bind_some,
    foldlM_field, merge, step (d := { ({} : RpcMeta) with
      type := m.type, requestId := m.requestId, serviceName := m.serviceName,
      methodIndex := m.methodIndex, payloadSize := m.payloadSize, errorCode := m.errorCode })
    (by intro h0; simp at h0; simp [h0])
    (by intro _; rw [int32OfVarint_int32Varint]), Option.bind_some,
    foldlM_field, merge, if_pos htext, step (d := { m with traceId := 0 })
    (by intro h0; simp at h0; simp [h0]) (by intro _; simp), Option.bind_some]
  rw [← List.append_nil (field 8 _ _), foldlM_field, merge, step (d := m)
    (by intro h0; simp at h0; rw [← h0]) (by intro _; simp)]
  rfl

theorem mem_field {f : Field} {number : Nat} {isDefault : Bool} {value : Value} :
    f ∈ field number isDefault value ↔ isDefault = false ∧ f = ⟨number, value⟩ := by
  unfold field
  cases isDefault <;> simp

/-- Below the protobuf size limit every field of a meta fits its wire type. -/
theorem fields_valid (m : RpcMeta) (h : m.serialize.length < 2 ^ 31) :
    ∀ f ∈ m.fields, f.Valid := by
  intro f hf
  have hlen : f.write.length ≤ m.serialize.length := length_write_le hf
  have hbytes : ∀ b, f.value = .bytes b → b.length < 2 ^ 32 := by
    intro b hb
    simp only [Field.write, hb, Value.write, List.length_append] at hlen
    omega
  have hword : ∀ v : UInt32, v.toNat < 2 ^ 64 := fun v => by have := v.toNat_lt; omega
  simp only [fields, List.mem_append, mem_field] at hf
  obtain ⟨-, rfl⟩ | ⟨-, rfl⟩ | ⟨-, rfl⟩ | ⟨-, rfl⟩ | ⟨-, rfl⟩ | ⟨-, rfl⟩ | ⟨-, rfl⟩ | ⟨-, rfl⟩ := hf
  · exact ⟨by norm_num, UInt64.toNat_lt _⟩
  · exact ⟨by norm_num, m.requestId.toNat_lt⟩
  · exact ⟨by norm_num, hbytes _ rfl⟩
  · exact ⟨by norm_num, hword _⟩
  · exact ⟨by norm_num, hword _⟩
  · exact ⟨by norm_num, UInt64.toNat_lt _⟩
  · exact ⟨by norm_num, hbytes _ rfl⟩
  · exact ⟨by norm_num, m.traceId.toNat_lt⟩

theorem parse_serialize (m : RpcMeta) (h : m.serialize.length < 2 ^ 31)
    (htext : ValidUtf8 m.errorText) : parse m.serialize = some m := by
  have hread := readFields_writeFields m.fields (m.fields_valid h) m.serialize.length
    (length_le_writeFields m.fields)
  rw [parse, serialize] at *
  rw [hread, Option.bind_some, m.foldlM_fields htext]

/-- A field that cannot be merged fails the whole message. -/
theorem foldlM_eq_none_of_mem {f : Field} {fs : List Field} (hf : f ∈ fs)
    (hnone : ∀ m, merge m f = none) (m : RpcMeta) : fs.foldlM merge m = none := by
  induction fs generalizing m with
  | nil => cases hf
  | cons g gs ih =>
    rw [List.foldlM_cons]
    rcases List.mem_cons.mp hf with rfl | hf
    · simp [hnone]
    · cases hm : merge m g with
      | none => rfl
      | some m' => exact ih hf m'

theorem parse_serialize_eq_none (m : RpcMeta) (h : m.serialize.length < 2 ^ 31)
    (htext : ¬ ValidUtf8 m.errorText) : parse m.serialize = none := by
  have hne : m.errorText ≠ [] := by
    rintro h0
    exact htext (h0 ▸ ⟨[], rfl⟩)
  have hmem : (⟨7, .bytes m.errorText⟩ : Field) ∈ m.fields := by
    simp [fields, mem_field, hne]
  have hmerge : ∀ m', merge m' ⟨7, .bytes m.errorText⟩ = none := by
    intro m'
    have hfalse : (ByteArray.mk m.errorText.toArray).validateUTF8 = false := by
      rw [← Bool.not_eq_true, ByteArray.validateUTF8_eq_true_iff]
      exact htext
    simp [merge, hfalse]
  have hread := readFields_writeFields m.fields (m.fields_valid h) m.serialize.length
    (length_le_writeFields m.fields)
  rw [parse, serialize] at *
  rw [hread, Option.bind_some, foldlM_eq_none_of_mem hmem hmerge]

end RpcMeta

/-- The generated class `RpcMeta`, as the proto3 encoding defines it. -/
def wireFormat : MetaFormat where
  byteSizeLong m := m.serialize.length
  appendToString m output := some (output ++ m.serialize)
  serializeWithCachedSizesToArray := RpcMeta.serialize
  parseFromArray := RpcMeta.parse

theorem wireFormat_lawful : wireFormat.Lawful RpcMeta.serialize where
  byteSizeLong_eq _ := rfl
  appendToString_eq _ _ _ := rfl
  serializeWithCachedSizesToArray_eq _ _ := rfl
  parseFromArray_wire m h htext := m.parse_serialize h htext

theorem wireFormat_rejectsInvalidUtf8 : wireFormat.RejectsInvalidUtf8 RpcMeta.serialize :=
  fun m h htext => m.parse_serialize_eq_none h htext

theorem compact_serialize : Compact RpcMeta.serialize := by
  intro m
  have hfield : ∀ (number : Nat) (isDefault : Bool) (value : ProtoWire.Value),
      (ProtoWire.writeFields (field number isDefault value)).length ≤ 20 + value.size := by
    intro number isDefault value
    unfold field
    split
    · simp [ProtoWire.writeFields]
    · simpa [ProtoWire.writeFields] using ProtoWire.Field.length_write_le ⟨number, value⟩
  have happend : ∀ fs gs : List ProtoWire.Field, ProtoWire.writeFields (fs ++ gs) =
      ProtoWire.writeFields fs ++ ProtoWire.writeFields gs := by
    intro fs gs
    simp [ProtoWire.writeFields]
  have h₁ := hfield 1 (m.type.number = 0) (.varint (int32Varint m.type.number))
  have h₂ := hfield 2 (m.requestId = 0) (.varint m.requestId.toNat)
  have h₃ := hfield 3 (m.serviceName = []) (.bytes m.serviceName)
  have h₄ := hfield 4 (m.methodIndex = 0) (.varint m.methodIndex.toNat)
  have h₅ := hfield 5 (m.payloadSize = 0) (.varint m.payloadSize.toNat)
  have h₆ := hfield 6 (m.errorCode = 0) (.varint (int32Varint m.errorCode))
  have h₇ := hfield 7 (m.errorText = []) (.bytes m.errorText)
  have h₈ := hfield 8 (m.traceId = 0) (.fixed64 m.traceId.toNat)
  simp only [RpcMeta.serialize, RpcMeta.fields, happend, List.length_append, ProtoWire.Value.size] at *
  omega

theorem wireFormat_proto3 : wireFormat.Proto3 RpcMeta.serialize :=
  ⟨wireFormat_lawful, wireFormat_rejectsInvalidUtf8, compact_serialize⟩

end NebulaRpc.Rpc
