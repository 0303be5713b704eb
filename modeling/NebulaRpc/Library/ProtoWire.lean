import Mathlib.Data.List.Basic
import Mathlib.Tactic

/-!
# The protobuf wire encoding

A message on the wire is a sequence of fields, each a tag (field number and wire type) followed
by a base-128 varint, eight little-endian octets, or a length-delimited octet string. Writing a
list of fields and reading it back gives the same list.

These are the wire types 0, 1 and 2. A group or a field of four octets is not read: octets that hold
one are refused.
-/

namespace ProtoWire

/-! ## Varints -/

/-- Base-128, least significant group first, at most `k + 1` octets. -/
def writeVarint : Nat → Nat → List UInt8
  | 0, n => [UInt8.ofNat (n % 128)]
  | k + 1, n =>
    if n < 128 then [UInt8.ofNat n] else UInt8.ofNat (n % 128 + 128) :: writeVarint k (n / 128)

/-- Read a varint of at most `k` octets. -/
def readVarint : Nat → List UInt8 → Option (Nat × List UInt8)
  | 0, _ => none
  | _ + 1, [] => none
  | k + 1, b :: rest =>
    if b.toNat < 128 then some (b.toNat, rest)
    else (readVarint k rest).map fun r => (b.toNat - 128 + 128 * r.1, r.2)

theorem readVarint_writeVarint (k n : Nat) (rest : List UInt8) (h : n < 128 ^ (k + 1)) :
    readVarint (k + 1) (writeVarint k n ++ rest) = some (n, rest) := by
  induction k generalizing n with
  | zero =>
    simp only [Nat.zero_add, pow_one] at h
    have hmod : n % 128 = n := Nat.mod_eq_of_lt h
    have hbyte : (UInt8.ofNat n).toNat = n := by rw [UInt8.toNat_ofNat']; omega
    simp [writeVarint, readVarint, hmod, hbyte, h]
  | succ k ih =>
    unfold writeVarint
    split
    · next hlt =>
      have hbyte : (UInt8.ofNat n).toNat = n := by rw [UInt8.toNat_ofNat']; omega
      simp [readVarint, hbyte, hlt]
    · next hge =>
      have hbyte : (UInt8.ofNat (n % 128 + 128)).toNat = n % 128 + 128 := by
        rw [UInt8.toNat_ofNat']; omega
      have hdiv : n / 128 < 128 ^ (k + 1) := by
        rw [Nat.div_lt_iff_lt_mul (by norm_num)]
        calc n < 128 ^ (k + 1 + 1) := h
          _ = 128 ^ (k + 1) * 128 := pow_succ _ _
      rw [List.cons_append, readVarint, hbyte, if_neg (by omega), ih _ hdiv]
      simp only [Option.map_some, Option.some.injEq, Prod.mk.injEq, and_true]
      omega

theorem writeVarint_ne_nil (k n : Nat) : writeVarint k n ≠ [] := by
  cases k with
  | zero => simp [writeVarint]
  | succ k => unfold writeVarint; split <;> simp

theorem length_writeVarint_le (k n : Nat) : (writeVarint k n).length ≤ k + 1 := by
  induction k generalizing n with
  | zero => simp [writeVarint]
  | succ k ih =>
    unfold writeVarint
    split
    · simp
    · have := ih (n / 128)
      simp only [List.length_cons]
      omega

/-! ## Fixed-width words -/

/-- `k` octets, least significant first. -/
def writeFixed : Nat → Nat → List UInt8
  | 0, _ => []
  | k + 1, n => UInt8.ofNat n :: writeFixed k (n / 256)

def readFixed : Nat → List UInt8 → Option (Nat × List UInt8)
  | 0, s => some (0, s)
  | _ + 1, [] => none
  | k + 1, b :: rest => (readFixed k rest).map fun r => (b.toNat + 256 * r.1, r.2)

theorem readFixed_writeFixed (k n : Nat) (rest : List UInt8) (h : n < 256 ^ k) :
    readFixed k (writeFixed k n ++ rest) = some (n, rest) := by
  induction k generalizing n with
  | zero =>
    have hn : n = 0 := by simpa using h
    simp [writeFixed, readFixed, hn]
  | succ k ih =>
    have hdiv : n / 256 < 256 ^ k := by
      rw [Nat.div_lt_iff_lt_mul (by norm_num)]
      calc n < 256 ^ (k + 1) := h
        _ = 256 ^ k * 256 := pow_succ _ _
    rw [writeFixed, List.cons_append, readFixed, ih _ hdiv]
    simp only [Option.map_some, UInt8.toNat_ofNat', Option.some.injEq, Prod.mk.injEq, and_true]
    omega

theorem length_writeFixed (k n : Nat) : (writeFixed k n).length = k := by
  induction k generalizing n with
  | zero => rfl
  | succ k ih => simp [writeFixed, ih]

/-! ## Fields -/

/-- The value of a field, by wire type. -/
inductive Value where
  | varint (n : Nat)
  | fixed64 (n : Nat)
  | bytes (b : List UInt8)
  deriving DecidableEq

/-- A field number with its value. -/
structure Field where
  number : Nat
  value : Value
  deriving DecidableEq

def Value.wireType : Value → Nat
  | .varint _ => 0
  | .fixed64 _ => 1
  | .bytes _ => 2

/-- A field that the wire can carry. -/
def Field.Valid (f : Field) : Prop :=
  f.number < 2 ^ 29 ∧
    match f.value with
    | .varint n => n < 2 ^ 64
    | .fixed64 n => n < 2 ^ 64
    | .bytes b => b.length < 2 ^ 32

def Value.write : Value → List UInt8
  | .varint n => writeVarint 9 n
  | .fixed64 n => writeFixed 8 n
  | .bytes b => writeVarint 9 b.length ++ b

def Field.write (f : Field) : List UInt8 :=
  writeVarint 9 (f.number * 8 + f.value.wireType) ++ f.value.write

/-- Read the value that follows a tag with the given wire type, if it is one of these. -/
def readValue (wireType : Nat) (s : List UInt8) : Option (Value × List UInt8) :=
  match wireType with
  | 0 => (readVarint 10 s).map fun r => (.varint (r.1 % 2 ^ 64), r.2)
  | 1 => (readFixed 8 s).map fun r => (.fixed64 r.1, r.2)
  | 2 =>
    match readVarint 10 s with
    | none => none
    | some (n, rest) => if n ≤ rest.length then some (.bytes (rest.take n), rest.drop n) else none
  | _ => none

def readField (s : List UInt8) : Option (Field × List UInt8) :=
  match readVarint 10 s with
  | none => none
  | some (tag, rest) => (readValue (tag % 8) rest).map fun r => (⟨tag / 8, r.1⟩, r.2)

theorem readValue_write {v : Value} (f : Nat) (h : Field.Valid ⟨f, v⟩) (rest : List UInt8) :
    readValue v.wireType (v.write ++ rest) = some (v, rest) := by
  have hpow : (2 : Nat) ^ 64 < 128 ^ 10 := by norm_num
  cases v with
  | varint n =>
    have hn : n < 2 ^ 64 := h.2
    simp only [Value.wireType, Value.write, readValue,
      readVarint_writeVarint 9 n rest (by omega), Option.map_some, Nat.mod_eq_of_lt hn]
  | fixed64 n =>
    have hn : n < 2 ^ 64 := h.2
    have hfix : n < 256 ^ 8 := by norm_num at hn ⊢; omega
    simp only [Value.wireType, Value.write, readValue, readFixed_writeFixed 8 n rest hfix,
      Option.map_some]
  | bytes b =>
    have hb : b.length < 2 ^ 32 := h.2
    simp [Value.wireType, Value.write, readValue,
      readVarint_writeVarint 9 b.length (b ++ rest) (by omega)]

theorem readField_write {f : Field} (h : f.Valid) (rest : List UInt8) :
    readField (f.write ++ rest) = some (f, rest) := by
  have hw : f.value.wireType < 3 := by cases f.value <;> simp [Value.wireType]
  have hnum := h.1
  have htag : f.number * 8 + f.value.wireType < 128 ^ (9 + 1) := by norm_num; omega
  have hmod : (f.number * 8 + f.value.wireType) % 8 = f.value.wireType := by omega
  have hdiv : (f.number * 8 + f.value.wireType) / 8 = f.number := by omega
  rw [readField, Field.write, List.append_assoc, readVarint_writeVarint 9 _ _ htag]
  simp only [hmod, hdiv, readValue_write f.number h rest, Option.map_some]

/-- The octets of a length-delimited string. -/
def Value.size : Value → Nat
  | .bytes b => b.length
  | _ => 0

theorem Field.length_write_le (f : Field) : f.write.length ≤ 20 + f.value.size := by
  have htag := length_writeVarint_le 9 (f.number * 8 + f.value.wireType)
  rw [Field.write, List.length_append]
  cases hvalue : f.value with
  | varint n =>
    have hn := length_writeVarint_le 9 n
    simp only [hvalue, Value.write, Value.size] at htag ⊢
    omega
  | fixed64 n =>
    have hn := length_writeFixed 8 n
    simp only [hvalue, Value.write, Value.size] at htag ⊢
    omega
  | bytes b =>
    have hn := length_writeVarint_le 9 b.length
    simp only [hvalue, Value.write, Value.size, List.length_append] at htag ⊢
    omega

theorem Field.write_ne_nil (f : Field) : f.write ≠ [] := by
  simp [Field.write, writeVarint_ne_nil]

/-- Read fields until the input is used up; `fuel` bounds their number. -/
def readFields : Nat → List UInt8 → Option (List Field)
  | _, [] => some []
  | 0, _ :: _ => none
  | fuel + 1, s =>
    match readField s with
    | none => none
    | some (f, rest) => (readFields fuel rest).map (f :: ·)

def writeFields (fs : List Field) : List UInt8 := (fs.map Field.write).flatten

/-- Reading the fields of a message gives the fields written. -/
theorem readFields_writeFields (fs : List Field) (h : ∀ f ∈ fs, f.Valid) (fuel : Nat)
    (hfuel : fs.length ≤ fuel) : readFields fuel (writeFields fs) = some fs := by
  induction fs generalizing fuel with
  | nil => cases fuel <;> rfl
  | cons f fs ih =>
    obtain ⟨fuel, rfl⟩ : ∃ k, fuel = k + 1 := ⟨fuel - 1, by simp at hfuel; omega⟩
    have hread := readField_write (h f (by simp)) (writeFields fs)
    have hcons : writeFields (f :: fs) = f.write ++ writeFields fs := by simp [writeFields]
    rw [hcons]
    obtain ⟨b, s, hs⟩ : ∃ b s, f.write ++ writeFields fs = b :: s := by
      cases hf : f.write with
      | nil => exact absurd hf f.write_ne_nil
      | cons b s => exact ⟨b, s ++ writeFields fs, rfl⟩
    rw [hs] at hread ⊢
    rw [readFields, hread]
    simp only [ih (fun g hg => h g (by simp [hg])) fuel (by simpa using hfuel), Option.map_some]
    exact List.cons_ne_nil _ _

theorem length_le_writeFields (fs : List Field) : fs.length ≤ (writeFields fs).length := by
  induction fs with
  | nil => simp [writeFields]
  | cons f fs ih =>
    have hpos : 0 < f.write.length := List.length_pos_of_ne_nil f.write_ne_nil
    simp only [writeFields, List.map_cons, List.flatten_cons, List.length_append,
      List.length_cons] at ih ⊢
    omega

theorem length_write_le {f : Field} {fs : List Field} (h : f ∈ fs) :
    f.write.length ≤ (writeFields fs).length := by
  obtain ⟨l, r, rfl⟩ := List.append_of_mem h
  simp only [writeFields, List.map_append, List.map_cons, List.flatten_append,
    List.flatten_cons, List.length_append]
  omega

end ProtoWire
