import Mathlib.Data.List.Basic
import Mathlib.Tactic

/-!
# Byte strings

Overwriting a window of a byte string, and 32-bit words in network byte order. Both are
stated over lists: a word is written as its four octets, most significant first, and read
back from the first four octets of whatever follows.
-/

namespace Bytes

/-! ## Windows -/

/-- Replace `data.length` octets of `buf` from position `pos` on. -/
def overwrite (buf : List UInt8) (pos : Nat) (data : List UInt8) : List UInt8 :=
  buf.take pos ++ data ++ buf.drop (pos + data.length)

theorem length_overwrite {buf : List UInt8} {pos : Nat} {data : List UInt8}
    (h : pos + data.length ≤ buf.length) : (overwrite buf pos data).length = buf.length := by
  simp only [overwrite, List.length_append, List.length_take, List.length_drop]
  omega

theorem take_overwrite {buf : List UInt8} {pos : Nat} (data : List UInt8)
    (h : pos ≤ buf.length) : (overwrite buf pos data).take (pos + data.length) =
      buf.take pos ++ data := by
  rw [overwrite, List.take_append_of_le_length (by simp; omega)]
  exact List.take_of_length_le (by simp)

/-- Writing into the window behind what has been written. -/
theorem overwrite_append {done window rest data : List UInt8} {pos : Nat}
    (hpos : done.length = pos) (hwindow : window.length = data.length) :
    overwrite (done ++ (window ++ rest)) pos data = (done ++ data) ++ rest := by
  subst hpos
  have hdrop : (done ++ (window ++ rest)).drop (done.length + data.length) = rest := by
    rw [← List.append_assoc]
    exact List.drop_left' (by simp [hwindow])
  rw [overwrite, hdrop, List.take_left]

/-- Move `n` octets from `src` on to `dst` on, one at a time and from the front; `none` when an
octet is read or written outside. -/
def copyForward (buf : List UInt8) (src dst : Nat) : Nat → Option (List UInt8)
  | 0 => some buf
  | n + 1 =>
    match buf[src]? with
    | none => none
    | some x =>
      if dst < buf.length then copyForward (buf.set dst x) (src + 1) (dst + 1) n else none

/-- Moving down, no octet is overwritten before it has been moved. -/
theorem copyForward_eq {buf : List UInt8} {src dst n : Nat} (hdown : dst ≤ src)
    (hin : src + n ≤ buf.length) :
    copyForward buf src dst n = some (overwrite buf dst ((buf.drop src).take n)) := by
  induction n generalizing buf src dst with
  | zero => simp [copyForward, overwrite]
  | succ n ih =>
    have hsrc : src < buf.length := by omega
    have hmoved : ((buf.set dst buf[src]).drop (src + 1)).take n =
        (buf.drop (src + 1)).take n := by
      rw [List.drop_set_of_lt (by omega)]
    have hlength : ((buf.drop (src + 1)).take n).length = n := by
      simp only [List.length_take, List.length_drop]
      omega
    simp only [copyForward, List.getElem?_eq_getElem hsrc, if_pos (show dst < buf.length by omega)]
    rw [ih (by omega) (by simpa using by omega), hmoved, List.drop_eq_getElem_cons hsrc,
      List.take_succ_cons]
    simp only [overwrite, List.length_cons, hlength]
    rw [List.take_set, List.drop_set_of_lt (by omega), List.take_succ_eq_append_getElem (by omega),
      List.set_append_right _ _ (by simp), List.length_take, Nat.min_eq_left (by omega),
      Nat.sub_self, show dst + 1 + n = dst + (n + 1) by omega]
    simp

/-! ## Words in network byte order -/

/-- The octets of a word, most significant first. -/
def word (v : UInt32) : List UInt8 :=
  [UInt8.ofNat (v.toNat / 2 ^ 24), UInt8.ofNat (v.toNat / 2 ^ 16),
    UInt8.ofNat (v.toNat / 2 ^ 8), UInt8.ofNat v.toNat]

/-- The word held by the first four octets. -/
def ofWord : List UInt8 → UInt32
  | a :: b :: c :: d :: _ =>
    UInt32.ofNat (a.toNat * 2 ^ 24 + b.toNat * 2 ^ 16 + c.toNat * 2 ^ 8 + d.toNat)
  | _ => 0

@[simp] theorem length_word (v : UInt32) : (word v).length = 4 := rfl

@[simp] theorem ofWord_word_append (v : UInt32) (rest : List UInt8) :
    ofWord (word v ++ rest) = v := by
  have hv := v.toNat_lt
  have key : v.toNat / 2 ^ 24 % 2 ^ 8 * 2 ^ 24 + v.toNat / 2 ^ 16 % 2 ^ 8 * 2 ^ 16 +
      v.toNat / 2 ^ 8 % 2 ^ 8 * 2 ^ 8 + v.toNat % 2 ^ 8 = v.toNat := by omega
  simp only [word, ofWord, List.cons_append, UInt8.toNat_ofNat', key, UInt32.ofNat_toNat]

/-- Only the first four octets matter. -/
theorem ofWord_append {b : List UInt8} (rest : List UInt8) (h : 4 ≤ b.length) :
    ofWord (b ++ rest) = ofWord b := by
  match b, h with
  | _ :: _ :: _ :: _ :: _, _ => rfl

theorem ofWord_take {b : List UInt8} {n : Nat} (h : 4 ≤ n) (hb : n ≤ b.length) :
    ofWord (b.take n) = ofWord b := by
  conv_rhs => rw [← List.take_append_drop n b]
  exact (ofWord_append _ (by simp; omega)).symm

end Bytes
