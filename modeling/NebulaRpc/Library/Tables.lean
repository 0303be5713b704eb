import Mathlib.Tactic

/-!
# Tables with a default value

A list of keys with their values, in which an access to a key without an entry makes one with a
default value. The sum of a quantity over all entries changes as that of the entry that is accessed,
if the default value has none of it.
-/

namespace Table

variable {κ ν : Type*} [DecidableEq κ] {d : ν} {key key' : κ} {f : ν → ν}

/-- The value of the key. -/
def find (d : ν) (key : κ) : List (κ × ν) → ν
  | [] => d
  | (k, v) :: table => if k = key then v else find d key table

/-- The value of the key is changed by `f`. -/
def modify (d : ν) (key : κ) (f : ν → ν) : List (κ × ν) → List (κ × ν)
  | [] => [(key, f d)]
  | (k, v) :: table => if k = key then (k, f v) :: table else (k, v) :: modify d key f table

theorem find_modify_self (table : List (κ × ν)) :
    find d key (modify d key f table) = f (find d key table) := by
  induction table with
  | nil => simp [modify, find]
  | cons entry table ih =>
    by_cases hk : entry.1 = key
    · simp [modify, find, hk]
    · simp [modify, find, hk, ih]

theorem find_modify_of_ne (hne : key' ≠ key) (table : List (κ × ν)) :
    find d key' (modify d key f table) = find d key' table := by
  induction table with
  | nil => simp [modify, find, hne.symm]
  | cons entry table ih =>
    by_cases hk : entry.1 = key
    · have hk' : entry.1 ≠ key' := fun h => hne (h.symm.trans hk)
      simp [modify, find, hk, hne.symm]
    · simp [modify, find, hk, ih]

theorem mem_keys_modify (table : List (κ × ν)) :
    key' ∈ (modify d key f table).map (·.1) ↔ key' = key ∨ key' ∈ table.map (·.1) := by
  induction table with
  | nil => simp [modify]
  | cons entry table ih =>
    by_cases hk : entry.1 = key
    · simp [modify, hk]
    · simp only [modify, hk, if_false, List.map_cons, List.mem_cons, ih]
      tauto

theorem nodup_keys_modify {table : List (κ × ν)} (h : (table.map (·.1)).Nodup) :
    ((modify d key f table).map (·.1)).Nodup := by
  induction table with
  | nil => simp [modify]
  | cons entry table ih =>
    obtain ⟨hnot, hrest⟩ := List.nodup_cons.mp h
    by_cases hk : entry.1 = key
    · simp only [modify, hk, if_true, List.map_cons]
      exact hk ▸ h
    · simp only [modify, hk, if_false, List.map_cons]
      refine List.nodup_cons.mpr ⟨fun hmem => ?_, ih hrest⟩
      obtain heq | hmem := (mem_keys_modify table).mp hmem
      · exact hk heq
      · exact hnot hmem

/-- Only the entry that is accessed contributes a difference. -/
theorem sum_modify (key : κ) (g : ν → Nat) (hd : g d = 0) (table : List (κ × ν)) :
    ((modify d key f table).map fun entry => g entry.2).sum + g (find d key table) =
      (table.map fun entry => g entry.2).sum + g (f (find d key table)) := by
  induction table with
  | nil => simp [modify, find, hd]
  | cons entry table ih =>
    by_cases hk : entry.1 = key
    · simp only [modify, find, hk, if_true, List.map_cons, List.sum_cons]
      omega
    · simp only [modify, find, hk, if_false, List.map_cons, List.sum_cons]
      omega

end Table
