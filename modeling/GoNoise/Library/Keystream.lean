import GoNoise.Library.Bytes
import Mathlib.Logic.Function.Basic

/-!
# Masking a range of a byte string

A stream cipher XORs its keystream into a range of a byte string. `xorRange` is that operation: it
keeps the length and the bytes outside of the range, and it undoes itself.

* `xorRange_involutive`, `drop_xorRange`, `xorRange_comm`: the facts about ranges.
-/

namespace GoNoise.Keystream

/-- The keystream `ks` XORed into the bytes at `start ≤ i < stop`. -/
def xorRange (ks : ℕ → UInt8) (start stop : ℕ) (l : Bytes) : Bytes :=
  l.mapIdx fun i b => if start ≤ i ∧ i < stop then b ^^^ ks (i - start) else b

section
variable (ks : ℕ → UInt8) (start stop : ℕ)

@[simp] theorem length_xorRange (l : Bytes) : (xorRange ks start stop l).length = l.length :=
  List.length_mapIdx

theorem xorRange_involutive : Function.Involutive (xorRange ks start stop) := by
  intro l
  refine List.ext_getElem (by simp) fun i hi hi' => ?_
  simp only [xorRange, List.getElem_mapIdx]
  split_ifs
  · rw [UInt8.xor_assoc, UInt8.xor_self, UInt8.xor_zero]
  · rfl

theorem drop_xorRange {n : ℕ} (h : stop ≤ n) (l : Bytes) :
    (xorRange ks start stop l).drop n = l.drop n := by
  refine List.ext_getElem (by simp) fun i hi hi' => ?_
  simp only [xorRange, List.getElem_drop, List.getElem_mapIdx]
  rw [if_neg (by omega)]

/-- The order of two ranges does not matter, even if they overlap. -/
theorem xorRange_comm (ks' : ℕ → UInt8) (start' stop' : ℕ) (l : Bytes) :
    xorRange ks start stop (xorRange ks' start' stop' l) =
      xorRange ks' start' stop' (xorRange ks start stop l) := by
  refine List.ext_getElem (by simp) fun i hi hi' => ?_
  simp only [xorRange, List.getElem_mapIdx]
  split_ifs
  · rw [UInt8.xor_assoc, UInt8.xor_comm (ks' _), ← UInt8.xor_assoc]
  all_goals rfl

end

/-- A mask chosen from bytes that it leaves alone undoes itself: the second time the same mask
is chosen. -/
theorem mask_mask {α κ : Type} {read : α → κ} {mask : κ → α → α} {l : α}
    (hread : read (mask (read l) l) = read l) (hmask : Function.Involutive (mask (read l))) :
    mask (read (mask (read l) l)) (mask (read l) l) = l := by
  rw [hread, hmask]

end GoNoise.Keystream
