import Mathlib.Data.Nat.Basic
import Mathlib.Tactic.Linarith
import Mathlib.Tactic.Positivity
import Mathlib.Tactic.Ring

/-!
# Byte strings and big-endian integers

Byte strings are lists of `UInt8`. `beBytes w n` writes the low `8 * w` bits of `n` in big-endian
order and `beNat` reads them back; `putUint16`, `putUint32` and `putUint64` are the fixed widths,
with a round trip each (`uint16_putUint16`, `uint32_putUint32`, `uint64_putUint64`).

`FixedBytes n` is a byte array of a fixed size, `[n]byte`; `FixedBytes.copyFrom` fills one from a
byte string, and `copyFrom_append` says that an array at the head of a byte string is read back.
-/

namespace GoNoise

abbrev Bytes := List UInt8

namespace BigEndian

/-- `w` bytes, most significant first. -/
def beBytes : ℕ → ℕ → Bytes
  | 0, _ => []
  | w + 1, n => UInt8.ofNat (n / 256 ^ w) :: beBytes w n

/-- The number that a byte string spells, most significant byte first. -/
def beNat : Bytes → ℕ
  | [] => 0
  | b :: l => b.toNat * 256 ^ l.length + beNat l

@[simp] theorem length_beBytes (w n : ℕ) : (beBytes w n).length = w := by
  induction w with
  | zero => rfl
  | succ w ih => rw [beBytes, List.length_cons, ih]

/-- Reading back what was written, up to the width. -/
theorem beNat_beBytes (w n : ℕ) : beNat (beBytes w n) = n % 256 ^ w := by
  induction w with
  | zero => simp [beBytes, beNat, Nat.mod_one]
  | succ w ih =>
    have hb : (UInt8.ofNat (n / 256 ^ w)).toNat = n / 256 ^ w % 256 := UInt8.toNat_ofNat'
    have hsplit : n % 256 ^ (w + 1) = n % 256 ^ w + 256 ^ w * (n / 256 ^ w % 256) := by
      rw [pow_succ, Nat.mod_mul]
    rw [beBytes, beNat, length_beBytes, ih, hb, hsplit]
    ring

variable (x : UInt16) (l : Bytes)

theorem beNat_lt : beNat l < 256 ^ l.length := by
  induction l with
  | nil => simp [beNat]
  | cons b l ih =>
    have hb : b.toNat + 1 ≤ 256 := b.toNat_lt
    calc beNat (b :: l) < (b.toNat + 1) * 256 ^ l.length := by
          rw [beNat]
          linarith
      _ ≤ 256 * 256 ^ l.length := Nat.mul_le_mul_right _ hb
      _ = 256 ^ (b :: l).length := by rw [List.length_cons, pow_succ, Nat.mul_comm]

theorem beBytes_add_mul (w n k : ℕ) : beBytes w (n + 256 ^ w * k) = beBytes w n := by
  induction w generalizing k with
  | zero => rfl
  | succ w ih =>
    have hsplit : n + 256 ^ (w + 1) * k = n + 256 ^ w * (256 * k) := by ring
    have hbyte : UInt8.ofNat (n / 256 ^ w + 256 * k) = UInt8.ofNat (n / 256 ^ w) := by
      rw [← UInt8.toNat_inj, UInt8.toNat_ofNat', UInt8.toNat_ofNat', Nat.add_mul_mod_self_left]
    rw [beBytes, beBytes, hsplit, ih, Nat.add_mul_div_left _ _ (by positivity), hbyte]

theorem beBytes_beNat : beBytes l.length (beNat l) = l := by
  induction l with
  | nil => rfl
  | cons b l ih =>
    have hlt := beNat_lt l
    have hhead : (b.toNat * 256 ^ l.length + beNat l) / 256 ^ l.length = b.toNat := by
      rw [Nat.add_comm, Nat.add_mul_div_right _ _ (by positivity), Nat.div_eq_of_lt hlt,
        Nat.zero_add]
    rw [List.length_cons, beBytes, beNat, hhead, UInt8.ofNat_toNat, Nat.add_comm, Nat.mul_comm,
      beBytes_add_mul, ih]

/-- `binary.BigEndian.PutUint16`. -/
def putUint16 (x : UInt16) : Bytes := beBytes 2 x.toNat

/-- `binary.BigEndian.PutUint32`. -/
def putUint32 (x : UInt32) : Bytes := beBytes 4 x.toNat

/-- `binary.BigEndian.PutUint64`. -/
def putUint64 (x : UInt64) : Bytes := beBytes 8 x.toNat

/-- `binary.BigEndian.Uint16` of a two-byte slice. -/
def uint16 (b : Bytes) : UInt16 := UInt16.ofNat (beNat b)

/-- `binary.BigEndian.Uint32` of a four-byte slice. -/
def uint32 (b : Bytes) : UInt32 := UInt32.ofNat (beNat b)

/-- `binary.BigEndian.Uint64` of an eight-byte slice. -/
def uint64 (b : Bytes) : UInt64 := UInt64.ofNat (beNat b)

@[simp] theorem length_putUint16 : (putUint16 x).length = 2 := length_beBytes 2 _

@[simp] theorem length_putUint32 (x : UInt32) : (putUint32 x).length = 4 := length_beBytes 4 _

@[simp] theorem length_putUint64 (x : UInt64) : (putUint64 x).length = 8 := length_beBytes 8 _

@[simp] theorem uint16_putUint16 : uint16 (putUint16 x) = x := by
  have h := x.toNat_lt
  rw [uint16, putUint16, beNat_beBytes, Nat.mod_eq_of_lt (by omega), UInt16.ofNat_toNat]

theorem putUint16_uint16 {l : Bytes} (hl : l.length = 2) : putUint16 (uint16 l) = l := by
  have hlt := beNat_lt l
  have hbytes := beBytes_beNat l
  rw [hl] at hlt hbytes
  rwa [putUint16, uint16, UInt16.toNat_ofNat', Nat.mod_eq_of_lt (by omega)]

@[simp] theorem uint32_putUint32 (x : UInt32) : uint32 (putUint32 x) = x := by
  have h := x.toNat_lt
  rw [uint32, putUint32, beNat_beBytes, Nat.mod_eq_of_lt (by omega), UInt32.ofNat_toNat]

@[simp] theorem uint64_putUint64 (x : UInt64) : uint64 (putUint64 x) = x := by
  have h := x.toNat_lt
  rw [uint64, putUint64, beNat_beBytes, Nat.mod_eq_of_lt (by omega), UInt64.ofNat_toNat]

/-- A big-endian word at the head of a byte string is its first four bytes. -/
theorem take_putUint32_append (x : UInt32) (l : Bytes) : (putUint32 x ++ l).take 4 = putUint32 x :=
  List.take_left' (length_putUint32 x)

theorem drop_putUint32_append (x : UInt32) (l : Bytes) : (putUint32 x ++ l).drop 4 = l :=
  List.drop_left' (length_putUint32 x)

theorem take_putUint16_append : (putUint16 x ++ l).take 2 = putUint16 x :=
  List.take_left' (length_putUint16 x)

theorem drop_putUint16_append : (putUint16 x ++ l).drop 2 = l :=
  List.drop_left' (length_putUint16 x)

end BigEndian

/-! ## Arrays -/

abbrev FixedBytes (n : ℕ) := { b : Bytes // b.length = n }

namespace FixedBytes

/-- A new array, filled by `copy` as far as the byte string goes. -/
def copyFrom (n : ℕ) (b : Bytes) : FixedBytes n :=
  ⟨(b ++ List.replicate n 0).take n, by simp⟩

variable {n x y : ℕ} (a : FixedBytes n)

theorem copyFrom_append (rest : Bytes) : copyFrom n (a.val ++ rest) = a := by
  have htake : (a.val ++ rest ++ List.replicate n 0).take n = a.val := by
    rw [List.append_assoc]
    exact List.take_left' a.property
  exact Subtype.ext htake

theorem copyFrom_self : copyFrom n a.val = a := by
  have h := copyFrom_append a []
  rwa [List.append_nil] at h

/-- The array that spells a number, most significant byte first. -/
def ofNat (n x : ℕ) : FixedBytes n := ⟨BigEndian.beBytes n x, BigEndian.length_beBytes n x⟩

theorem ofNat_inj (hx : x < 256 ^ n) (hy : y < 256 ^ n) : ofNat n x = ofNat n y ↔ x = y := by
  constructor
  · intro h
    have hval := congrArg (fun a => BigEndian.beNat a.val) h
    rwa [ofNat, ofNat, BigEndian.beNat_beBytes, BigEndian.beNat_beBytes, Nat.mod_eq_of_lt hx,
      Nat.mod_eq_of_lt hy] at hval
  · rintro rfl
    rfl

/-- The same number, least significant byte first. -/
def ofNatLE (n x : ℕ) : FixedBytes n :=
  ⟨(ofNat n x).val.reverse, by rw [List.length_reverse, (ofNat n x).property]⟩

theorem ofNatLE_inj (hx : x < 256 ^ n) (hy : y < 256 ^ n) : ofNatLE n x = ofNatLE n y ↔ x = y := by
  rw [← ofNat_inj hx hy, ofNatLE, ofNatLE, Subtype.mk.injEq, List.reverse_inj, Subtype.ext_iff]

end FixedBytes

def hex (b : Bytes) : String :=
  let digit (x : UInt8) : Char := "0123456789abcdef".toList.getD x.toNat '0'
  String.ofList (b.flatMap fun x => [digit (x / 16), digit (x % 16)])

end GoNoise
