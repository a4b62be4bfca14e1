import Mathlib.Algebra.Group.Nat.Even
import Reflash.Bytes

/-!
# Bytes — numbers and parts of byte strings

Some bytes and their number determine each other, whether the lowest digit comes first or last.
-/

namespace Reflash
namespace Bytes

theorem littleEndian_lt (b : Bytes) : littleEndian b < 256 ^ b.length := by
  induction b with
  | nil => simp [littleEndian]
  | cons x rest ih =>
      have hx : x.toNat < 256 := x.toNat_lt
      simp only [littleEndian, List.length_cons, Nat.pow_succ]
      omega

/-- The number of some bytes is written in these bytes again. -/
theorem ofLittle_littleEndian (b : Bytes) : ofLittle b.length (littleEndian b) = b := by
  induction b with
  | nil => rfl
  | cons x rest ih =>
      have hx : x.toNat < 256 := x.toNat_lt
      have hlow : (x.toNat + 256 * littleEndian rest) % 256 = x.toNat := by omega
      have hhigh : (x.toNat + 256 * littleEndian rest) / 256 = littleEndian rest := by omega
      simp only [littleEndian, List.length_cons, ofLittle, hlow, hhigh, ih, UInt8.ofNat_toNat]

theorem littleEndian_ofLittle {size n : Nat} (h : n < 256 ^ size) :
    littleEndian (ofLittle size n) = n := by
  induction size generalizing n with
  | zero =>
      have hzero : n = 0 := by omega
      rw [ofLittle, littleEndian, hzero]
  | succ size ih =>
      have hhigh : n / 256 < 256 ^ size := Nat.div_lt_of_lt_mul (by rwa [Nat.pow_succ'] at h)
      rw [ofLittle, littleEndian, ih hhigh, UInt8.toNat_ofNat_of_lt' (Nat.mod_lt n (by decide)),
        Nat.mod_add_div]

theorem bigEndian_eq_littleEndian (b : Bytes) : bigEndian b = littleEndian b.reverse := by
  rw [bigEndian, List.foldl_eq_foldr_reverse]
  induction b.reverse with
  | nil => rfl
  | cons x rest ih => rw [List.foldr_cons, littleEndian, ih, Nat.add_comm]

theorem length_ofBig (size n : Nat) : (ofBig size n).length = size := by
  rw [ofBig, List.length_reverse, length_ofLittle]

theorem ofBig_bigEndian (b : Bytes) : ofBig b.length (bigEndian b) = b := by
  rw [ofBig, bigEndian_eq_littleEndian, ← List.length_reverse, ofLittle_littleEndian,
    List.reverse_reverse]

theorem bigEndian_ofBig {size n : Nat} (h : n < 256 ^ size) : bigEndian (ofBig size n) = n := by
  rw [bigEndian_eq_littleEndian, ofBig, List.reverse_reverse, littleEndian_ofLittle h]

/-- Where two strings start with the same bytes, their parts are the same. -/
theorem part_eq_of_take_eq {a b : Bytes} {common place size : Nat} (h : place + size ≤ common)
    (hsame : a.take common = b.take common) :
    (a.drop place).take size = (b.drop place).take size := by
  have hwithin (c : Bytes) : (c.drop place).take size = ((c.take common).drop place).take size := by
    rw [List.drop_take, List.take_take, Nat.min_eq_left (by omega)]
  rw [hwithin a, hwithin b, hsame]

end Bytes
end Reflash
