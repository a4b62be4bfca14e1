/-!
# Bytes — byte strings and their fixed-width numbers

A byte string is a list of octets.  This file holds the readings that every binary format of the
library shares: unsigned numbers in either byte order, blocks, and slices that must lie inside.
-/

namespace Reflash

abbrev Bytes := List UInt8

namespace Bytes

/-! ## Numbers -/

/-- The number whose base-256 digits are the bytes, most significant first. -/
def bigEndian (b : Bytes) : Nat :=
  b.foldl (fun n x => 256 * n + x.toNat) 0

/-- The number whose base-256 digits are the bytes, least significant first. -/
def littleEndian : Bytes → Nat
  | [] => 0
  | x :: rest => x.toNat + 256 * littleEndian rest

/-- The `size` lowest base-256 digits of `n`, least significant first. -/
def ofLittle : (size n : Nat) → Bytes
  | 0, _ => []
  | size + 1, n => UInt8.ofNat (n % 256) :: ofLittle size (n / 256)

/-- The `size` lowest base-256 digits of `n`, most significant first. -/
def ofBig (size n : Nat) : Bytes :=
  (ofLittle size n).reverse

/-! ## Parts -/

/-- The `size` bytes from `start` on, if the string has them all. -/
def slice? (b : Bytes) (start size : Nat) : Option Bytes :=
  if start + size ≤ b.length then some ((b.drop start).take size) else none

/-- Consecutive blocks of `size` bytes; the last one may be shorter. -/
def blocks (size : Nat) (b : Bytes) : List Bytes :=
  if _h : 0 < size ∧ b ≠ [] then b.take size :: blocks size (b.drop size) else []
termination_by b.length
decreasing_by
  have := List.length_pos_iff.2 _h.2
  simp only [List.length_drop]
  omega

/-- The bytes of a text. -/
def ofText (s : String) : Bytes :=
  s.toUTF8.data.toList

/-! ## Laws -/

@[simp] theorem length_ofLittle (size n : Nat) : (ofLittle size n).length = size := by
  induction size generalizing n with
  | zero => rfl
  | succ size ih => simp [ofLittle, ih]

end Bytes

end Reflash
