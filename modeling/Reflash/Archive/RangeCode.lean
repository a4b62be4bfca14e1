import Reflash.Archive.Expansion

/-!
# Archive.RangeCode — decisions by their chances

A range code writes a decision between no and yes in less than a bit where the decision was likely.
Reader and writer keep a chance for each kind of decision, and change it alike after each one.

* `RangeM` — readings of a range code;
* `RangeCode.decide` — the next decision of some kind.
-/

namespace Reflash
namespace RangeCode

open Expansion (Stop)

/-- What is ahead, the range with the place in it that the data point to, and the chances that
decisions of each kind are no, in shares of 2048. -/
structure State where
  ahead : Bytes
  range : UInt32
  place : UInt32
  chances : Array UInt32

end RangeCode

abbrev RangeM : Type → Type :=
  ExceptT Expansion.Stop (StateM RangeCode.State)

namespace RangeCode

/-- The chance of both answers at the beginning. -/
def even : UInt32 := 1024

/-- A range code begins with a zero and the first four bytes of the place. -/
def start? (b : Bytes) (chances : Array UInt32) : Except Expansion.Stop State :=
  match b with
  | first :: rest =>
      if first ≠ 0 then .error .unmarked
      else if rest.length < 4 then .error .exhausted
      else .ok {
        ahead := rest.drop 4
        range := 0xFFFFFFFF
        place := UInt32.ofNat (Bytes.bigEndian (rest.take 4))
        chances }
  | [] => .error .exhausted

/-- Reads on where the range has become narrow; behind the end all bytes are one. -/
def normalize : RangeM Unit :=
  modify fun s =>
    if s.range < 0x1000000 then
      { s with
        ahead := s.ahead.tail
        range := s.range <<< 8
        place := (s.place <<< 8) ||| (s.ahead.headD 1).toUInt32 }
    else s

/-- The next decision, of that kind. -/
def decide (kind : Nat) : RangeM Bool := do
  normalize
  let s ← get
  let chance := s.chances[kind]?.getD even
  let bound := (s.range >>> 11) * chance
  if s.place < bound then
    modify fun s => { s with
      range := bound
      chances := s.chances.setIfInBounds kind (chance + ((2048 - chance) >>> 5)) }
    return false
  else
    modify fun s => { s with
      range := s.range - bound
      place := s.place - bound
      chances := s.chances.setIfInBounds kind (chance - (chance >>> 5)) }
    return true

/-- A number of that many bits whose chances are not kept, highest first. -/
def plain : (width : Nat) → (n : Nat) → RangeM Nat
  | 0, n => return n
  | width + 1, n => do
      normalize
      modify fun s => { s with range := s.range >>> 1 }
      let s ← get
      let isBelow := (s.place - s.range) >>> 31 = 1
      if isBelow then plain width (2 * n)
      else
        modify fun s => { s with place := s.place - s.range }
        plain width (2 * n + 1)

/-- A number of that many bits, highest first.  The kind of each decision is `base` and the bits
before, after a one. -/
def tree (base : Nat) : (width : Nat) → (path : Nat) → RangeM Nat
  | 0, path => return path
  | width + 1, path => do
      tree base width (2 * path + (← decide (base + path)).toNat)

/-- A number of `width` bits from the highest one on. -/
def number (base width : Nat) : RangeM Nat :=
  return (← tree base width 1) - 1 <<< width

/-- A number of that many bits, lowest first. -/
def reversed (base : Nat) : (width : Nat) → (path : Nat) → RangeM Nat
  | 0, _ => return 0
  | width + 1, path => do
      let low := (← decide (base + path)).toNat
      return low + 2 * (← reversed base width (2 * path + low))

end RangeCode
end Reflash
