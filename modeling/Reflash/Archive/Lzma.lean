import Reflash.Archive.RangeCode

/-!
# Archive.Lzma — expanding references in a range code

The data are literal bytes and references to bytes already written, all of them decisions in a range
code.  What a decision is about, the kinds of the decisions before it, and the bytes around it, tell
its kind.

* `Lzma.advance` — expansion up to some number of bytes;
* `Lzma.expand` — the bytes of an entry.
-/

namespace Reflash
namespace Lzma

open RangeCode
open Expansion (Stop)

/-! ## Settings -/

/-- How many bits of the byte before, of the position for literal bytes, and of the position for
other decisions, tell kinds apart; and how far back references may reach. -/
structure Settings where
  context : Nat
  literal : Nat
  position : Nat
  reach : Nat
  deriving DecidableEq, Repr

/-- The settings that a byte stands for. -/
def Settings.ofByte? (b : UInt8) (reach : Nat) : Option Settings :=
  let n := b.toNat
  if n < 225 then some { context := n % 9, literal := n / 9 % 5, position := n / 45, reach }
  else none

/-! ## Kinds of decisions -/

namespace Kind

/-- Whether there is a reference. -/
def isReference (phase position : Nat) : Nat := 16 * phase + position
/-- Whether it repeats a distance. -/
def isRepeated (phase : Nat) : Nat := 192 + phase
/-- Whether that is not the last one. -/
def isOlder (phase : Nat) : Nat := 204 + phase
/-- Whether it is not the last but one. -/
def isThird (phase : Nat) : Nat := 216 + phase
/-- Whether it is not the last but two. -/
def isFourth (phase : Nat) : Nat := 228 + phase
/-- Whether more than one byte is repeated from the last distance. -/
def isLong (phase position : Nat) : Nat := 240 + 16 * phase + position
/-- How wide a distance is. -/
def slot (length : Nat) : Nat := 432 + 64 * min length 3
/-- The bits of a distance that is not very wide. -/
def middle (slot start : Nat) : Nat := 688 + start - slot
/-- The lowest bits of other distances. -/
def lowest : Nat := 803
/-- The lengths of references with new distances. -/
def length : Nat := 819
/-- The lengths of references with repeated ones. -/
def repeatedLength : Nat := 1333
/-- The bits of a literal byte. -/
def literal (context : Nat) : Nat := 1847 + 768 * context

end Kind

/-- The chances at the beginning. -/
def Settings.chances (s : Settings) : Array UInt32 :=
  Array.replicate (Kind.literal (1 <<< (s.context + s.literal))) even

/-! ## Memory -/

/-- What has been written, where the bytes begin that can be repeated, the kinds of the last
decisions, and the last four distances, each less one. -/
structure Memory where
  written : Array UInt8 := #[]
  origin : Nat := 0
  phase : Nat := 0
  recent : Nat × Nat × Nat × Nat := (0, 0, 0, 0)

namespace Memory

def position (m : Memory) : Nat :=
  m.written.size - m.origin

/-- The byte that stands so far back. -/
def back (m : Memory) (distance : Nat) : UInt8 :=
  if distance < m.position then (m.written[m.written.size - distance - 1]?).getD 0 else 0

/-- Writes that many bytes again. -/
def copy (distance : Nat) : (count : Nat) → Memory → Memory
  | 0, m => m
  | count + 1, m =>
      let b := m.back distance
      copy distance count { m with written := m.written.push b }

end Memory

/-! ## Literal bytes -/

/-- A literal byte after a reference: as long as its bits are those of `expected`, the byte that
would follow in what was repeated, the kinds are others. -/
def unexpected (base : Nat) (expected : UInt8) : (width : Nat) → (path : Nat) → RangeM Nat
  | 0, path => return path
  | width + 1, path => do
      let guess := expected.toNat.testBit width
      let b ← RangeCode.decide (base + 256 * (1 + guess.toNat) + path)
      if b = guess then unexpected base expected width (2 * path + b.toNat)
      else tree base width (2 * path + b.toNat)

def literal (s : Settings) (m : Memory) : RangeM Memory := do
  let context :=
    (m.position % (1 <<< s.literal)) <<< s.context + (m.back 0).toNat >>> (8 - s.context)
  let base := Kind.literal context
  let path ←
    if m.phase < 7 then tree base 8 1
    else unexpected base (m.back m.recent.1) 8 1
  return { m with
    written := m.written.push (UInt8.ofNat path)
    phase := if m.phase < 4 then 0 else if m.phase < 10 then m.phase - 3 else m.phase - 6 }

/-! ## References -/

/-- A length, less two. -/
def length (base position : Nat) : RangeM Nat := do
  if !(← RangeCode.decide base) then number (base + 2 + 8 * position) 3
  else if !(← RangeCode.decide (base + 1)) then return 8 + (← number (base + 130 + 8 * position) 3)
  else return 16 + (← number (base + 258) 8)

/-- A distance, less one. -/
def distance (length : Nat) : RangeM Nat := do
  let slot ← number (Kind.slot length) 6
  if slot < 4 then return slot
  let width := slot / 2 - 1
  let start := (2 + slot % 2) <<< width
  if slot < 14 then return start + (← reversed (Kind.middle slot start) width 1)
  return start + 16 * (← plain (width - 4) 0) + (← reversed Kind.lowest 4 1)

/-- Brings the distance to the head that a reference repeats, if it is not the last one. -/
def older (phase : Nat) (recent : Nat × Nat × Nat × Nat) : RangeM (Nat × Nat × Nat × Nat) := do
  let (a, b, c, d) := recent
  if !(← RangeCode.decide (Kind.isThird phase)) then return (b, a, c, d)
  if !(← RangeCode.decide (Kind.isFourth phase)) then return (c, a, b, d)
  return (d, a, b, c)

/-- A reference, with its length. -/
def reference (s : Settings) (m : Memory) : RangeM (Memory × Nat) := do
  let position := m.position % (1 <<< s.position)
  let (a, b, c, _) := m.recent
  if !(← RangeCode.decide (Kind.isRepeated m.phase)) then
    let n ← length Kind.length position
    let d ← distance n
    return ({ m with recent := (d, a, b, c), phase := if m.phase < 7 then 7 else 10 }, n + 2)
  let isOlder ← RangeCode.decide (Kind.isOlder m.phase)
  let isLong ←
    if isOlder then pure true else RangeCode.decide (Kind.isLong m.phase position)
  if !isLong then return ({ m with phase := if m.phase < 7 then 9 else 11 }, 1)
  let recent ← if isOlder then older m.phase m.recent else pure m.recent
  let n ← length Kind.repeatedLength position
  return ({ m with recent, phase := if m.phase < 7 then 8 else 11 }, n + 2)

/-! ## Expansion -/

/-- Expands up to a number of bytes, at which a reference must end.  Every decision writes a byte at
least, so `fuel` bounds their number if it is as great. -/
def advance (s : Settings) (limit : Nat) : (fuel : Nat) → Memory → RangeM Memory
  | 0, m => do
      normalize
      return m
  | fuel + 1, m => do
      if limit ≤ m.written.size then
        normalize
        return m
      if !(← RangeCode.decide (Kind.isReference m.phase (m.position % (1 <<< s.position)))) then
        advance s limit fuel (← literal s m)
      else
        let (m, count) ← reference s m
        if min m.position s.reach ≤ m.recent.1 then throw .corrupt
        if limit < m.written.size + count then throw .unfinished
        advance s limit fuel (m.copy m.recent.1 count)

/-- What expansion complains of. -/
inductive Fault where
  | stopped (stop : Stop)
  | settingsSize (size : Nat)
  | settings
  | reach
  deriving DecidableEq, Repr

def Fault.message : Fault → String
  | .stopped .exhausted => "failed to fill whole buffer"
  | .stopped .corrupt => "dist overflow"
  | .stopped .unmarked => "range decoder first byte is not zero"
  | .stopped .unfinished => "end reached but not decoder finished"
  | .settingsSize n => s!"unexpected LZMA properties size of {n}"
  | .settings => "invalid props byte"
  | .reach => "dict size too large"

/-- The reach of references is a multiple of sixteen, and not too short. -/
def reach (n : Nat) : Nat :=
  (max n 4096 + 15) / 16 * 16

/-- Expands data that begin with a version, the size of the settings, and the settings. -/
def expand (size : Nat) (b : Bytes) : Except Fault Bytes := do
  if b.length < 4 then throw (.stopped .exhausted)
  let settingsSize := Bytes.littleEndian ((b.drop 2).take 2)
  if settingsSize ≠ 5 then throw (.settingsSize settingsSize)
  match b.drop 4 with
  | first :: b₀ :: b₁ :: b₂ :: b₃ :: packed =>
      let n := Bytes.littleEndian [b₀, b₁, b₂, b₃]
      match Settings.ofByte? first (reach n) with
      | some s =>
          if 0xFFFFFFF0 < n then throw .reach
          let start ← (start? packed s.chances).mapError .stopped
          let m ← ((advance s size size {}).run.run start).1.mapError .stopped
          return m.written.toList
      | none => throw .settings
  | _ => throw (.stopped .exhausted)

end Lzma
end Reflash
