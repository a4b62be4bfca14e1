import Reflash.Archive.PrefixCode

/-!
# Archive.Inflate — expanding deflated data

Deflated data are blocks of literal bytes and references to bytes already written, in prefix codes.
Data that end early expand to what they hold; data that break a rule of the format do not expand at
all.  There are two kinds: references of the second reach further back, and can be longer.

* `inflate` — the expansion.
-/

namespace Reflash
namespace Inflate

open Expansion

/-! ## References -/

/-- The lengths of references but for the last symbol of all. -/
def lengthRanges : Ranges :=
  Ranges.ofWidths 3 ([0, 0, 0, 0] ++ (List.range 6).flatMap (List.replicate 4 ·))

/-- What tells the kinds of deflated data apart. -/
structure Kind where
  lengths : Ranges
  distances : Ranges
  /-- The greatest number of distances in a code. -/
  distanceLimit : Nat

/-- The usual kind; the greatest length has a symbol of its own. -/
def Kind.usual : Kind where
  lengths := lengthRanges ++ [(258, 0)]
  distances := Ranges.ofWidths 1 ([0, 0] ++ (List.range 14).flatMap (List.replicate 2 ·))
  distanceLimit := 30

/-- The kind with references up to twice as far back; one symbol stands for all lengths. -/
def Kind.wide : Kind where
  lengths := lengthRanges ++ [(3, 16)]
  distances := Ranges.ofWidths 1 ([0, 0] ++ (List.range 15).flatMap (List.replicate 2 ·))
  distanceLimit := 32

def inRange (ranges : Ranges) (symbol : Nat) : ExpansionM Nat := do
  let (base, width) ← require ranges[symbol]?
  return base + (← little width)

/-! ## Codes -/

/-- A code that does not use all words must have a single word, and only where `sparse` permits it;
one without any word is no fault until it is used. -/
def code (sparse : Bool) (lengths : List Nat) : ExpansionM PrefixCode := do
  let c := PrefixCode.ofLengths lengths
  let spare ← require c.spare?
  check (spare == 0 || c.symbols.isEmpty || sparse && c.counts.length == 1)
  return c

/-- The order in which the lengths of the code for lengths are written. -/
def lengthOrder : List Nat :=
  [16, 17, 18, 0, 8, 7, 9, 6, 10, 5, 11, 4, 12, 3, 13, 2, 14, 1, 15]

/-- Reads lengths until there are `total`; `fuel` bounds the number of symbols. -/
def lengths (c : PrefixCode) (total : Nat) : (fuel : Nat) → List Nat → ExpansionM (List Nat)
  | 0, _ => throw .exhausted
  | fuel + 1, known => do
      if known.length = total then return known
      let symbol ← c.symbol
      let more ←
        if symbol < 16 then pure [symbol]
        else if symbol = 16 then do
          let last ← require known.getLast?
          pure (List.replicate (3 + (← little 2)) last)
        else if symbol = 17 then do pure (List.replicate (3 + (← little 3)) 0)
        else do pure (List.replicate (11 + (← little 7)) 0)
      check ((known ++ more).length ≤ total)
      lengths c total fuel (known ++ more)

/-- The codes of a block that brings its own. -/
def ownCodes (kind : Kind) : ExpansionM (PrefixCode × PrefixCode) := do
  let literals := 257 + (← little 5)
  let distances := 1 + (← little 5)
  let given := 4 + (← little 4)
  check (literals ≤ 286 && distances ≤ kind.distanceLimit)
  let widths ← (lengthOrder.take given).mapM fun symbol => return (symbol, ← little 3)
  let c ← code false ((List.range 19).map fun symbol => (widths.lookup symbol).getD 0)
  let all ← lengths c (literals + distances) (literals + distances + 1) []
  check (all[256]? != some 0)
  return (← code true (all.take literals), ← code true (all.drop literals))

/-- The codes of a block that brings none. -/
def fixedCodes : ExpansionM (PrefixCode × PrefixCode) :=
  return (
    ← code false (List.replicate 144 8 ++ List.replicate 112 9 ++ List.replicate 24 7 ++
      List.replicate 8 8),
    ← code false (List.replicate 32 5))

/-! ## Blocks -/

/-- The symbols of a block, of which there are at most `fuel`. -/
def symbols (kind : Kind) (literals distances : PrefixCode) : (fuel : Nat) → ExpansionM Unit
  | 0 => throw .exhausted
  | fuel + 1 => do
      let symbol ← literals.symbol
      if symbol < 256 then
        write (UInt8.ofNat symbol)
        symbols kind literals distances fuel
      else if symbol = 256 then return ()
      else
        let length ← inRange kind.lengths (symbol - 257)
        let distance ← inRange kind.distances (← distances.symbol)
        check (distance ≤ (← get).written.size)
        copy distance length
        symbols kind literals distances fuel

/-- A stored block: its length, the complement of that, and the bytes. -/
def stored : ExpansionM Unit := do
  align
  let length ← little 16
  let complement ← little 16
  check (length + complement == 0xFFFF)
  for _ in List.range length do
    write (UInt8.ofNat (← little 8))

/-- Blocks up to the last one; `fuel` bounds their number and that of the symbols in each. -/
def blocksWithin (kind : Kind) (size : Nat) : (fuel : Nat) → ExpansionM Unit
  | 0 => throw .exhausted
  | fuel + 1 => do
      let isLast ← bit
      match ← little 2 with
      | 0 => stored
      | 1 =>
          let (literals, distances) ← fixedCodes
          symbols kind literals distances size
      | 2 =>
          let (literals, distances) ← ownCodes kind
          symbols kind literals distances size
      | _ => throw .corrupt
      if isLast then return () else blocksWithin kind size fuel

end Inflate

/-- Every block and every symbol takes a bit at least, which bounds their number. -/
def inflate (kind : Inflate.Kind) (b : Bytes) : Option Bytes :=
  let bits := b.flatMap Expansion.lowFirst
  let size := bits.length + 1
  match (Inflate.blocksWithin kind size size).run.run { bits } with
  | (.error .exhausted, state) | (.ok (), state) => some state.written.toList
  | _ => none

end Reflash
