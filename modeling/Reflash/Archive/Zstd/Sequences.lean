import Reflash.Archive.PrefixCode
import Reflash.Archive.Zstd.States

/-!
# Archive.Zstd.Sequences — literal bytes and references in turn

A sequence is a number of literal bytes, and a reference to bytes already written: the length of
that and the distance.  Each of the three numbers has an automaton of its own, and all of them read
the same bits in turn.

* `Zstd.sequences?` — the sequences of a block.
-/

namespace Reflash
namespace Zstd

/-! ## Numbers -/

def literalRanges : Ranges :=
  Ranges.ofWidths 0 (List.replicate 16 0 ++
    [1, 1, 1, 1, 2, 2, 3, 3, 4, 6, 7, 8, 9, 10, 11, 12, 13, 14, 15, 16])

def lengthRanges : Ranges :=
  Ranges.ofWidths 3 (List.replicate 32 0 ++
    [1, 1, 1, 1, 2, 2, 3, 3, 4, 4, 5, 7, 8, 9, 10, 11, 12, 13, 14, 15, 16])

def distanceRanges : Ranges :=
  Ranges.ofWidths 1 (List.range 32)

/-- One of the three numbers of a sequence: the ranges that its symbols stand for, the greatest
number of states, and the shares that are known beforehand. -/
structure Part where
  ranges : Ranges
  logLimit : Nat
  usual : Shares

/-- Shares with so many rare symbols at the end. -/
def usualShares (log : Nat) (counts : List Nat) (rare : Nat) : Shares :=
  { log, shares := counts.map .states ++ List.replicate rare .rare }

namespace Part

def literals : Part where
  ranges := literalRanges
  logLimit := 9
  usual := usualShares 6
    [4, 3, 2, 2, 2, 2, 2, 2, 2, 2, 2, 2, 2, 1, 1, 1, 2, 2, 2, 2, 2, 2, 2, 2, 2, 3, 2, 1, 1, 1, 1, 1]
    4

def distances : Part where
  ranges := distanceRanges
  logLimit := 8
  usual := usualShares 5 [1, 1, 1, 1, 1, 1, 2, 2, 2, 1, 1, 1, 1, 1, 1, 1, 1, 1, 1, 1, 1, 1, 1, 1] 5

def lengths : Part where
  ranges := lengthRanges
  logLimit := 9
  usual := usualShares 6 ([1, 4, 3, 2, 2, 2, 2, 2, 2] ++ List.replicate 37 1) 7

/-- The automaton of a part: the usual one, one for a single symbol, a written one, or the last
one. -/
def states? (p : Part) (mode : Nat) (known : Option States) (b : Bytes) :
    Option (States × Bytes) :=
  match mode with
  | 0 => some (States.ofShares p.usual, b)
  | 1 => do
      let symbol := (← b.head?).toNat
      if symbol < p.ranges.length then some (States.constant symbol, b.tail) else none
  | 2 => do
      let (shares, b) ← Shares.read? p.logLimit p.ranges.length b
      return (States.ofShares shares, b)
  | _ => known.map (·, b)

end Part

/-- The number that a symbol and some bits stand for. -/
def inRange (ranges : Ranges) (symbol : Nat) : BitsM Nat := do
  match ranges[symbol]? with
  | some (base, width) => return base + (← big width)
  | none => failure

/-! ## Sequences -/

structure Sequence where
  literals : Nat
  length : Nat
  /-- The distance, more three; up to three it stands for one of the last distances. -/
  distance : Nat
  deriving DecidableEq, Repr

/-- The automata of all parts. -/
structure Automata where
  literals : Option States := none
  distances : Option States := none
  lengths : Option States := none

/-- The states of all automata. -/
structure Cells where
  literals : Cell
  distances : Cell
  lengths : Cell

/-- Sequences up to the last one, after which no states follow. -/
def sequencesFrom (literals distances lengths : States) (c : Cells) :
    (count : Nat) → BitsM (List Sequence)
  | 0 => return []
  | count + 1 => do
      let distance ← inRange distanceRanges c.distances.symbol
      let length ← inRange lengthRanges c.lengths.symbol
      let literalCount ← inRange literalRanges c.literals.symbol
      let s : Sequence := { literals := literalCount, length, distance }
      if count = 0 then return [s]
      let literalCell ← literals.next c.literals
      let lengthCell ← lengths.next c.lengths
      let distanceCell ← distances.next c.distances
      let c : Cells := { literals := literalCell, distances := distanceCell, lengths := lengthCell }
      return s :: (← sequencesFrom literals distances lengths c count)

/-- The number of sequences, in one byte or more. -/
def sequenceCount? (b : Bytes) : Option (Nat × Bytes) :=
  match b with
  | [] => none
  | x :: rest =>
      if x < 128 then some (x.toNat, rest)
      else if x < 255 then
        match rest with
        | y :: rest => some (256 * (x.toNat - 128) + y.toNat, rest)
        | [] => none
      else
        match rest with
        | y :: z :: rest => some (y.toNat + 256 * z.toNat + 0x7F00, rest)
        | _ => none

/-- The sequences of a block, in all bytes that there are, and the automata that are known then. -/
def sequences? (known : Automata) (b : Bytes) : Option (List Sequence × Automata) := do
  let (count, b) ← sequenceCount? b
  if count = 0 then
    if b.isEmpty then return ([], known) else none
  let modes := (← b.head?).toNat
  if modes % 4 ≠ 0 then none
  let (literals, b) ← Part.literals.states? (modes / 64) known.literals b.tail
  let (distances, b) ← Part.distances.states? (modes / 16 % 4) known.distances b
  let (lengths, b) ← Part.lengths.states? (modes / 4 % 4) known.lengths b
  let (sequences, rest) ← StateT.run (do
    let literalCell ← literals.first
    let distanceCell ← distances.first
    let lengthCell ← lengths.first
    sequencesFrom literals distances lengths
      { literals := literalCell, distances := distanceCell, lengths := lengthCell } count)
    (← backward? b)
  if !rest.isEmpty then none
  return (sequences, { literals, distances, lengths })

end Zstd
end Reflash
