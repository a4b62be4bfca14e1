import Reflash.Archive.Expansion

/-!
# Archive.PrefixCode — prefix codes from the lengths of their words

The words of a code are numbered in order of length, and those of one length in the order of their
symbols; so the lengths alone tell the code.  Symbols may stand for ranges of numbers, and bits
after a symbol tell which number of its range is meant.

* `Ranges.ofWidths` — consecutive ranges of given sizes;
* `PrefixCode.ofLengths` — the code with words of those lengths;
* `PrefixCode.symbol` — the symbol of the next word.
-/

namespace Reflash

/-- For each symbol the least number, and how many bits there are to add to it. -/
abbrev Ranges := List (Nat × Nat)

/-- Consecutive ranges from `base` on, with those numbers of bits. -/
def Ranges.ofWidths : (base : Nat) → List Nat → Ranges
  | _, [] => []
  | base, width :: widths => (base, width) :: Ranges.ofWidths (base + 1 <<< width) widths

/-- How many words there are of each length from one on, and the symbols in the order of their
words. -/
structure PrefixCode where
  counts : List Nat
  symbols : Array Nat

namespace PrefixCode

open Expansion

/-- The code that gives each symbol a word of the listed length; length zero leaves a symbol out. -/
def ofLengths (lengths : List Nat) : PrefixCode :=
  let longest := lengths.foldl max 0
  let symbols := (List.range longest).flatMap fun n =>
    lengths.zipIdx.filterMap fun (length, symbol) => if length = n + 1 then some symbol else none
  { counts := (List.range (max 1 longest)).map fun n => lengths.count (n + 1)
    symbols := symbols.toArray }

/-- The unused share of the code space, in words of the greatest length, unless there are more words
than there is space for. -/
def spare? (c : PrefixCode) : Option Nat :=
  c.counts.foldlM (fun room count => if count ≤ 2 * room then some (2 * room - count) else none) 1

/-- Reads a word bit by bit: `word` are its bits so far, `first` is the first word of this length
and `index` the place of its symbol. -/
def symbolFrom (symbols : Array Nat) (word first index : Nat) : List Nat → ExpansionM Nat
  | [] => throw .corrupt
  | count :: longer => do
      let word := 2 * word + (← bit).toNat
      if word < first + count then require symbols[index + (word - first)]?
      else symbolFrom symbols word (2 * (first + count)) (index + count) longer

def symbol (c : PrefixCode) : ExpansionM Nat :=
  symbolFrom c.symbols 0 0 0 c.counts

end PrefixCode
end Reflash
