/-!
# Unicode.CodeSet — sets of code points

A set of code points is kept as its stretches: inclusive, in ascending order, and with a gap between
any two.

* `CodeSet.ofRuns` — a set from the text of a table;
* `CodeSet.contains` — membership, and the usual operations;
* `CodeSet.negate` — the characters outside a set, which skips the surrogates;
* `CodeSet.encodings` — the encodings of all characters of a set in UTF-8, as sequences of ranges of
  bytes.
-/

namespace Reflash
namespace Unicode

/-- The code points from `low` to `high`, both included. -/
structure Span where
  low : Nat
  high : Nat
  deriving DecidableEq, Repr

structure CodeSet where
  spans : List Span
  deriving DecidableEq, Repr

/-- The greatest code point. -/
def lastPoint : Nat := 0x10FFFF

namespace CodeSet

/-! ## Construction -/

/-- Joins a stretch with those after it, which ascend, as long as they touch it. -/
def joinFrom (a : Span) : List Span → List Span
  | [] => [a]
  | b :: rest =>
      if b.low ≤ a.high + 1 then joinFrom ⟨a.low, max a.high b.high⟩ rest else a :: joinFrom b rest

def join : List Span → CodeSet
  | [] => ⟨[]⟩
  | a :: rest => ⟨joinFrom a rest⟩

def precedes (a b : Span) : Bool :=
  decide (a.low < b.low) || (a.low == b.low && decide (a.high ≤ b.high))

def ofSpans (spans : List Span) : CodeSet :=
  join (spans.mergeSort precedes)

def ofPoints (points : List Nat) : CodeSet :=
  ofSpans (points.map fun n => ⟨n, n⟩)

def range (low high : Nat) : CodeSet :=
  if low ≤ high then ⟨[⟨low, high⟩]⟩ else ⟨[]⟩

def empty : CodeSet := ⟨[]⟩

def all : CodeSet := range 0 lastPoint

instance : EmptyCollection CodeSet := ⟨empty⟩

/-! ## Tables -/

/-- The hexadecimal numbers of a text, which blanks separate. -/
def numbers (text : String) : List Nat :=
  let step : List Nat × Option Nat → Char → List Nat × Option Nat := fun (known, open?) c =>
    if c.isWhitespace then
      match open? with
      | some n => (n :: known, none)
      | none => (known, none)
    else
      let digit := if c.isDigit then c.toNat - '0'.toNat else c.toNat - 'a'.toNat + 10
      (known, some (16 * open?.getD 0 + digit))
  (step (text.foldl step ([], none)) ' ').1.reverse

/-- Stretches from the lengths of runs, alternately outside and inside of the set. -/
def spansOfRuns (position : Nat) : List Nat → List Span
  | skipped :: size :: rest =>
      ⟨position + skipped, position + skipped + size - 1⟩ ::
        spansOfRuns (position + skipped + size) rest
  | _ => []

/-- The set whose runs a text lists: how many code points are left out, how many are taken, and so
on. -/
def ofRuns (text : String) : CodeSet :=
  ⟨spansOfRuns 0 (numbers text)⟩

/-! ## Operations -/

def containsPoint (s : CodeSet) (n : Nat) : Bool :=
  (s.spans.dropWhile (·.high < n)).head?.any (·.low ≤ n)

def contains (s : CodeSet) (c : Char) : Bool :=
  s.containsPoint c.toNat

def isEmpty (s : CodeSet) : Bool :=
  s.spans.isEmpty

def union (a b : CodeSet) : CodeSet :=
  join (a.spans.merge b.spans precedes)

/-- The common parts of two ascending lists of stretches. -/
def common : List Span → List Span → List Span
  | [], _ => []
  | _, [] => []
  | a :: as, b :: bs =>
      let low := max a.low b.low
      let high := min a.high b.high
      let rest := if a.high < b.high then common as (b :: bs) else common (a :: as) bs
      if low ≤ high then ⟨low, high⟩ :: rest else rest
  termination_by a b => a.length + b.length

def inter (a b : CodeSet) : CodeSet :=
  ⟨common a.spans b.spans⟩

/-- The character after a code point; no character is a surrogate. -/
def next (n : Nat) : Nat :=
  if n = 0xD7FF then 0xE000 else n + 1

def previous (n : Nat) : Nat :=
  if n = 0xE000 then 0xD7FF else n - 1

/-- What lies between the stretches from `a` on, and after the last of them.  Between two stretches
that only surrogates separate there is no character, and their gap ends before it begins. -/
def gapsAfter (a : Span) : List Span → List Span
  | [] => if a.high < lastPoint then [⟨next a.high, lastPoint⟩] else []
  | b :: rest => ⟨next a.high, previous b.low⟩ :: gapsAfter b rest

def gaps : List Span → List Span
  | [] => [⟨0, lastPoint⟩]
  | a :: rest =>
      if 0 < a.low then ⟨0, previous a.low⟩ :: gapsAfter a rest else gapsAfter a rest

def compl (s : CodeSet) : CodeSet :=
  ⟨(gaps s.spans).filter fun gap => gap.low ≤ gap.high⟩

/-- The characters outside of a set.  A gap that ends before it begins is read backwards. -/
def negate (s : CodeSet) : CodeSet :=
  ⟨(gaps s.spans).map fun gap => ⟨min gap.low gap.high, max gap.low gap.high⟩⟩

def diff (a b : CodeSet) : CodeSet :=
  a.inter b.compl

instance : Union CodeSet := ⟨union⟩

instance : Inter CodeSet := ⟨inter⟩

instance : SDiff CodeSet := ⟨diff⟩

/-- What is in exactly one of two sets. -/
def symmDiff (a b : CodeSet) : CodeSet :=
  (a ∪ b) \ (a ∩ b)

end CodeSet

/-! ## Encodings -/

/-- Where a stretch is divided: where encodings get longer, and else where the bytes after some
byte do not run through all of their values. -/
def divisions (low high : Nat) : List Nat :=
  [0x80, 0x800, 0x10000] ++
    if high < 0x80 then []
    else [0x40, 0x1000, 0x40000].flatMap fun block =>
      [(low + block - 1) / block * block, (high + 1) / block * block]

/-- The bytes of the code points at both ends of a stretch. -/
def byteSpans (low high : Nat) : List Span :=
  List.zipWith (fun a b => ⟨a.toNat, b.toNat⟩) (String.utf8EncodeChar (Char.ofNat low))
    (String.utf8EncodeChar (Char.ofNat high))

/-- The encodings of the characters of a stretch, in ascending order. -/
def encodingsOf (low high : Nat) : List (List Span) :=
  if _h : high < low then []
  else if _hs : low < 0xE000 ∧ 0xD7FF < high then
    encodingsOf low 0xD7FF ++ encodingsOf 0xE000 high
  else
    match _hm : (divisions low high).find? fun n => decide (low < n ∧ n ≤ high) with
    | some n =>
        have := List.find?_some _hm
        encodingsOf low (n - 1) ++ encodingsOf n high
    | none => [byteSpans low high]
  termination_by high + 1 - low
  decreasing_by all_goals simp_all; omega

def CodeSet.encodings (s : CodeSet) : List (List Span) :=
  s.spans.flatMap fun a => encodingsOf a.low a.high

end Unicode
end Reflash
