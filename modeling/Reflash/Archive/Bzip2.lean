import Reflash.Archive.Bzip2.Scatter
import Reflash.Archive.PrefixCode

/-!
# Archive.Bzip2 — expanding data packed by sorting

A block of bytes is packed in four steps: a fifth equal byte in a row and those after it are
counted; the rotations of the block are sorted, of which the last column is kept; the bytes of that
are replaced by the places where they stand in a list of those used last; and these places, with the
repetitions of the first one as numbers, are written in prefix codes.  Expansion takes the steps
back.

* `Bzip2.expand` — the expansion.
-/

namespace Reflash
namespace Bzip2

open Expansion

/-! ## Checksums -/

/-- Divides one more bit by the polynomial. -/
def divide (c : UInt32) : UInt32 :=
  if c &&& 0x80000000 = 0 then c <<< 1 else (c <<< 1) ^^^ 0x04C11DB7

def checksumByte (c : UInt32) (x : UInt8) : UInt32 :=
  (List.range 8).foldl (fun c _ => divide c) (c ^^^ (x.toUInt32 <<< 24))

def checksum (b : Bytes) : UInt32 :=
  b.foldl checksumByte 0xFFFFFFFF ^^^ 0xFFFFFFFF

/-- The checksum of all blocks, when one more is over. -/
def combine (all block : UInt32) : UInt32 :=
  ((all <<< 1) ||| (all >>> 31)) ^^^ block

/-! ## Repetitions -/

/-- Takes back the counting of equal bytes: after four of them a byte tells how many more follow.
`run` of the byte `last` have just been written. -/
def unfoldRuns (last : UInt8) (run : Nat) (written : Array UInt8) : Bytes → Option (Array UInt8)
  | [] => if run < 4 then some written else none
  | x :: rest =>
      if run = 4 then unfoldRuns last 0 (written ++ List.replicate x.toNat last) rest
      else unfoldRuns x (if x = last ∧ 0 < run then run + 1 else 1) (written.push x) rest

/-! ## Sorted rotations -/

/-- The block whose sorted rotations have `column` as their last column; `origin` is the place of
the block among them. -/
def unsort (origin : Nat) (column : Array UInt8) : Bytes :=
  let next := (column.toList.zipIdx.mergeSort (fun a b => a.1 ≤ b.1)).toArray
  let step (place : Nat) : UInt8 × Nat := next[place]?.getD (0, 0)
  ((List.range column.size).foldl
    (fun (b, place) _ => (b.push (step place).1, (step place).2))
    ((#[] : Array UInt8), origin)).1.toList

/-! ## Places -/

/-- The last column from the symbols of a block.  The bytes are those of `front`, the one used last
at the head; two symbols are digits of the number of times that this one is repeated, of which
`weight` is the next and `run` the sum so far. -/
def column? (limit : Nat) (front : Bytes) (run weight : Nat) (column : Array UInt8) :
    List Nat → Option (Array UInt8)
  | [] => repeated? column
  | symbol :: rest =>
      if symbol < 2 then
        if weight < 0x200000 then
          column? limit front (run + (symbol + 1) * weight) (2 * weight) column rest
        else none
      else do
        let column ← repeated? column
        let x ← front[symbol - 1]?
        if column.size < limit then
          column? limit (x :: front.eraseIdx (symbol - 1)) 0 1 (column.push x) rest
        else none
where
  repeated? (column : Array UInt8) : Option (Array UInt8) :=
    if limit < column.size + run then none
    else some (column ++ List.replicate run (front.headD 0))

/-! ## Codes -/

/-- The bytes of a block: sixteen bits tell which sixteens of them there are. -/
def alphabet : ExpansionM Bytes := do
  let sixteens ← (List.range 16).mapM fun n => return (n, ← bit)
  let flags ← (sixteens.filter (·.2)).mapM fun (n, _) =>
    (List.range 16).mapM fun k => return (16 * n + k, ← bit)
  return (flags.flatten.filter (·.2)).map fun (n, _) => UInt8.ofNat n

/-- The number of ones before the next zero, which is below a bound. -/
def unary : (bound : Nat) → ExpansionM Nat
  | 0 => throw .corrupt
  | bound + 1 => do
      if ← bit then return 1 + (← unary bound) else return 0

/-- The length of a word, from that of the word before; `fuel` bounds the number of steps. -/
def wordLength : (fuel length : Nat) → ExpansionM Nat
  | 0, _ => throw .exhausted
  | fuel + 1, length => do
      check (1 ≤ length && length ≤ 20)
      if ← bit then wordLength fuel (if ← bit then length - 1 else length + 1)
      else return length

/-- The lengths of all words of a code. -/
def wordLengths (fuel : Nat) : (count length : Nat) → ExpansionM (List Nat)
  | 0, _ => return []
  | count + 1, length => do
      let length ← wordLength fuel length
      return length :: (← wordLengths fuel count length)

/-- The codes in the order of their use, from the places where they stand in a list of those used
last. -/
def selected? (codes : List PrefixCode) : List Nat → Option (List PrefixCode)
  | [] => some []
  | place :: places => do
      let c ← codes[place]?
      return c :: (← selected? (c :: codes.eraseIdx place) places)

/-! ## Symbols -/

/-- Adds the symbols of one code, of which there are at most fifty; the result tells whether the
symbol that ends a block was among them. -/
def symbolsOf (c : PrefixCode) (ending : Nat) :
    (left : Nat) → Array Nat → ExpansionM (Array Nat × Bool)
  | 0, known => return (known, false)
  | left + 1, known => do
      let symbol ← c.symbol
      if symbol = ending then return (known, true) else symbolsOf c ending left (known.push symbol)

/-- The symbols of a block. -/
def symbols (ending : Nat) : List PrefixCode → Array Nat → ExpansionM (Array Nat)
  | [], _ => throw .corrupt
  | c :: codes, known => do
      let (known, isOver) ← symbolsOf c ending 50 known
      if isOver then return known else symbols ending codes known

/-! ## Blocks -/

/-- The greatest number of codes that can be selected in a block. -/
def selectionLimit : Nat := 18002

/-- Writes a block of at most `limit` bytes and gives its checksum. -/
def block (limit fuel : Nat) : ExpansionM UInt32 := do
  let noted ← big 32
  let isScattered ← bit
  let origin ← big 24
  check (origin ≤ limit + 10)
  let bytes ← alphabet
  check (!bytes.isEmpty)
  let count ← big 3
  check (2 ≤ count && count ≤ 6)
  let selections ← big 15
  check (selections != 0)
  let places ← (List.range selections).mapM fun _ => unary count
  let codes ← (List.range count).mapM fun _ => do
    return PrefixCode.ofLengths (← wordLengths fuel (bytes.length + 2) (← big 5))
  let order ← require (selected? codes (places.take selectionLimit))
  let known ← symbols (bytes.length + 1) order #[]
  let column ← require (column? limit bytes 0 1 #[] known.toList)
  check (origin < column.size)
  let sorted := unsort origin column
  let data ← require (unfoldRuns 0 0 #[] (if isScattered then scatter sorted else sorted))
  check ((checksum data.toList).toNat == noted)
  modify fun s => { s with written := s.written ++ data }
  return UInt32.ofNat noted

/-- Insists on bytes, one after the other. -/
def expect (stop : Stop) (b : Bytes) : ExpansionM Unit := do
  for x in b do
    if (← big 8) ≠ x.toNat then throw stop

/-- Blocks up to the end, with the checksum of all; `fuel` bounds their number. -/
def blocks (limit size : Nat) : (fuel : Nat) → UInt32 → ExpansionM Unit
  | 0, _ => throw .exhausted
  | fuel + 1, all => do
      let mark ← big 8
      check (mark == 0x31 || mark == 0x17)
      if mark = 0x31 then
        expect .corrupt [0x41, 0x59, 0x26, 0x53, 0x59]
        blocks limit size fuel (combine all (← block limit size))
      else
        expect .corrupt [0x72, 0x45, 0x38, 0x50, 0x90]
        check ((← big 32) == all.toNat)

/-- Packed data: a mark, a digit for the size of blocks, and the blocks. -/
def stream (size : Nat) : ExpansionM Unit := do
  expect .unmarked (Bytes.ofText "BZh")
  let digit ← big 8
  if digit < 0x31 ∨ 0x39 < digit then throw .unmarked
  blocks (100000 * (digit - 0x30)) size size 0

/-- Expands the packed data at the head of a byte string.  Every step takes a bit at least, which
bounds their number. -/
def expand (b : Bytes) : Except Stop Bytes :=
  let bits := b.flatMap highFirst
  match (stream (bits.length + 1)).run.run { bits } with
  | (.ok (), state) => .ok state.written.toList
  | (.error stop, _) => .error stop

/-! ## Messages -/

def message : Stop → String
  | .exhausted => "decompression not finished but EOF reached"
  | .unmarked => "bzip2: bz2 header missing"
  | .corrupt | .unfinished => "bzip2: invalid data"

end Bzip2
end Reflash
