import Reflash.Archive.Zstd.States

/-!
# Archive.Zstd.Literals — the literal bytes of a block

The literal bytes of a block stand as they are, or as one byte that is repeated, or in a prefix
code.  A code is given by weights: the greater the weight of a symbol, the shorter its word.

* `Zstd.literals?` — the literal bytes at the head of a block.
-/

namespace Reflash
namespace Zstd

/-! ## Codes -/

/-- For all bits that may be ahead, as many as the longest word has, the symbol and the length of
its word. -/
structure Words where
  longest : Nat
  entries : Array (Nat × Nat)

namespace Words

/-- The greatest length of a word. -/
def lengthLimit : Nat := 12

/-- The code by its weights but for the last one, which fills the code.  The words of the least
weight come first. -/
def ofWeights? (weights : List Nat) : Option Words := do
  let share (weight : Nat) : Nat := if weight = 0 then 0 else 1 <<< (weight - 1)
  let sum := weights.foldl (fun n weight => n + share weight) 0
  if sum = 0 ∨ weights.any (lengthLimit < ·) then none
  let longest := sum.log2 + 1
  let room := 1 <<< longest - sum
  if lengthLimit < longest ∨ room ≠ 1 <<< room.log2 then none
  let all := weights ++ [room.log2 + 1]
  let least := all.count 1
  if least < 2 ∨ least % 2 = 1 then none
  let entries := (List.range longest).flatMap fun n =>
    all.zipIdx.flatMap fun (weight, symbol) =>
      if weight = n + 1 then List.replicate (share weight) (symbol, longest + 1 - weight) else []
  return { longest, entries := entries.toArray }

/-- The symbol of the next word. -/
def next (w : Words) : BitsM UInt8 := do
  let bits ← get
  let ahead := bits.take w.longest ++ List.replicate (w.longest - bits.length) false
  match w.entries[ahead.foldl (fun n b => 2 * n + b.toNat) 0]? with
  | some (symbol, length) => do
      check (length ≤ bits.length)
      set (bits.drop length)
      return UInt8.ofNat symbol
  | none => failure

/-- That many symbols, in bits that are all read then. -/
def symbols? (w : Words) (count : Nat) (b : Bytes) : Option Bytes := do
  let (known, rest) ← ((List.range count).mapM fun _ => w.next).run (← backward? b)
  if rest.isEmpty then return known else none

end Words

/-! ## Weights -/

/-- Weights as symbols of two automata in turn, up to the end of the bits; `fuel` bounds their
number. -/
def weightsFrom (s : States) : (fuel : Nat) → (this other : Cell) → List Bool → Option (List Nat)
  | 0, _, _, _ => none
  | fuel + 1, this, other, bits =>
      match (s.next this).run bits with
      | some (following, rest) => (weightsFrom s fuel other following rest).map (this.symbol :: ·)
      | none =>
          if bits.length < this.width then some [this.symbol, other.symbol] else none

/-- The greatest number of weights. -/
def weightLimit : Nat := 255

/-- The code at the head of a byte string, and what follows it. -/
def words? (b : Bytes) : Option (Words × Bytes) := do
  let first ← b.head?
  let rest := b.tail
  if first < 128 then
    let size := first.toNat
    if rest.length < size then none
    let (shares, packed) ← Shares.read? 6 weightLimit (rest.take size)
    let s := States.ofShares shares
    let ((this, other), bits) ← StateT.run (do return (← s.first, ← s.first)) (← backward? packed)
    return (← Words.ofWeights? (← weightsFrom s weightLimit this other bits), rest.drop size)
  else
    let count := first.toNat - 127
    let size := (count + 1) / 2
    if rest.length < size then none
    let halves := (rest.take size).flatMap fun x => [x.toNat / 16, x.toNat % 16]
    return (← Words.ofWeights? (halves.take count), rest.drop size)

/-! ## Literal bytes -/

/-- Splits bytes off. -/
def split? (size : Nat) (b : Bytes) : Option (Bytes × Bytes) :=
  if size ≤ b.length then some (b.take size, b.drop size) else none

/-- Literal bytes in four parts, of which three tell their packed size; all of them but the last
have the same number of bytes. -/
def quartered? (w : Words) (count : Nat) (b : Bytes) : Option Bytes := do
  if b.length < 10 ∨ count < 6 then none
  let part := (count + 3) / 4
  let (sizes, b) ← split? 6 b
  let (first, b) ← split? (Bytes.littleEndian (sizes.take 2)) b
  let (second, b) ← split? (Bytes.littleEndian ((sizes.drop 2).take 2)) b
  let (third, fourth) ← split? (Bytes.littleEndian (sizes.drop 4)) b
  if count < 3 * part then none
  return (← w.symbols? part first) ++ (← w.symbols? part second) ++ (← w.symbols? part third) ++
    (← w.symbols? (count - 3 * part) fourth)

/-- The literal bytes of a block, the code that is known after them, and what follows them. -/
structure Literals where
  bytes : Bytes
  words : Option Words
  rest : Bytes

/-- Literal bytes in a code of their own or the last one. -/
def coded? (known : Option Words) (isOwn isQuartered : Bool) (count size : Nat) (b : Bytes) :
    Option Literals := do
  let (packed, rest) ← split? size b
  let (w, packed) ← if isOwn then words? packed else known.map (·, packed)
  let bytes ← if isQuartered then quartered? w count packed else w.symbols? count packed
  return { bytes, words := some w, rest }

/-- Literal bytes at the head of a block with at most `limit` bytes.  Two bits tell how they are
packed, and two more how wide their sizes are. -/
def literals? (limit : Nat) (known : Option Words) (b : Bytes) : Option Literals := do
  let first := (← b.head?).toNat
  let kind := first % 4
  let format := first / 4 % 4
  let (head, count, size) :=
    if kind < 2 then
      let head := if format = 1 then 2 else if format = 3 then 3 else 1
      let width := if head = 1 then 3 else 4
      let count := Bytes.littleEndian (b.take head) >>> width
      (head, count, if kind = 0 then count else 1)
    else
      let head := if format = 3 then 5 else if format = 2 then 4 else 3
      let width := if format = 3 then 18 else if format = 2 then 14 else 10
      let n := Bytes.littleEndian (b.take head) / 16
      (head, n % (1 <<< width), n >>> width)
  let (_, b) ← split? head b
  if limit < count then none
  match kind with
  | 0 => do
      let (bytes, rest) ← split? size b
      return { bytes, words := known, rest }
  | 1 => do
      let (bytes, rest) ← split? size b
      return { bytes := List.replicate count (bytes.headD 0), words := known, rest }
  | 2 => coded? known true (format != 0) count size b
  | _ => coded? known false (format != 0) count size b

end Zstd
end Reflash
