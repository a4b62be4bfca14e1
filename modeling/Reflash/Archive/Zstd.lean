import Reflash.Archive.Zstd.Literals
import Reflash.Archive.Zstd.Sequences
import Reflash.Hash.Checksum

/-!
# Archive.Zstd — frames of packed blocks

Packed data are frames, of which some are to be skipped.  A frame is a header, blocks and a
checksum; a block holds bytes as they are, or one byte that is repeated, or literal bytes with
references to bytes written before.

* `Zstd.expand` — the bytes of all frames.
-/

namespace Reflash
namespace Zstd

/-- What is wrong with packed data. -/
inductive Fault where
  | exhausted
  | mark
  | parameter
  | window
  | dictionary
  | corrupt
  | checksum
  deriving DecidableEq, Repr

def Fault.message : Fault → String
  | .exhausted => "incomplete frame"
  | .mark => "Unknown frame descriptor"
  | .parameter => "Unsupported frame parameter"
  | .window => "Frame requires too much memory for decoding"
  | .dictionary => "Dictionary mismatch"
  | .corrupt => "Data corruption detected"
  | .checksum => "Restored data doesn't match checksum"

/-- Insists on a value. -/
def demand {α : Type} (fault : Fault) (value : Option α) : Except Fault α :=
  match value with
  | some a => .ok a
  | none => .error fault

/-! ## References -/

/-- What has been written in a frame, the last three distances, and what is known from the blocks
before. -/
structure Memory where
  written : Array UInt8 := #[]
  recent : Nat × Nat × Nat := (1, 4, 8)
  words : Option Words := none
  automata : Automata := {}

/-- The distance that a number stands for, and the last three distances then.  After no literal
bytes the last distance is none of them, but the one less than it is. -/
def Memory.distance (m : Memory) (s : Sequence) : Nat × Nat × Nat × Nat :=
  let (a, b, c) := m.recent
  match if s.literals = 0 ∧ s.distance ≤ 3 then s.distance + 1 else s.distance with
  | 1 => (a, a, b, c)
  | 2 => (b, b, a, c)
  | 3 => (c, c, a, b)
  | n =>
      if s.distance ≤ 3 then (a - 1, a - 1, a, b) else (n - 3, n - 3, a, b)

/-- Writes that many bytes again. -/
def copy (distance : Nat) : (count : Nat) → Array UInt8 → Array UInt8
  | 0, written => written
  | count + 1, written =>
      let b := (written[written.size - distance]?).getD 0
      copy distance count (written.push b)

/-- Writes literal bytes and what sequences refer to. -/
def Memory.execute? (m : Memory) : List Sequence → Bytes → Option Memory
  | [], literals => some { m with written := m.written ++ literals }
  | s :: later, literals =>
      if literals.length < s.literals then none
      else
        let (distance, recent) := m.distance s
        let written := m.written ++ literals.take s.literals
        if distance = 0 ∨ written.size < distance then none
        else
          Memory.execute? { m with recent, written := copy distance s.length written } later
            (literals.drop s.literals)

/-! ## Blocks -/

/-- A packed block with at most `limit` bytes. -/
def Memory.block? (m : Memory) (limit : Nat) (b : Bytes) : Option Memory := do
  if b.length < 2 then none
  let literals ← literals? limit m.words b
  let (sequences, automata) ← sequences? m.automata literals.rest
  let before := m.written.size
  let m ← { m with words := literals.words, automata : Memory }.execute? sequences literals.bytes
  if limit < m.written.size - before then none
  return m

/-- Blocks up to the last one; `fuel` bounds their number. -/
def blocks (limit : Nat) : (fuel : Nat) → Memory → Bytes → Except Fault (Array UInt8 × Bytes)
  | 0, _, _ => .error .exhausted
  | fuel + 1, m, b => do
      let (head, b) ← demand .exhausted (split? 3 b)
      let n := Bytes.littleEndian head
      let size := n / 8
      let kind := n / 2 % 4
      if kind = 3 ∨ (kind ≠ 1 ∧ limit < size) then throw .corrupt
      let (body, b) ← demand .exhausted (split? (if kind = 1 then 1 else size) b)
      if limit < size then throw .corrupt
      let m ←
        match kind with
        | 0 => pure { m with written := m.written ++ body }
        | 1 => pure { m with written := m.written ++ List.replicate size (body.headD 0) }
        | _ => demand .corrupt (m.block? limit body)
      if n % 2 = 1 then return (m.written, b) else blocks limit fuel m b

/-! ## Frames -/

/-- The greatest window, and the greatest number of bytes in a block. -/
def windowLimit : Nat := 0x8000001
def blockLimit : Nat := 0x20000

/-- A window as a power of two from ten on and eighths of it. -/
def window (n : Nat) : Nat :=
  (8 + n % 8) <<< (7 + n / 8)

/-- A frame, behind its mark. -/
def frame (b : Bytes) : Except Fault (Bytes × Bytes) := do
  let (head, b) ← demand .exhausted (split? 1 b)
  let flags := Bytes.littleEndian head
  let isSingle := flags.testBit 5
  if flags.testBit 3 then throw .parameter
  let (window?, b) ←
    if isSingle then pure (none, b)
    else do
      let (w, b) ← demand .exhausted (split? 1 b)
      pure (some (window (Bytes.littleEndian w)), b)
  let (dictionary, b) ← demand .exhausted (split? ([0, 1, 2, 4].getD (flags % 4) 0) b)
  let sizeKind := flags / 64
  let sizeWidth := if sizeKind = 0 then (if isSingle then 1 else 0) else 1 <<< sizeKind
  let (sizeBytes, b) ← demand .exhausted (split? sizeWidth b)
  let noted := Bytes.littleEndian sizeBytes + if sizeKind = 1 then 256 else 0
  let w := window?.getD noted
  if Bytes.littleEndian dictionary ≠ 0 then throw .dictionary
  if windowLimit < w then throw .window
  let (written, b) ← blocks (min w blockLimit) (b.length + 1) {} b
  let data := written.toList
  if sizeWidth ≠ 0 ∧ data.length ≠ noted then throw .corrupt
  if flags.testBit 2 then
    let (sum, b) ← demand .exhausted (split? 4 b)
    if (xxHash64 data).toNat % 0x100000000 = Bytes.littleEndian sum then return (data, b)
    else throw .checksum
  else return (data, b)

/-- Whether bytes may begin a frame, or a part that is to be skipped. -/
def mayBegin (b : Bytes) : Bool :=
  (b.take 4).isPrefixOf [0x28, 0xB5, 0x2F, 0xFD] ||
    (match b with
      | x :: rest => x / 16 == 5 && (rest.take 3).isPrefixOf [0x2A, 0x4D, 0x18]
      | [] => true)

/-- All frames; `fuel` bounds their number. -/
def frames : (fuel : Nat) → Bytes → Except Fault Bytes
  | 0, _ => .error .exhausted
  | fuel + 1, b => do
      if !mayBegin b then throw .mark
      let (mark, rest) ← demand .exhausted (split? 4 b)
      let (data, rest) ←
        if Bytes.littleEndian mark = 0xFD2FB528 then frame rest
        else do
          let (size, rest) ← demand .exhausted (split? 4 rest)
          let (_, rest) ← demand .exhausted (split? (Bytes.littleEndian size) rest)
          pure ([], rest)
      if rest.isEmpty then return data else return data ++ (← frames fuel rest)

def expand (b : Bytes) : Except Fault Bytes :=
  frames (b.length + 1) b

end Zstd
end Reflash
