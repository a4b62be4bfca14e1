import Reflash.Archive.Lzma

/-!
# Archive.Lzma.Chunks — packed data in chunks

Data of unknown size are packed in chunks, each of which tells its sizes.  A chunk may hold its
bytes as they are.  What a chunk has in memory is there for the next one, unless that resets it.

* `Lzma.Chunks.expand` — the bytes of all chunks, and what follows them.
-/

namespace Reflash
namespace Lzma

open RangeCode
open Expansion (Stop)

/-- What is kept from one chunk to the next: memory and chances, and what the next one must
reset. -/
structure Chunks where
  memory : Memory := {}
  settings : Settings
  chances : Array UInt32 := #[]
  mustForget : Bool := true
  mustSet : Bool := true

/-- What chunks can get wrong. -/
inductive ChunkFault where
  | stopped (stop : Stop)
  | notForgotten
  | notSet
  | unknown
  | settings
  | contexts
  | short
  deriving DecidableEq, Repr

def ChunkFault.message : ChunkFault → String
  | .stopped .exhausted => "failed to fill whole buffer"
  | .stopped .corrupt => "dist overflow"
  | .stopped .unmarked => "first byte is 0"
  | .stopped .unfinished => "rc not finished or lz has pending"
  | .notForgotten => "corrupted input data (LZMA2:0)"
  | .notSet => "corrupted input data (LZMA2:1)"
  | .unknown => "corrupted input data (LZMA2:2)"
  | .settings => "corrupted input data (LZMA2:3)"
  | .contexts => "corrupted input data (LZMA2:4)"
  | .short => "buffer len must >= 5"

namespace Chunks

def require {α : Type} (value : Option α) : Except ChunkFault α :=
  match value with
  | some a => .ok a
  | none => .error (.stopped .exhausted)

/-- A number of two bytes, one more than written. -/
def size? (b : Bytes) : Option (Nat × Bytes) :=
  match b with
  | high :: low :: rest => some (256 * high.toNat + low.toNat + 1, rest)
  | _ => none

/-- Forgets what has been written. -/
def forget (c : Chunks) : Chunks :=
  { c with
    memory := { c.memory with origin := c.memory.written.size }
    mustForget := false
    mustSet := true }

/-- New settings; with them all chances are even again. -/
def set (c : Chunks) (settings : Settings) : Chunks :=
  { c with
    settings
    chances := settings.chances
    memory := { c.memory with phase := 0, recent := (0, 0, 0, 0) }
    mustSet := false }

/-- Even chances for the same settings. -/
def reset (c : Chunks) : Chunks :=
  { c with
    chances := c.settings.chances
    memory := { c.memory with phase := 0, recent := (0, 0, 0, 0) } }

/-- The settings at the head of a chunk. -/
def newSettings? (reach : Nat) (b : Bytes) : Except ChunkFault (Settings × Bytes) := do
  match b with
  | [] => throw (.stopped .exhausted)
  | first :: rest =>
      match Settings.ofByte? first reach with
      | none => throw .settings
      | some s => if s.context + s.literal ≤ 4 then return (s, rest) else throw .contexts

/-- Bytes as they are. -/
def plain (c : Chunks) (b : Bytes) : Except ChunkFault (Chunks × Bytes) := do
  let (size, rest) ← require (size? b)
  if rest.length < size then throw (.stopped .exhausted)
  let written := c.memory.written ++ rest.take size
  return ({ c with memory := { c.memory with written } }, rest.drop size)

/-- A byte is added to the packed ones, which tells whether more has been read than there is. -/
def packed (c : Chunks) (size : Nat) (b : Bytes) : Except ChunkFault Chunks := do
  if b.length < 5 then throw .short
  let start ← (start? (b ++ [1]) c.chances).mapError .stopped
  let (m, s) := (advance c.settings (c.memory.written.size + size) size c.memory).run.run start
  let memory ← m.mapError .stopped
  if s.ahead.length = 1 ∧ s.place = 0 then return { c with memory, chances := s.chances }
  else throw (.stopped .unfinished)

/-- A chunk that is not the last one, after the byte that tells its kind. -/
def next (c : Chunks) (kind : Nat) (b : Bytes) : Except ChunkFault (Chunks × Bytes) := do
  let forgets := decide (kind = 1 ∨ 0xE0 ≤ kind)
  if c.mustForget ∧ !forgets then throw .notForgotten
  let c := if forgets then c.forget else c
  if kind < 0x80 then
    if 2 < kind then throw .unknown
    c.plain b
  else
    let (low, b) ← require (size? b)
    let (packedSize, b) ← require (size? b)
    let (c, b) ←
      if 0xC0 ≤ kind then do
        let (settings, b) ← newSettings? c.settings.reach b
        pure (c.set settings, b)
      else if c.mustSet then throw .notSet
      else pure (if 0xA0 ≤ kind then c.reset else c, b)
    if b.length < packedSize then throw (.stopped .exhausted)
    return (← c.packed (65536 * (kind % 32) + low) (b.take packedSize), b.drop packedSize)

/-- All chunks; `fuel` bounds their number. -/
def expandWithin (c : Chunks) : (fuel : Nat) → Bytes → Except ChunkFault (Bytes × Bytes)
  | 0, _ | _, [] => .error (.stopped .exhausted)
  | fuel + 1, kind :: rest => do
      if kind = 0 then return (c.memory.written.toList, rest)
      let (c, rest) ← c.next kind.toNat rest
      c.expandWithin fuel rest

def expand (reach : Nat) (b : Bytes) : Except ChunkFault (Bytes × Bytes) :=
  let settings : Settings := { context := 0, literal := 0, position := 0, reach }
  ({ settings } : Chunks).expandWithin (b.length + 1) b

end Chunks
end Lzma
end Reflash
