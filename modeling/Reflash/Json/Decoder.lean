import Reflash.Json.Fault

/-!
# Json.Decoder — reading documents byte by byte

A decoder takes bytes from the front of a document.  Where it fails, it either notes the place
itself, or leaves it to the value around it, whose end is the place then.

* `Json.Decoder.decode` — reads a whole document.
-/

namespace Reflash
namespace Json

/-- The bytes ahead, and how many there were before them. -/
structure Input where
  passed : Nat
  ahead : Bytes

/-- Why a decoder stops; the place is a number of bytes. -/
structure Stop where
  cause : Cause
  place : Option Nat := none

abbrev Decoder : Type → Type :=
  ExceptT Stop (StateM Input)

namespace Decoder

/-! ## Failing -/

/-- Fails at what has been read. -/
def failBehind {α : Type} (cause : Cause) : Decoder α := do
  throw ⟨cause, some (← get).passed⟩

/-- Fails at the next byte, if there is one. -/
def failAt {α : Type} (cause : Cause) : Decoder α := do
  let input ← get
  throw ⟨cause, some (input.passed + (input.ahead.take 1).length)⟩

/-! ## Taking bytes -/

def peek : Decoder (Option UInt8) := do
  return (← get).ahead.head?

/-- Passes some bytes, as far as there are that many. -/
def pass (n : Nat) : Decoder Unit :=
  modify fun input => ⟨input.passed + (input.ahead.take n).length, input.ahead.drop n⟩

def next : Decoder (Option UInt8) := do
  let b ← peek
  pass 1
  return b

def isBlank (b : UInt8) : Bool :=
  b == 0x20 || b == 0x0A || b == 0x0D || b == 0x09

/-- Passes blanks and looks at what follows them. -/
def peekVisible : Decoder (Option UInt8) := do
  pass ((← get).ahead.takeWhile isBlank).length
  peek

/-- Takes the bytes in front that satisfy a test. -/
def takeAll (p : UInt8 → Bool) : Decoder Bytes := do
  let taken := (← get).ahead.takeWhile p
  pass taken.length
  return taken

/-- Takes the rest of a word. -/
def word : Bytes → Decoder Unit
  | [] => return ()
  | expected :: rest => do
      match ← next with
      | none => failBehind .endInValue
      | some b => if b = expected then word rest else failBehind .badWord

/-! ## Repetition -/

/-- Repeats a step up to a result, at most `fuel` times. -/
def repeatWithin {σ α : Type} (step : σ → Decoder (σ ⊕ α)) : (fuel : Nat) → σ → Decoder α
  | 0, _ => failBehind .endInValue
  | fuel + 1, s => do
      match ← step s with
      | .inl s => repeatWithin step fuel s
      | .inr a => return a

/-- Repeats a step that takes a byte at least, unless it is the last one. -/
def repeatFrom {σ α : Type} (s : σ) (step : σ → Decoder (σ ⊕ α)) : Decoder α := do
  repeatWithin step ((← get).ahead.length + 1) s

/-! ## Values -/

/-- Reads a value up to its end.  The end is taken after a failure, too, as it is the place of the
failure if that has none. -/
def enclosed {α : Type} (body : Decoder α) (close : Decoder Unit) : Decoder α := do
  match ← observing body with
  | .ok a => do
      close
      return a
  | .error stop => do
      discard (observing close)
      throw { stop with place := stop.place.or (some (← get).passed) }

/-- Nothing but blanks may follow a document. -/
def finish : Decoder Unit := do
  if (← peekVisible).isSome then failAt .trailingCharacters

def decode {α : Type} (decoder : Decoder α) (document : Bytes) : Except Fault α :=
  let (result, input) := ((do
    let value ← decoder
    finish
    return value : Decoder α).run.run ⟨0, document⟩)
  result.mapError fun stop =>
    .behind document (stop.place.getD input.passed) stop.cause

end Decoder
end Json
end Reflash
