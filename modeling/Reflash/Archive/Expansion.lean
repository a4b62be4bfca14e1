import Reflash.Bytes

/-!
# Archive.Expansion — reading bits and writing bytes

Packed data are read as bits, and expanded to bytes one after the other.  What has been written can
be repeated.

* `ExpansionM` — expansions, which may stop before they are over.
-/

namespace Reflash
namespace Expansion

/-- What ends an expansion before it is over. -/
inductive Stop where
  /-- The data end early. -/
  | exhausted
  /-- The data break a rule of their format. -/
  | corrupt
  /-- The data do not begin as their format demands. -/
  | unmarked
  /-- The data would expand to more than they should. -/
  | unfinished
  deriving DecidableEq, Repr

/-- The bits ahead, and the bytes written so far. -/
structure State where
  bits : List Bool
  written : Array UInt8 := #[]

end Expansion

abbrev ExpansionM : Type → Type :=
  ExceptT Expansion.Stop (StateM Expansion.State)

namespace Expansion

/-! ## Bits -/

/-- The bits of a byte, lowest first. -/
def lowFirst (b : UInt8) : List Bool :=
  (List.range 8).map b.toNat.testBit

/-- The bits of a byte, highest first. -/
def highFirst (b : UInt8) : List Bool :=
  (lowFirst b).reverse

def bit : ExpansionM Bool := do
  match (← get).bits with
  | [] => throw .exhausted
  | b :: rest =>
      modify fun s => { s with bits := rest }
      return b

/-- A number of that many bits, lowest first. -/
def little : (width : Nat) → ExpansionM Nat
  | 0 => return 0
  | width + 1 => do
      let low ← bit
      return low.toNat + 2 * (← little width)

/-- A number of that many bits, highest first. -/
def big (width : Nat) : ExpansionM Nat :=
  (List.range width).foldlM (fun n _ => return 2 * n + (← bit).toNat) 0

/-- Skips the rest of a byte of which some bits have been read. -/
def align : ExpansionM Unit :=
  modify fun s => { s with bits := s.bits.drop (s.bits.length % 8) }

/-! ## Bytes -/

def write (b : UInt8) : ExpansionM Unit :=
  modify fun s => { s with written := s.written.push b }

/-- Writes the bytes again that stand `distance` back. -/
def copy (distance : Nat) : (length : Nat) → ExpansionM Unit
  | 0 => return ()
  | length + 1 => do
      let s ← get
      match s.written[s.written.size - distance]? with
      | some b => write b
      | none => throw .corrupt
      copy distance length

/-- Insists on a value. -/
def require {α : Type} (value : Option α) : ExpansionM α :=
  match value with
  | some a => return a
  | none => throw .corrupt

/-- Insists on a rule. -/
def check (rule : Bool) : ExpansionM Unit :=
  if rule then return () else throw .corrupt

end Expansion
end Reflash
