import Reflash.Archive.Bzip2
import Reflash.Archive.Inflate
import Reflash.Archive.Lzma
import Reflash.Archive.Xz
import Reflash.Archive.Zstd

/-!
# Archive.Packing — how the bytes of an entry are packed

* `Packing.ofNumber?` — the packing that a number stands for;
* `Packing.expand` — the bytes of an entry.
-/

namespace Reflash

inductive Packing where
  | stored
  | deflated
  | deflatedWide
  | bzip2
  | lzma
  | xz
  | zstd
  deriving DecidableEq, Repr

namespace Packing

def ofNumber? : Nat → Option Packing
  | 0 => some .stored
  | 8 => some .deflated
  | 9 => some .deflatedWide
  | 12 => some .bzip2
  | 14 => some .lzma
  | 95 => some .xz
  | 93 => some .zstd
  | _ => none

/-- Expands the bytes of an entry of that size; the error is a message. -/
def expand (p : Packing) (size : Nat) (packed : Bytes) : Except String Bytes :=
  match p with
  | .stored => .ok packed
  | .deflated => orElse "corrupt deflate stream" (inflate .usual packed)
  | .deflatedWide => orElse "invalid deflate64" (inflate .wide packed)
  | .bzip2 => (Bzip2.expand packed).mapError Bzip2.message
  | .lzma => (Lzma.expand size packed).mapError Lzma.Fault.message
  | .xz => (Xz.expand packed).mapError Xz.Fault.message
  | .zstd => (Zstd.expand packed).mapError Zstd.Fault.message
where
  orElse (message : String) (b : Option Bytes) : Except String Bytes :=
    match b with
    | some b => .ok b
    | none => .error message

end Packing
end Reflash
