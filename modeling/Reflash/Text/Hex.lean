import Reflash.Bytes

/-!
# Hex — bytes as pairs of hexadecimal digits

Writing is in lower case; reading takes both cases and says which of the two ways a text can fail:
an odd number of digits, looked for first, or the first byte that is no digit.
-/

namespace Reflash
namespace Hex

def digit (n : Nat) : Char :=
  if n < 10 then Char.ofNat ('0'.toNat + n) else Char.ofNat ('a'.toNat + (n - 10))

def digit? (b : UInt8) : Option Nat :=
  if 0x30 ≤ b ∧ b ≤ 0x39 then some (b.toNat - 0x30)
  else if 0x61 ≤ b ∧ b ≤ 0x66 then some (b.toNat - 0x61 + 10)
  else if 0x41 ≤ b ∧ b ≤ 0x46 then some (b.toNat - 0x41 + 10)
  else none

def encode (b : Bytes) : String :=
  String.ofList (b.flatMap fun x => [digit (x.toNat / 16), digit (x.toNat % 16)])

/-- The lowest `width` hexadecimal digits of a number. -/
def padded : (width n : Nat) → List Char
  | 0, _ => []
  | width + 1, n => padded width (n / 16) ++ [digit (n % 16)]

inductive Fault where
  | oddLength
  | badDigit (byte : UInt8) (position : Nat)
  deriving DecidableEq, Repr

/-- Reads pairs of digits; `position` counts the bytes already read. -/
def pairs (position : Nat) : Bytes → Except Fault Bytes
  | a :: b :: rest => do
      let some high := digit? a | throw (.badDigit a position)
      let some low := digit? b | throw (.badDigit b (position + 1))
      return UInt8.ofNat (16 * high + low) :: (← pairs (position + 2) rest)
  | _ => return []

/-- Reads the UTF-8 bytes of a text as hexadecimal digits. -/
def decode (s : String) : Except Fault Bytes :=
  let b := Bytes.ofText s
  if b.length % 2 = 1 then .error .oddLength else pairs 0 b

def decode? (s : String) : Option Bytes :=
  (decode s).toOption

end Hex
end Reflash
