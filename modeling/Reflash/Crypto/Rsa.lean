import Reflash.Crypto.Modular
import Reflash.Hash.Sha256

/-!
# Crypto.Rsa — RSA signatures with PKCS #1 v1.5 padding over SHA-256
-/

namespace Reflash
namespace Rsa

structure Key where
  modulus : Nat
  exponent : Nat
  deriving DecidableEq, Repr

/-- The number of bits of a number. -/
def bitLength (n : Nat) : Nat :=
  if n = 0 then 0 else n.log2 + 1

namespace Key

/-- Moduli are odd and have at most 4096 bits; exponents are odd, from three to below `2 ^ 33`, and
less than the modulus. -/
def Acceptable (k : Key) : Prop :=
  bitLength k.modulus ≤ 4096 ∧ k.modulus % 2 = 1 ∧ k.exponent % 2 = 1 ∧ 2 ≤ k.exponent
    ∧ k.exponent < 0x200000000 ∧ k.exponent < k.modulus

instance (k : Key) : Decidable k.Acceptable :=
  inferInstanceAs (Decidable (_ ∧ _))

/-- The length of the modulus, and of every signature, in bytes. -/
def size (k : Key) : Nat :=
  (bitLength k.modulus + 7) / 8

end Key

/-- What precedes a SHA-256 digest in a signature: its algorithm and its length. -/
def digestInfo : Bytes :=
  [0x30, 0x31, 0x30, 0x0d, 0x06, 0x09, 0x60, 0x86, 0x48, 0x01, 0x65, 0x03, 0x04, 0x02, 0x01, 0x05,
    0x00, 0x04, 0x20]

/-- The padded digest that a signature of `size` bytes hides; `size` is at least 62. -/
def encoded (size : Nat) (message : Bytes) : Bytes :=
  let info := digestInfo ++ Sha256.digest message
  0x00 :: 0x01 :: List.replicate (size - 3 - info.length) 0xFF ++ 0x00 :: info

def Key.verifies (k : Key) (message signature : Bytes) : Bool :=
  let s := Bytes.bigEndian signature
  62 ≤ k.size && signature.length == k.size && decide (s < k.modulus)
    && Bytes.ofBig k.size (Modular.pow s k.exponent k.modulus) == encoded k.size message

/-- Signs with the private exponent that belongs to a key. -/
def Key.sign (k : Key) (privateExponent : Nat) (message : Bytes) : Bytes :=
  Bytes.ofBig k.size
    (Modular.pow (Bytes.bigEndian (encoded k.size message)) privateExponent k.modulus)

/-- The modulus and the exponent as numbers without leading zeros, one after the other. -/
def Key.export (k : Key) : Bytes :=
  minimal k.modulus ++ minimal k.exponent
where
  minimal (n : Nat) : Bytes := Bytes.ofBig ((bitLength n + 7) / 8) n

end Rsa
end Reflash
