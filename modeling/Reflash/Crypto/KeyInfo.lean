import Reflash.Crypto.Der.Decoder
import Reflash.Crypto.P256
import Reflash.Crypto.Rsa

/-!
# Crypto.KeyInfo — public keys with their algorithm

A key is stored as its algorithm, with parameters, and a bit string that the algorithm knows to
read.
-/

namespace Reflash

/-- An algorithm and, if it takes any, its parameters. -/
structure Algorithm where
  id : Der.Oid
  parameters : Option Der.Element
  deriving DecidableEq, Repr

namespace Algorithm

def decoder : Der.DecoderM Algorithm :=
  Der.parts 0x30 do
    let id ← Der.field Der.oid
    let parameters ← Der.field Der.element?
    return { id, parameters }

def element (a : Algorithm) : Der.Element :=
  Der.sequence (a.id.element :: a.parameters.toList)

end Algorithm

structure KeyInfo where
  algorithm : Algorithm
  key : Der.BitString
  deriving DecidableEq, Repr

namespace KeyInfo

def decoder : Der.DecoderM KeyInfo :=
  Der.parts 0x30 do
    let algorithm ← Der.field Algorithm.decoder
    let key ← Der.bitString
    return { algorithm, key }

def element (k : KeyInfo) : Der.Element :=
  Der.sequence [k.algorithm.element, k.key.element 0x03]

/-- 1.2.840.113549.1.1.1 -/
def rsaEncryption : Der.Oid :=
  ⟨[0x2a, 0x86, 0x48, 0x86, 0xf7, 0x0d, 0x01, 0x01, 0x01]⟩

/-- 1.2.840.10045.2.1 -/
def ecPublicKey : Der.Oid :=
  ⟨[0x2a, 0x86, 0x48, 0xce, 0x3d, 0x02, 0x01]⟩

/-- 1.2.840.10045.3.1.7 -/
def prime256 : Der.Oid :=
  ⟨[0x2a, 0x86, 0x48, 0xce, 0x3d, 0x03, 0x01, 0x07]⟩

def null : Der.Element :=
  ⟨0x05, []⟩

/-- Why a key is no RSA key. -/
inductive Fault where
  | otherAlgorithm
  | noParameters
  | malformed
  | der (fault : Der.Fault)
  deriving DecidableEq, Repr

def Fault.message : Fault → String
  | .otherAlgorithm => s!"unknown/unsupported algorithm OID: {rsaEncryption.text}"
  | .noParameters => "AlgorithmIdentifier parameters missing"
  | .malformed => "SPKI cryptographic key data malformed"
  | .der fault => s!"ASN.1 error: {fault.message}"

def rsaDecoder : Der.DecoderM Rsa.Key :=
  Der.parts 0x30 do
    let modulus ← Der.field Der.unsigned
    let exponent ← Der.field Der.unsigned
    return { modulus, exponent }

/-- An RSA key has null as its parameters and holds the modulus and the exponent. -/
def rsa (k : KeyInfo) : Except Fault Rsa.Key := do
  if k.algorithm.id ≠ rsaEncryption then throw .otherAlgorithm
  match k.algorithm.parameters with
  | none => throw .noParameters
  | some parameters => if parameters ≠ null then throw .malformed
  match k.key.bytes? with
  | none => throw .malformed
  | some b =>
      let key ← (Der.decodeAll rsaDecoder b).mapError .der
      if key.Acceptable then return key else throw .malformed

def ofRsa (key : Rsa.Key) : KeyInfo where
  algorithm := ⟨rsaEncryption, some null⟩
  key := ⟨0, (Der.sequence [Der.natural key.modulus, Der.natural key.exponent]).encode⟩

/-- A key on P-256 names its curve as the parameter and holds a point. -/
def p256? (k : KeyInfo) : Option P256.Key := do
  if k.algorithm.id ≠ ecPublicKey ∨ k.algorithm.parameters ≠ some prime256.element then
    none
  else P256.Key.ofPoint? (← k.key.bytes?)

def decode (b : Bytes) : Except Der.Fault KeyInfo :=
  Der.decodeAll decoder b

end KeyInfo
end Reflash
