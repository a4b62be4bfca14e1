import Reflash.Crypto.KeyInfo
import Reflash.Severity
import Reflash.Text.Hex
import Reflash.Text.Quoted

/-!
# Crypto.Error — failures of keys and certificates
-/

namespace Reflash

inductive CryptoError where
  /-- A key is not written in hexadecimal digits. -/
  | badHex (fault : Hex.Fault)
  /-- Bytes are no public key of a known kind. -/
  | badKey
  | oldCertificate (index : Nat)
  | notSelfSigned
  /-- A certificate does not verify under the key of the one before it. -/
  | brokenChain (index : Nat)
  | emptyChain
  /-- The key of a certificate is of another kind. -/
  | unsupportedKey (fault : KeyInfo.Fault)
  | unsupportedAlgorithm (id : Der.Oid)
  | badCertificate (fault : Der.Fault)
  deriving DecidableEq, Repr

def Hex.Fault.message : Hex.Fault → String
  | .oddLength => "Odd number of digits"
  | .badDigit byte position =>
      s!"Invalid character {Text.quotedSingle (Char.ofNat byte.toNat)} at position {position}"

def CryptoError.message : CryptoError → String
  | .badHex fault => s!"Key format error: Hex decode error: {fault.message}"
  | .badKey => "Key format error: no public key"
  | .oldCertificate index =>
      s!"Invalid certificate: certificate {index} is not an X.509 v3 certificate"
  | .notSelfSigned => "Invalid certificate: root certificate is not self-signed"
  | .brokenChain index => s!"Certificate {index} is not signed by its parent"
  | .emptyChain => "Empty certificate chain"
  | .unsupportedKey fault => s!"Unsupported algorithm: certificate key: {fault.message}"
  | .unsupportedAlgorithm id => s!"Unsupported algorithm: {id.text}"
  | .badCertificate fault => s!"DER error: {fault.message}"

end Reflash
