import Reflash.Crypto.Error
import Reflash.Primitives

/-!
# Crypto.Chain — chains of certificates

The first certificate of a chain, the root, is signed with its own key, and each further one with
the key of the one before it.  Images are signed with the key of the last one, the leaf.

* `Chain.verify` — the check of a chain;
* `Chain.accepts` — the check of a signature under the leaf.
-/

namespace Reflash

structure Chain where
  root : Certificate
  others : List Certificate
  deriving DecidableEq, Repr

namespace Chain

variable (primitives : Primitives)

def certificates (c : Chain) : List Certificate :=
  c.root :: c.others

def leaf (c : Chain) : Certificate :=
  c.certificates.getLast (List.cons_ne_nil _ _)

/-- Decodes all certificates before it looks at the chain they make. -/
def decode (encoded : List Bytes) : Except CryptoError Chain :=
  match encoded.mapM primitives.certificate with
  | .error fault => .error (.badCertificate fault)
  | .ok [] => .error .emptyChain
  | .ok (root :: others) => .ok ⟨root, others⟩

/-! ## Keys and signatures -/

/-- 1.2.840.113549.1.1.11, RSA signatures over SHA-256. -/
def signatureAlgorithm : Der.Oid :=
  ⟨[0x2a, 0x86, 0x48, 0x86, 0xf7, 0x0d, 0x01, 0x01, 0x0b]⟩

def key (c : Certificate) : Except CryptoError Rsa.Key :=
  (primitives.certificateKey c).mapError .unsupportedKey

/-- Whether a certificate carries a signature of its issuer. -/
def isSignedBy (c issuer : Certificate) : Except CryptoError Bool := do
  let k ← key primitives issuer
  if c.algorithm.id = signatureAlgorithm then
    return primitives.certificateVerifies k c.signedBytes c.signature.bytes
  else throw (.unsupportedAlgorithm c.algorithm.id)

/-! ## Verification -/

/-- The third version of certificates, the first one with extensions, is numbered two. -/
def isCurrent (c : Certificate) : Bool :=
  c.version == 2

/-- Refuses the first certificate of an older version. -/
def checkVersions (certificates : List Certificate) : Except CryptoError Unit :=
  match certificates.findIdx? (!isCurrent ·) with
  | some index => .error (.oldCertificate index)
  | none => .ok ()

/-- Checks the certificates that follow `parent`, the first of which is number `index`. -/
def checkLinks (parent : Certificate) (index : Nat) :
    List Certificate → Except CryptoError Unit
  | [] => return ()
  | c :: rest => do
      if ← isSignedBy primitives c parent then checkLinks c (index + 1) rest
      else throw (.brokenChain index)

def verify (c : Chain) : Except CryptoError Unit := do
  checkVersions c.certificates
  if ← isSignedBy primitives c.root c.root then checkLinks primitives c.root 1 c.others
  else throw .notSelfSigned

/-- Whether the key of the leaf accepts a signature. -/
def accepts (c : Chain) (message signature : Bytes) : Except CryptoError Bool := do
  return primitives.certificateVerifies (← key primitives c.leaf) message signature

/-- The length of the root's own signature, which is that of an image, too. -/
def signatureLength (c : Chain) : Nat :=
  c.root.signature.bytes.length

/-- The hash of the root's key, by which it is listed among the trusted ones. -/
def rootKeyHash (c : Chain) : Except CryptoError Bytes := do
  return primitives.hash (← key primitives c.root).export

end Chain
end Reflash
