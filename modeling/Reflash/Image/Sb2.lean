import Reflash.Image.Trust
import Reflash.Image.Sb2.CertificateBlock
import Reflash.Image.Sb2.Header
import Reflash.Text.Hex

/-!
# Image.Sb2 — signed images for the LPC55

The signed part of an image is its header, a hash and a key blob, which are of no interest here, the
certificate block at offset 208 and, if a flag says so, the hash of the boot sections.  The
signature over all of this follows, and then the boot sections, which are encrypted.
-/

namespace Reflash

namespace Sb2

variable (primitives : Primitives)

structure Image where
  header : Header
  block : CertificateBlock
  deriving DecidableEq, Repr

namespace Image

/-- Where the certificate block starts: after the header, its hash and the key blob. -/
def blockOffset : Nat := 96 + 32 + 80

/-- The hash of the boot sections, if the image has one. -/
def readSectionHash (header : Header) : ReadM (Option Bytes) := do
  if header.hasSectionHash then return some (← Cursor.read 32) else return none

/-- Checks the signature over all that has been read. -/
def checkSignature (chain : Chain) : ReadM Unit := do
  let signed := (← get).passed
  let signature ← Cursor.read chain.signatureLength
  if !(← CertificateBlock.liftCrypto (chain.accepts primitives signed signature)) then throw .forged

/-- Checks the hash of all that follows. -/
def checkSections (hash : Option Bytes) : ReadM Unit := do
  match hash with
  | some hash => if hash ≠ primitives.hash (← get).ahead then throw .wrongSectionHash
  | none => return ()

/-- Passes the parts of an image after the certificate block. -/
def checkRest (header : Header) (block : CertificateBlock) : ReadM Unit := do
  Cursor.skip blockOffset
  Cursor.skip block.paddedSize
  let hash ← readSectionHash header
  checkSignature primitives block.chain
  checkSections primitives hash

def parse (data : Bytes) : Except ParseError Image := do
  let header ← Header.parse data
  if header.certificateOffset.toNat ≠ blockOffset then throw (.header .blockOffset)
  let _ ← Cursor.runOn (Cursor.skip blockOffset) data
  let block ← CertificateBlock.parse primitives (data.drop blockOffset)
  Cursor.runOn (checkRest primitives header block) data
  return ⟨header, block⟩

end Image

/-- An image is official if its table of root keys is the trusted one. -/
def info (data : Bytes) (trusted : Option Bytes) : Except ParseError ImageInfo := do
  let image ← Image.parse primitives data
  let version ← match image.header.product.version with
    | .ok v => pure v
    | .error e => throw (.version e)
  let hash := image.block.rootTableHash primitives
  let isOfficial := trusted == some hash
  return {
    version
    signer := some (if isOfficial then "Nitrokey" else s!"unknown issuer (RKTH: {Hex.encode hash})")
    isOfficial }

end Sb2
end Reflash
