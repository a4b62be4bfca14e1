import Reflash.Archive.Zip
import Reflash.Container.Manifest
import Reflash.Crypto.Certificate
import Reflash.Dfu.Packet
import Reflash.Hash.Sha256
import Reflash.Image.Manifest
import Reflash.Pattern.Parser

/-!
# Primitives — the standards that firmware formats build on

Containers, packages and images are accepted by rules over a few standards: a hash, signatures,
certificates, archives, manifests, messages and patterns.  The rules take these as a parameter, so
that what they promise is seen to hold whatever a primitive does.

* `Primitives.standard` — the primitives that firmware is really made with.
-/

namespace Reflash

structure Primitives where
  hash : Bytes → Bytes
  certificate : Bytes → Except Der.Fault Certificate
  /-- The key of a certificate, if it is of the kind that signs images. -/
  certificateKey : Certificate → Except KeyInfo.Fault Rsa.Key
  /-- Whether a key accepts a signature over a message. -/
  certificateVerifies : Rsa.Key → (message signature : Bytes) → Bool
  packageVerifies : P256.Key → (message signature : Bytes) → Bool
  archive? : Bytes → Option Archive
  containerManifest : Bytes → Except Json.Fault ContainerManifest
  packageManifest : Bytes → Except Json.Fault PackageManifest
  packet? : Bytes → Option Dfu.Packet
  /-- The texts in which a pattern occurs. -/
  pattern? : String → Option (String → Bool)

def Primitives.standard : Primitives where
  hash := Sha256.digest
  certificate := Certificate.decode
  certificateKey c := c.keyInfo.rsa
  certificateVerifies := Rsa.Key.verifies
  packageVerifies := P256.Key.verifies
  archive? := Zip.read?
  containerManifest := ContainerManifest.decode
  packageManifest := PackageManifest.decode
  packet? := Dfu.Packet.ofBytes?
  pattern? s := (Pattern.parse? s).map Pattern.occursIn

end Reflash
