import Reflash.Image.Package
import Reflash.Image.Sb2
import Reflash.Image.Trust
import Reflash.Version.Order

/-!
# Image.Validate — whether an image may be flashed

An image may be flashed as part of a release if it parses, has the core version of the release and
is officially signed.
-/

namespace Reflash
namespace Image

variable (primitives : Primitives)

def parse (variant : Variant) (data : Bytes) (anchors : TrustAnchors) :
    Except ParseError ImageInfo :=
  match variant with
  | .lpc55 => Sb2.info primitives data anchors.rootTableHash
  | .nrf52 => Package.info primitives data anchors.keySets

/-- Whether an image with that content may be flashed as that release. -/
def accept (release : Version) (info : ImageInfo) : Except ImageError ImageInfo :=
  if ¬ release.core.Level info.version then .error (.versionMismatch release info.version)
  else match info.signer with
    | none => .error .unsigned
    | some signer => if info.isOfficial then .ok info else .error (.untrustedSigner signer)

def validate (variant : Variant) (data : Bytes) (release : Version) (anchors : TrustAnchors) :
    Except ImageError ImageInfo :=
  match parse primitives variant data anchors with
  | .ok info => accept release info
  | .error e => .error (.parse e)

end Image
end Reflash
