import Reflash.Crypto.Keys
import Reflash.Device.Model

/-!
# Image.Trust — whose firmware a model runs, and what is learnt from an image

Every model ships with the keys that its packages may be signed with, and the hash of the table of
root keys for images with certificates, if it has any.
-/

namespace Reflash

/-- The version of an image, the name of its signer, and whether that one may sign releases. -/
structure ImageInfo where
  version : Version
  signer : Option String
  isOfficial : Bool
  deriving DecidableEq, Repr

/-- What makes firmware trusted. -/
structure TrustAnchors where
  keySets : List KeySet := []
  rootTableHash : Option Bytes := none
  deriving DecidableEq, Repr

namespace Model

/-- The official key and the test key of a model, by their points. -/
def signingKeys : Model → List (String × Bool × Nat × Nat)
  | .nk3 =>
      [("Nitrokey", true,
          0xa0849b19007ccd4661c01c533804b7fd0c4d8c0e7583653f1f36a8331afff298,
          0xb542bd00a3dc47c16bf428ac4d2864137d63f702d89e5b42674e0549b4232618),
        ("Nitrokey Test", false,
          0x93e461ab0582bda1f45b0ce47d66bc4e8623e289c31af2098cde6ebd8631da85,
          0xacf17e412d406c1e38c2de654a8fd0196506a85b169a756aeac2505a541cdd5d)]
  | .nkpk =>
      [("Nitrokey", true,
          0x45121cdf7a10826faa58c8cbe7bb1a40fe71c85c7756324eac09610d4710e9da,
          0xdd473c0c9d35838b5cce301e796b2e14a8c29c86f0eb15f36325096506e275e6),
        ("Nitrokey Test", false,
          0xd9a355a2927bd6ecb7ed714294d4692ad31ae9dd21853bf99e2cf7182d1acd6c,
          0x2ada4a9707ab43f9e6194480d94e477dce4de9be5c35119c714bac459b21cbdc)]

/-- The keys are in force for all versions. -/
def keySet (m : Model) : KeySet where
  start := { major := 0, minor := 0, patch := 0 }
  keys := m.signingKeys.map fun (name, isOfficial, x, y) => ⟨name, isOfficial, ⟨x, y⟩⟩

def rootTableHash? : Model → Option Bytes
  | .nk3 => some (Bytes.ofBig 32
      0x050aad3e77791a81e59c5b2ba5a158937e9460ee325d8ccba09734b8fdebb171)
  | .nkpk => none

def anchors (m : Model) : TrustAnchors where
  keySets := [m.keySet]
  rootTableHash := m.rootTableHash?

end Model
end Reflash
