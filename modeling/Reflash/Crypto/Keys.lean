import Reflash.Crypto.Error
import Reflash.Primitives
import Reflash.Version.Order

/-!
# Crypto.Keys — the keys that packages may be signed with

Keys are named, and some of them are official.  They come in sets, each of which is in force from a
start version on.
-/

namespace Reflash

structure SigningKey where
  name : String
  isOfficial : Bool
  key : P256.Key
  deriving DecidableEq, Repr

structure KeySet where
  start : Version
  keys : List SigningKey
  deriving DecidableEq, Repr

/-- Reads a key from its encoding, written in hexadecimal digits. -/
def P256.Key.ofHex (s : String) : Except CryptoError P256.Key :=
  match Hex.decode s with
  | .error fault => .error (.badHex fault)
  | .ok encoded =>
      match (KeyInfo.decode encoded).toOption.bind KeyInfo.p256? with
      | some key => .ok key
      | none => .error .badKey

/-- The hash of the uncompressed form of a key. -/
def P256.Key.fingerprint (k : P256.Key) : Bytes :=
  Sha256.digest k.point

namespace KeySet

variable (primitives : Primitives)

/-- The set in force at a version. -/
def select (sets : List KeySet) (version : Version) : Option KeySet :=
  Version.selectByStart KeySet.start sets version

/-- The last key that accepts a signature. -/
def findSigner (s : KeySet) (message signature : Bytes) : Option SigningKey :=
  s.keys.reverse.find? fun k => primitives.packageVerifies k.key message signature

end KeySet

end Reflash
