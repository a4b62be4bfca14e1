import Reflash.Device.Status
import Reflash.Document.Field
import Reflash.Image.Trust
import Reflash.Version.Text

/-!
# Document.Value — versions, models and keys as documents

A version is described by its text or by a number that encodes it, and shown with all its parts.
-/

namespace Reflash

/-! ## Writing -/

open Json (nat object option list)

def Version.document (v : Version) : Json :=
  object [("text", .text v.text), ("major", nat v.major), ("minor", nat v.minor),
    ("patch", nat v.patch), ("pre", option .text v.pre), ("build", option .text v.build),
    ("complete", .bool v.complete)]

def Variant.document (v : Variant) : Json :=
  .text v.text

def Mode.document : Mode → Json
  | .firmware => .text "device"
  | .bootloader v => object [("bootloader", v.document)]

def InitStatus.document (s : InitStatus) : Json :=
  object [("bits", nat s.bits.toNat), ("text", .text s.text)]

def Status.document (s : Status) : Json :=
  object [("init_status", option InitStatus.document s.init),
    ("ifs_blocks", option nat s.ifsBlocks),
    ("efs_blocks", option nat s.efsBlocks),
    ("variant", option (fun p : Platform => .text p.text) s.platform)]

def ImageInfo.document (i : ImageInfo) : Json :=
  object [("version", i.version.document), ("signed_by", option .text i.signer),
    ("signed_by_nitrokey", .bool i.isOfficial)]

def SigningKey.document (k : SigningKey) : Json :=
  object [("name", .text k.name), ("official", .bool k.isOfficial)]

namespace Document

/-! ## Reading -/

def lift {ε α : Type} (wrap : ε → DocumentError) (r : Except ε α) : Except DocumentError α :=
  r.mapError wrap

/-- The core of a version, or all of it if it is given as a text. -/
def versionCore (j : Json) : Except DocumentError Version := do
  if let some numbers := present? j "new" then
    match ← list number numbers with
    | [major, minor, patch] => return { major, minor, patch }
    | _ => throw .malformed
  if let some packed := present? j "packed" then
    return .ofPacked (UInt32.ofNat (← number packed))
  if let some words := present? j "bcd" then
    match ← list word words with
    | [major, minor, patch] => return ← lift .version (Version.ofBcd major minor patch)
    | _ => throw .malformed
  lift .version (Version.parse (← field text j "parse"))

def version : Reader Version :=
  fun j => do
    if let some s := j.text? then return ← lift .version (Version.parseEither s)
    let core ← versionCore j
    let pre ← field? text j "pre"
    let build ← field? text j "build"
    return { core with
      pre := pre.or core.pre
      build := build.or core.build
      complete := core.complete || isSet j "complete" }

def model : Reader Model :=
  fun j => do lift .model (Model.ofText (← text j))

def variant : Reader Variant :=
  fun j => do lift .model (Variant.ofText (← text j))

def usbId : Reader UsbId :=
  fun j => do
    let (vendor, product) ← pair word j
    return ⟨vendor, product⟩

def uuid : Reader Uuid :=
  fun j => return .ofBytes (← bytes j)

def key (j : Json) : Except DocumentError P256.Key := do
  lift .crypto (P256.Key.ofHex (← text j))

def signingKey : Reader SigningKey :=
  fun j => do
    let name ← field text j "name"
    return ⟨name, isSet j "official", ← field key j "der"⟩

def keySet : Reader KeySet :=
  fun j => do
    let keys ← fieldList signingKey j "keys"
    return ⟨← field version j "start", keys⟩

def anchors : Reader TrustAnchors :=
  fun j => return ⟨← fieldList keySet j "key_sets", ← field? bytes j "rkth"⟩

def deviceError : Reader DeviceError :=
  fun j => do
    match ← field text j "kind" with
    | "not_found" => return .notFound (← field text j "device")
    | "disconnected" => return .disconnected (← field text j "device")
    | "communication" =>
        return .communication (← field text j "device") (← field text j "message")
    | "ctap" => return .rejected (← field text j "command") ⟨← field byte j "code"⟩
    | "invalid_response" =>
        return .wrongLength (← field text j "command") (← field number j "expected")
          (← field number j "actual")
    | "malformed" => return .malformed (← field text j "command") (← field text j "message")
    | "timeout" => return .timeout (← field text j "device") (← field number j "timeout_ms")
    | "confirmation_timeout" => return .unconfirmed
    | "unsupported" => return .unsupported (← field word j "vid") (← field word j "pid")
    | _ => throw .malformed

end Document
end Reflash
