import Reflash.Archive.Basic
import Reflash.Crypto.Error
import Reflash.Json.Fault
import Reflash.Version.Basic
import Reflash.Wire.Fault

/-!
# Image.Error — why an image is refused

An image may fail to parse, or parse and still not be what is to be flashed: `ParseError` and
`ImageError`.
-/

namespace Reflash

/-- Parts of a package's manifest that have to be there. -/
inductive ManifestPart where
  | application
  | packet
  | binary
  deriving DecidableEq, Repr

def ManifestPart.text : ManifestPart → String
  | .application => "application"
  | .packet => "dat file for application"
  | .binary => "bin file for application"

/-- Sizes that a command has to give, by the kind of firmware it announces. -/
inductive MissingSize where
  | application
  | stack
  | bootloader
  | stackOrBootloader
  deriving DecidableEq, Repr

def MissingSize.message : MissingSize → String
  | .application =>
      "app_size is not set. It must be set when type is APPLICATION/EXTERNAL_APPLICATION"
  | .stack => "sd_size is not set. It must be set when type is SOFTDEVICE"
  | .bootloader => "bl_size is not set. It must be set when type is BOOTLOADER"
  | .stackOrBootloader =>
      "Either sd_size or bl_size is not set. Both must be set when type is SOFTDEVICE_BOOTLOADER"

inductive HeaderFault where
  | mark
  | blockOffset
  deriving DecidableEq, Repr

def HeaderFault.message : HeaderFault → String
  | .mark => "Invalid signature"
  | .blockOffset => "Invalid offset"

inductive BlockFault where
  | size
  | mark
  | headerLength
  | tableLength
  | unlistedRoot
  deriving DecidableEq, Repr

def BlockFault.message : BlockFault → String
  | .size => "Incorrect size"
  | .mark => "Incorrect signature"
  | .headerLength => "Incorrect length"
  | .tableLength => "Length of the data doesn't match Certificate Block length"
  | .unlistedRoot => "Root certificate key is not in the root key hash table"

/-- Why bytes are no image. -/
inductive ParseError where
  | notArchive
  | entry (name : String) (fault : EntryFault)
  | badManifest (fault : Json.Fault)
  | manifestLacks (part : ManifestPart)
  | badPacket (fault : Wire.Fault)
  | missingSize (missing : MissingSize)
  | missingInitCommand
  | wrongSize (expected actual : Nat)
  | wrongHash
  /-- The bytes end at `offset`, where `needed` more were expected. -/
  | truncated (offset needed : Nat)
  | header (fault : HeaderFault)
  | certificateBlock (fault : BlockFault)
  | crypto (error : CryptoError)
  /-- The signature of an image does not match. -/
  | forged
  | wrongSectionHash
  | version (error : VersionError)
  deriving DecidableEq, Repr

def ParseError.message : ParseError → String
  | .notArchive => "Invalid firmware package: invalid Zip archive: no end of directory"
  | .entry name fault => s!"Invalid firmware package: {name}: {fault.message}"
  | .badManifest fault => s!"Invalid firmware package manifest: {fault.message}"
  | .manifestLacks part => s!"Missing {part.text} in firmware package manifest"
  | .badPacket fault => s!"Failed to decode init packet: {fault.message}"
  | .missingSize missing => s!"Failed to decode init packet: {missing.message}"
  | .missingInitCommand => "The init packet does not contain an init command"
  | .wrongSize expected actual => s!"Invalid app size (expected {expected}, got {actual})"
  | .wrongHash => "Invalid hash for firmware image"
  | .truncated offset needed =>
      s!"Unexpected end of data at offset {offset} (needed {needed} more bytes)"
  | .header fault => s!"Invalid SB2.1 image header: {fault.message}"
  | .certificateBlock fault => s!"Invalid certificate block: {fault.message}"
  | .crypto error => s!"Signature verification failed: {error.message}"
  | .forged => "Verification failed"
  | .wrongSectionHash => "Invalid bootable section SHA"
  | .version error => s!"Invalid firmware version: {error.message}"

/-- The messages of the errors that led to this one, nearest first. -/
def ParseError.causes : ParseError → List String
  | .crypto error => [error.message]
  | .version error => [error.message]
  | _ => []

/-- Why an image may not be flashed. -/
inductive ImageError where
  | parse (error : ParseError)
  | versionMismatch (expected actual : Version)
  | unsigned
  | untrustedSigner (signer : String)
  deriving DecidableEq, Repr

def ImageError.message : ImageError → String
  | .parse _ => "Failed to parse firmware image"
  | .versionMismatch expected actual =>
      s!"The firmware image for the release {expected.text} has an unexpected product version "
        ++ s!"({actual.text})."
  | .unsigned => "Firmware image is not signed"
  | .untrustedSigner signer => s!"Firmware image is not signed by Nitrokey (signed by: {signer})"

def ImageError.causes : ImageError → List String
  | .parse error => error.message :: error.causes
  | _ => []

end Reflash
