import Reflash.Archive.Basic
import Reflash.Device.Model
import Reflash.Files
import Reflash.Json.Fault
import Reflash.Text.Utf8
import Reflash.Version.Basic

/-!
# Container — firmware releases as archives

A release is published as a container: the images for all variants of a model, a manifest and the
checksums of all entries.  `Container` is what is left of one after all checks.
-/

namespace Reflash

structure Container where
  version : Version
  /-- The client version that the release asks for. -/
  client : Option Version := none
  /-- The library version that the release asks for. -/
  sdk : Option Version := none
  images : List (Variant × Bytes) := []
  deriving DecidableEq, Repr

def Container.image? (c : Container) (v : Variant) : Option Bytes :=
  c.images.lookup v

/-- Why a list of checksums cannot be read. -/
inductive ChecksumsFault where
  | notText (fault : Utf8.Fault)
  | line (text : String)
  deriving DecidableEq, Repr

def ChecksumsFault.message : ChecksumsFault → String
  | .notText fault => fault.message
  | .line text => s!"malformed line: {text}"

/-- Why an entry does not have its checksum. -/
inductive ChecksumFault where
  | unlisted
  | mismatch (expected actual : String)
  deriving DecidableEq, Repr

def ChecksumFault.message : ChecksumFault → String
  | .unlisted => "missing from sha256sums"
  | .mismatch expected actual => s!"expected {expected}, got {actual}"

inductive ContainerError where
  | unreadable (fault : FileFault)
  | notArchive
  | entry (name : String) (fault : EntryFault)
  | badChecksums (fault : ChecksumsFault)
  | badManifest (fault : Json.Fault)
  | badVariant (error : ModelError)
  | checksum (path : String) (fault : ChecksumFault)
  | modelMismatch (expected : Model) (actual : String)
  | version (error : VersionError)
  | file (path : String) (fault : FileFault)
  deriving DecidableEq, Repr

def ContainerError.message : ContainerError → String
  | .unreadable fault => s!"Malformed firmware container: i/o error: {fault.message}"
  | .notArchive => "Malformed firmware container: invalid Zip archive: no end of directory"
  | .entry name fault => s!"Malformed firmware container: {name}: {fault.message}"
  | .badChecksums fault => s!"Malformed firmware container: sha256sums: {fault.message}"
  | .badManifest fault => s!"Malformed firmware container: manifest.json: {fault.message}"
  | .badVariant error => s!"Malformed firmware container: {error.message}"
  | .checksum path fault => s!"Checksum verification failed for {path}: {fault.message}"
  | .modelMismatch expected actual =>
      s!"Expected firmware container for {expected.name}, got {actual}"
  | .version error => s!"Invalid version in firmware container: {error.message}"
  | .file path fault => s!"Failed to read firmware container {path}: {fault.message}"

/-- A directory can be opened like a file, and fails only when it is read. -/
def ContainerError.ofFile (path : String) (fault : FileFault) : ContainerError :=
  if fault = .isDirectory then .unreadable fault else .file path fault

/-- The messages of the errors that led to this one, nearest first. -/
def ContainerError.causes : ContainerError → List String
  | .version error => [error.message]
  | _ => []

end Reflash
