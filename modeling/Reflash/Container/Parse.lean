import Reflash.Container.Checksums
import Reflash.Primitives
import Reflash.Version.Text

/-!
# Container.Parse — reading and checking containers

An entry of a container counts only if it has the checksum listed for it, and the manifest is no
exception.  It has to be for the model asked for, and names the entry of each image.

* `Container.parse` — the container in a byte string, for a model.
-/

namespace Reflash

namespace Container

variable (primitives : Primitives)

def manifestName : String := "manifest.json"

def checksumsName : String := "sha256sums"

def entry (archive : Archive) (name : String) : Except ContainerError Bytes :=
  match archive name with
  | .ok data => .ok data
  | .error fault => .error (.entry name fault)

/-- An entry that has the checksum listed for it. -/
def checkedEntry (archive : Archive) (checksums : Checksums) (name : String) :
    Except ContainerError Bytes := do
  let data ← entry archive name
  checksums.check primitives.hash name data
  return data

def readChecksums (archive : Archive) : Except ContainerError Checksums := do
  match Checksums.parse (← entry archive checksumsName) with
  | .ok checksums => return checksums
  | .error fault => throw (.badChecksums fault)

def readManifest (archive : Archive) (checksums : Checksums) :
    Except ContainerError ContainerManifest := do
  let data ← checkedEntry primitives archive checksums manifestName
  match primitives.containerManifest data with
  | .ok manifest => return manifest
  | .error fault => throw (.badManifest fault)

def checkModel (model : Model) (device : String) : Except ContainerError Unit :=
  match Model.ofText device with
  | .ok m => if m = model then .ok () else .error (.modelMismatch model device)
  | .error _ => .error (.modelMismatch model device)

def readVersion (text : String) : Except ContainerError Version :=
  match Version.parseTagged text with
  | .ok v => .ok v
  | .error e => .error (.version e)

def readImage (archive : Archive) (checksums : Checksums) (image : String × String) :
    Except ContainerError (Variant × Bytes) := do
  let data ← checkedEntry primitives archive checksums image.2
  match Variant.ofText image.1 with
  | .ok v => return (v, data)
  | .error e => throw (.badVariant e)

def ofArchive (archive : Archive) (model : Model) : Except ContainerError Container := do
  let checksums ← readChecksums archive
  let manifest ← readManifest primitives archive checksums
  checkModel model manifest.device
  return {
    version := ← readVersion manifest.version
    client := ← manifest.client.mapM readVersion
    sdk := ← manifest.sdk.mapM readVersion
    images := ← manifest.images.mapM (readImage primitives archive checksums) }

def parse (data : Bytes) (model : Model) : Except ContainerError Container :=
  match primitives.archive? data with
  | some archive => ofArchive primitives archive model
  | none => .error .notArchive

end Container
end Reflash
