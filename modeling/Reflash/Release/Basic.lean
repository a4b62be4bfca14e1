import Reflash.Device.Model
import Reflash.Primitives
import Reflash.Version.Text

/-!
# Release — published releases and their files

A release has a tag and the addresses of its files, its assets.  The asset for a model is the only
one in whose address the pattern of the model occurs.
-/

namespace Reflash

inductive ReleaseError where
  | notFound (tag : String)
  | noAssets (tag : String)
  | noMatch (tag pattern : String)
  | ambiguous (tag pattern : String)
  | badPattern (pattern : String)
  /-- The look-up or the download of a file fails. -/
  | transfer (reason : String)
  | exists (path : String)
  | file (reason : String)
  deriving DecidableEq, Repr

def ReleaseError.message : ReleaseError → String
  | .notFound tag => s!"Failed to find firmware release {tag}"
  | .noAssets tag => s!"No update files for firmware release {tag}"
  | .noMatch tag pattern => s!"Failed to find asset for release {tag} matching {pattern}"
  | .ambiguous tag pattern => s!"Found multiple assets for release {tag} matching {pattern}"
  | .badPattern pattern => s!"Invalid asset pattern {pattern}: malformed pattern"
  | .transfer reason => s!"Cannot download firmware: {reason}"
  | .exists path => s!"File {path} already exists and may not be overwritten"
  | .file reason => s!"I/O error: {reason}"

/-- A file of a release. -/
structure Asset where
  tag : String
  url : String
  deriving DecidableEq, Repr

namespace Asset

/-- The last part of a path, after the last slash. -/
def lastPart (path : List Char) : List Char :=
  (path.reverse.takeWhile (· ≠ '/')).reverse

/-- The last part of the address, without a query and a fragment. -/
def fileName? (a : Asset) : Option String :=
  let name := lastPart (a.url.toList.takeWhile fun c => c ≠ '?' ∧ c ≠ '#')
  if name = [] then none else some (String.ofList name)

end Asset

structure Release where
  tag : String
  assets : List String
  deriving DecidableEq, Repr

namespace Release

/-- Refuses a release without assets. -/
def make (tag : String) (assets : List String) : Except ReleaseError Release :=
  if assets = [] then .error (.noAssets tag) else .ok ⟨tag, assets⟩

def version (r : Release) : Except VersionError Version :=
  Version.parseTagged r.tag

variable (primitives : Primitives)

/-- The only asset that a pattern occurs in, if any does. -/
def findAsset (r : Release) (pattern : String) : Except ReleaseError (Option Asset) :=
  match primitives.pattern? pattern with
  | none => .error (.badPattern pattern)
  | some occurs =>
      match r.assets.filter occurs with
      | [] => .ok none
      | [url] => .ok (some ⟨r.tag, url⟩)
      | _ => .error (.ambiguous r.tag pattern)

def requireAsset (r : Release) (pattern : String) : Except ReleaseError Asset := do
  match ← findAsset primitives r pattern with
  | some asset => return asset
  | none => throw (.noMatch r.tag pattern)

end Release

namespace Model

/-- The owner of the repositories of all models. -/
def repositoryOwner : String := "Nitrokey"

/-- The repository in which the firmware of a model is released. -/
def repositoryName : Model → String
  | .nk3 => "nitrokey-3-firmware"
  | .nkpk => "nitrokey-passkey-firmware"

/-- The pattern of the addresses of a model's containers. -/
def assetPattern : Model → String
  | .nk3 => "firmware-nk3-v.*\\.zip$"
  | .nkpk => "firmware-nkpk-v.*\\.zip$"

end Model
end Reflash
