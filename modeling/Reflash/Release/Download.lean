import Reflash.Files
import Reflash.Update.Question

/-!
# Release.Download — downloading an asset into a directory

Nothing is downloaded before it is clear where the file goes, and nothing is written unless the
download succeeds.
-/

namespace Reflash
namespace Download

open Update (Question)

/-- Downloads with the files that they change. -/
abbrev DownloadM : Type → Type :=
  ExceptT ReleaseError (StateT Files (Dialogue Question.Answer))

def ask (q : Question) : DownloadM q.Answer :=
  ExceptT.lift (StateT.lift (Dialogue.query q))

/-- The path that an asset would be written to. -/
def targetPath (files : Files) (asset : Asset) (directory : String) (mayReplace : Bool) :
    Except ReleaseError String :=
  match files directory with
  | none => .error (.transfer s!"Directory {directory} does not exist")
  | some (.file _) => .error (.transfer s!"{directory} is not a directory")
  | some .directory =>
      match asset.fileName? with
      | none => .error (.transfer s!"No file name in URL {asset.url}")
      | some name =>
          let path := Files.join directory name
          if (files path).isSome ∧ !mayReplace then .error (.exists path) else .ok path

def fetch (asset : Asset) : DownloadM Bytes := do
  let (progress, result) ← ask (.download asset)
  progress.forM fun (current, total) => ask (.tell (.barProgress .download current total))
  match result with
  | .ok data => return data
  | .error e => throw e

/-- Downloads an asset, and gives the path of its file. -/
def toDirectory (asset : Asset) (directory : String) (mayReplace : Bool) : DownloadM String := do
  let path ← ExceptT.mk (pure (targetPath (← get) asset directory mayReplace))
  let data ← fetch asset
  match (← get).write path data with
  | .ok files =>
      set files
      return path
  | .error fault => throw (.file s!"{path}: {fault.message}")

/-- The release with a tag, or the latest one. -/
def findRelease (tag : Option String) : DownloadM Release :=
  match tag with
  | some tag => ask (.release tag) >>= liftExcept
  | none => ask .latestRelease >>= liftExcept
where
  liftExcept (result : Except ReleaseError Release) : DownloadM Release :=
    match result with
    | .ok release => return release
    | .error e => throw e

end Download
end Reflash
