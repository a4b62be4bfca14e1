import Reflash.Update.Config
import Reflash.Update.Migration
import Reflash.Update.Question

/-!
# Update.Policy — the checks that an update has to pass

* `Update.compareVersions` — no downgrades, and what counts as the same version;
* `Update.raise` — warnings stop an update unless they are ignored;
* `Update.checkRequirements` — the versions that a release asks for;
* `Update.checkMigrations` — what the operator has to know about migrations.
-/

namespace Reflash
namespace Update

/-- Refuses an older version.  A version that is already installed is returned, as far as it is
known. -/
def compareVersions (current : Option Version) (new : Version) :
    Except UpdateError (Option Version) :=
  match current with
  | none => .ok none
  | some current =>
      if new.core < current.core then .error (.downgrade current new)
      else if ¬ current.Level new then .ok none
      else if current.complete && new.complete then .ok (some current)
      else .ok (some current.core)

def checkVersion (current : Option Version) (new : Version) : StepM Unit := do
  match ← ExceptT.mk (pure (compareVersions current new)) with
  | some same => confirm (.sameVersion same)
  | none => return ()

def raise (config : UpdateConfig) (w : Warning) : StepM Unit := do
  if config.ignores w then tell (.warning w) else throw (.warning w)

/-- The client version that this library keeps up with. -/
def clientVersion : Version :=
  { major := 0, minor := 4, patch := 49 }

/-- A release that asks for a library version does not ask for a client version. -/
def checkRequirements (container : Container) (config : UpdateConfig) : StepM Unit :=
  match container.sdk, container.client with
  | some sdk, _ => if config.sdkVersion < sdk then raise config .sdkVersion else return ()
  | none, some required =>
      if clientVersion < required then
        if config.ignoreClientVersion then confirm (.clientVersion clientVersion required)
        else throw (.outdatedClient required clientVersion)
      else return ()
  | none, none => return ()

/-- The blocks that the second migration needs in the internal file system. -/
def migrationBlocks : Nat := 5

def lacksSpace (status : Option Status) : Bool :=
  (status.bind (·.ifsBlocks)).any (· < migrationBlocks)

/-- Shows the notes on all migrations, and warns if there is no room for one. -/
def checkMigrations (config : UpdateConfig) (model : Model) (variant : Variant)
    (current : Option Version) (new : Version) (status : Option Status) : StepM Migrations := do
  let migrations := Migrations.of model variant current new
  confirm (.notes migrations.notes)
  if migrations.fileSystemV2 ∧ lacksSpace status then raise config .fileSystemV2
  return migrations

end Update
end Reflash
