import Reflash.Device.Model
import Reflash.Version.Order

/-!
# Update.Migration — file system migrations

Some releases migrate the internal file system when they boot for the first time.  Which migrations
an update brings about follows from the model, the variant and the two versions.
-/

namespace Reflash

inductive Migration where
  | nrfFileSystem
  | fileSystemV2
  deriving DecidableEq, Repr

/-- A set of migrations. -/
structure Migrations where
  nrfFileSystem : Bool := false
  fileSystemV2 : Bool := false
  deriving DecidableEq, Repr

namespace Migration

def all : List Migration :=
  [.nrfFileSystem, .fileSystemV2]

def text : Migration → String
  | .nrfFileSystem => "nrf-ifs-migration"
  | .fileSystemV2 => "ifs-migration-v2"

/-- How often a device that migrates is waited for. -/
def retries : Migration → Nat
  | .nrfFileSystem => 500
  | .fileSystemV2 => 60

end Migration

namespace Migrations

def contains (s : Migrations) : Migration → Bool
  | .nrfFileSystem => s.nrfFileSystem
  | .fileSystemV2 => s.fileSystemV2

def ofList (list : List Migration) : Migrations where
  nrfFileSystem := list.contains .nrfFileSystem
  fileSystemV2 := list.contains .fileSystemV2

def toList (s : Migrations) : List Migration :=
  Migration.all.filter s.contains

def union (s t : Migrations) : Migrations where
  nrfFileSystem := s.nrfFileSystem || t.nrfFileSystem
  fileSystemV2 := s.fileSystemV2 || t.fileSystemV2

/-- A version known by its core only. -/
def coreVersion (major minor patch : Nat) : Version :=
  { major, minor, patch }

/-- Whether an update passes from a version up to `last` to one from `next` on. -/
def crosses (last next current new : Version) : Bool :=
  decide (current ≤ last) && decide (next ≤ new)

/-- The migrations of an update from `current`, if that is known, to `new`. -/
def of (model : Model) (variant : Variant) (current : Option Version) (new : Version) :
    Migrations :=
  if model ≠ .nk3 then {}
  else {
    nrfFileSystem := variant == .nrf52 &&
      match current with
      | none => true
      | some current => crosses (coreVersion 1 2 2) (coreVersion 1 3 0) current new
    fileSystemV2 :=
      match current with
      | none => false
      | some current => decide (current < coreVersion 1 8 2) && decide (coreVersion 1 8 2 ≤ new) }

/-- How often the device is waited for after the update, also without any migration. -/
def retries (s : Migrations) : Nat :=
  (s.toList.map Migration.retries).foldl max 60

/-- What the operator has to know beforehand. -/
def notes (s : Migrations) : List String :=
  if s.nrfFileSystem then
    ["",
      "During this update process the internal filesystem will be migrated!",
      "- Migration will only work, if your internal filesystem does not contain more than 45 "
        ++ "Resident Keys. If you have more please remove some.",
      "- After the update it might take up to 3 minutes for the first boot.",
      "Never unplug the device while the LED is active!"]
  else []

end Migrations
end Reflash
