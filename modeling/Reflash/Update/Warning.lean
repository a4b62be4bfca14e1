/-!
# Update.Warning — reasons to stop that the operator may overrule
-/

namespace Reflash

inductive Warning where
  | fileSystemV2
  | missingStatus
  | sdkVersion
  | fromBootloader
  deriving DecidableEq, Repr

namespace Warning

def all : List Warning :=
  [.fileSystemV2, .missingStatus, .sdkVersion, .fromBootloader]

def id : Warning → String
  | .fileSystemV2 => "ifs-migration-v2"
  | .missingStatus => "missing-status"
  | .sdkVersion => "sdk-version"
  | .fromBootloader => "update-from-bootloader"

def message : Warning → String
  | .fileSystemV2 =>
      "Not enough space on the internal filesystem to perform the firmware update. See the release "
        ++ "notes for more information: "
        ++ "https://github.com/Nitrokey/nitrokey-3-firmware/releases/tag/v1.8.2-test.20250312"
  | .missingStatus =>
      "Could not determine the device state as the current firmware is too old. Please update to "
        ++ "firmware version v1.3.1 first."
  | .sdkVersion =>
      "Your Nitrokey SDK version is outdated.  Please update this program to the latest version "
        ++ "and try again."
  | .fromBootloader =>
      "The current state of the device cannot be checked as it is already in bootloader mode. "
        ++ "Please review the release notes at: "
        ++ "https://github.com/Nitrokey/nitrokey-3-firmware/releases"

/-- The id of a warning, or what is none. -/
structure Unknown where
  id : String
  deriving DecidableEq, Repr

def Unknown.message (u : Unknown) : String :=
  s!"Unexpected update warning id: {u.id}"

def ofId? (id : String) : Option Warning :=
  all.find? (·.id = id)

def ofId (id : String) : Except Unknown Warning :=
  match ofId? id with
  | some w => .ok w
  | none => .error ⟨id⟩

end Warning
end Reflash
