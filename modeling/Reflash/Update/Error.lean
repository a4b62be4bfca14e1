import Reflash.Container.Basic
import Reflash.Device.Error
import Reflash.Image.Error
import Reflash.Release.Basic
import Reflash.Update.Warning

/-!
# Update.Error — why an update fails

An update goes through `UpdateStep`s.  Most failures can only happen in one of them; the operator's
refusals and warnings can happen in several.
-/

namespace Reflash

inductive UpdateStep where
  | versionCheck
  | bootloaderTransition
  | imageValidation
  | flashing
  | finalizationWait
  deriving DecidableEq, Repr

namespace UpdateStep

def text : UpdateStep → String
  | .versionCheck => "version check"
  | .bootloaderTransition => "bootloader transition"
  | .imageValidation => "image validation"
  | .flashing => "flashing"
  | .finalizationWait => "finalization wait"

def id : UpdateStep → String
  | .versionCheck => "version-check"
  | .bootloaderTransition => "bootloader-transition"
  | .imageValidation => "image-validation"
  | .flashing => "flashing"
  | .finalizationWait => "finalization-wait"

end UpdateStep

/-- What was to be done with a release. -/
inductive ReleaseTask where
  | lookUp (tag : String)
  | lookUpLatest
  | findAsset (tag : String)
  | download (tag : String)
  deriving DecidableEq, Repr

def ReleaseTask.failure : ReleaseTask → String
  | .lookUp tag => s!"Failed to get firmware release {tag}"
  | .lookUpLatest => "Failed to find latest firmware release"
  | .findAsset tag => s!"Failed to find firmware image for release {tag}"
  | .download tag => s!"Failed to download firmware update {tag}"

/-- What was to be done with a device. -/
inductive DeviceTask where
  | readVersion
  | readStatus
  | reboot
  | reconnect (model : Model)
  deriving DecidableEq, Repr

def DeviceTask.failure : DeviceTask → String
  | .readVersion => "Failed to read firmware version"
  | .readStatus => "Failed to read device status"
  | .reboot => "Failed to reboot the device into the bootloader"
  | .reconnect model => s!"Failed to connect to {model.name} after the update"

inductive UpdateError where
  | aborted
  | warning (warning : Warning)
  | downgrade (current new : Version)
  | outdatedClient (required current : Version)
  | rebootNotConfirmed
  | bootloaderUnreachable (model : Model) (attempts : Nat) (last : Option DeviceError)
  | noImage (variant : Variant)
  | invalidImage (error : ImageError)
  | unsupportedPlatform (platform : Platform)
  | flashFailed (error : DeviceError)
  /-- The device came back, but not with the new firmware. -/
  | versionNotInstalled (expected actual : Version)
  | badTag (tag : String) (error : VersionError)
  | tagMismatch (tag : String) (version : Version)
  | noRepository (model : Model)
  /-- The container, of the release with that tag if it was downloaded, is refused. -/
  | container (tag : Option String) (error : ContainerError)
  | release (task : ReleaseTask) (error : ReleaseError)
  | device (step : UpdateStep) (task : DeviceTask) (error : DeviceError)
  deriving DecidableEq, Repr

namespace UpdateError

def message : UpdateError → String
  | .aborted => "The firmware update was aborted"
  | .warning w => w.message
  | .downgrade current new =>
      s!"The firmware version {new.text} is older than the firmware version {current.text} "
        ++ "currently installed."
  | .outdatedClient required current =>
      s!"This update requires pynitrokey {required.text} or newer, but the current version is "
        ++ current.text
  | .rebootNotConfirmed => "The reboot was not confirmed with the touch button"
  | .bootloaderUnreachable model _ _ => s!"Failed to connect to {model.name} bootloader"
  | .noImage variant =>
      s!"The firmware release does not contain an image for the {variant.text} hardware variant"
  | .invalidImage _ => "Failed to validate firmware image"
  | .unsupportedPlatform platform =>
      s!"Cannot perform firmware update for {platform.text.toUpper} runner"
  | .flashFailed _ => "Failed to perform firmware update"
  | .versionNotInstalled expected actual =>
      s!"The firmware update to {expected.text} was successful, but the firmware is still "
        ++ s!"reporting version {actual.text}."
  | .badTag tag _ => s!"Failed to parse version from release tag {tag}"
  | .tagMismatch tag version => s!"The firmware container for {tag} has the version {version.text}"
  | .noRepository model => s!"No firmware release repository configured for {model.name}"
  | .container none _ => "Failed to parse firmware container"
  | .container (some tag) _ => s!"Failed to parse firmware container for {tag}"
  | .release task _ => task.failure
  | .device _ task _ => task.failure

/-- The step that a failure belongs to, if there is only one. -/
def step? : UpdateError → Option UpdateStep
  | .aborted | .warning _ => none
  | .downgrade .. | .outdatedClient .. | .badTag .. | .tagMismatch .. | .noRepository _
  | .container .. | .release .. | .unsupportedPlatform _ => some .versionCheck
  | .rebootNotConfirmed | .bootloaderUnreachable .. => some .bootloaderTransition
  | .noImage _ | .invalidImage _ => some .imageValidation
  | .flashFailed _ => some .flashing
  | .versionNotInstalled .. => some .finalizationWait
  | .device step _ _ => some step

/-- Whether the failure tells that the firmware of the device has been changed. -/
def tellsOfChange : UpdateError → Bool
  | .versionNotInstalled .. => true
  | _ => false

def category : UpdateError → Category
  | .aborted | .warning _ | .downgrade .. | .outdatedClient .. => .policy
  | .container .. => .container
  | .noImage _ | .invalidImage _ => .image
  | .release .. | .badTag .. | .tagMismatch .. => .release
  | .noRepository _ => .config
  | .rebootNotConfirmed | .bootloaderUnreachable .. | .unsupportedPlatform _ | .flashFailed _
  | .versionNotInstalled .. | .device .. => .device

def severity : UpdateError → Severity
  | .aborted | .warning _ => .warning
  | .flashFailed _ | .versionNotInstalled .. => .critical
  | .device _ _ error => error.severity
  | _ => .error

/-- What the operator may look into. -/
def hint? : UpdateError → Option String
  | .bootloaderUnreachable .. => some "Are the Nitrokey udev rules installed and active?"
  | _ => none

/-- The messages of the errors that led to this one, nearest first. -/
def causes : UpdateError → List String
  | .bootloaderUnreachable _ _ last => (last.map DeviceError.message).toList
  | .invalidImage error => error.message :: error.causes
  | .flashFailed error => [error.message]
  | .badTag _ error => [error.message]
  | .container _ error => error.message :: error.causes
  | .release _ error => [error.message]
  | .device _ _ error => [error.message]
  | _ => []

end UpdateError
end Reflash
