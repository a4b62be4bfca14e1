import Reflash.Container.Parse
import Reflash.Device.Admin
import Reflash.Image.Validate
import Reflash.Update.Policy

/-!
# Update.Run — the course of an update

An update checks versions and gets the operator's consent, brings the device into its bootloader,
validates the image for the bootloader's variant, flashes it, and waits for the device to come back
with the new firmware.  Nothing is flashed twice, and nothing that has not been validated.

* `Update.run` — the whole update, with the step that a failure happened in.
-/

namespace Reflash

/-- What an update starts with. -/
inductive UpdateTarget where
  | device (model : Model)
  | bootloader (model : Model) (variant : Variant)
  deriving DecidableEq, Repr

def UpdateTarget.model : UpdateTarget → Model
  | .device model => model
  | .bootloader model _ => model

/-- Where the container comes from. -/
inductive UpdateSource where
  | bytes (data : Bytes)
  | file (path : String)
  | release (tag : Option String)
  deriving DecidableEq, Repr

structure UpdateSettings where
  config : UpdateConfig := {}
  /-- Anchors to use instead of those of the model. -/
  anchors : Option TrustAnchors := none
  hasRepository : Bool := false
  deriving DecidableEq, Repr

structure UpdateOutcome where
  version : Version
  status : Status
  deriving DecidableEq, Repr

/-- A failure, and the last step that was entered. -/
structure UpdateFailure where
  step : UpdateStep
  error : UpdateError
  deriving DecidableEq, Repr

namespace Update

abbrev UpdateM : Type → Type :=
  ExceptT UpdateFailure (Dialogue Question.Answer)

/-- Announces a step and goes through it. -/
def inStep {α : Type} (step : UpdateStep) (m : StepM α) : UpdateM α :=
  ExceptT.adapt (UpdateFailure.mk step) do
    tell (.enter step)
    m

variable (primitives : Primitives) (settings : UpdateSettings)

/-! ## Version check -/

/-- The installed version and the status, which a bootloader does not tell. -/
def survey (target : UpdateTarget) : StepM (Option Version × Option Status) :=
  match target with
  | .bootloader .. => do
      raise settings.config .fromBootloader
      return (none, none)
  | .device _ => do
      let version ← withDevice .initial (.device .versionCheck .readVersion) Admin.version
      let status ← withDevice .initial (.device .versionCheck .readStatus) Admin.status
      return (some version, some status)

def parseContainer (model : Model) (tag : Option String) (data : Bytes) : StepM Container :=
  ExceptT.mk (pure ((Container.parse primitives data model).mapError (.container tag)))

/-- The release with a tag, or the latest one. -/
def findRelease (tag : Option String) : StepM Release :=
  match tag with
  | some tag => attempt (.release (.lookUp tag)) (Dialogue.query (Question.release tag))
  | none => attempt (.release .lookUpLatest) (Dialogue.query Question.latestRelease)

def showProgress (bar : Bar) (progress : Progress) : StepM Unit :=
  progress.forM fun (current, total) => tell (.barProgress bar current total)

def downloadAsset (asset : Asset) : StepM Bytes := do
  tell (.barStart .download (some asset.tag))
  let (progress, result) ← ask (.download asset)
  showProgress .download progress
  tell (.barFinish .download)
  match result with
  | .ok data => return data
  | .error e => throw (.release (.download asset.tag) e)

/-- Downloads the container of a release, whose version has to be that of the tag. -/
def downloadContainer (model : Model) (release : Release) (version : Version) :
    StepM Container := do
  let asset ← ExceptT.mk (pure ((release.requireAsset primitives model.assetPattern).mapError
    (.release (.findAsset release.tag))))
  let data ← downloadAsset asset
  let container ← parseContainer primitives model (some asset.tag) data
  if version.Level container.version then return container
  else throw (.tagMismatch asset.tag container.version)

/-- Parses a container that is at hand and checks its version. -/
def openContainer (model : Model) (current : Option Version) (data : Bytes) :
    StepM Container := do
  let container ← parseContainer primitives model none data
  checkVersion current container.version
  return container

def prepare (model : Model) (current : Option Version) (source : UpdateSource) :
    StepM Container :=
  match source with
  | .bytes data => openContainer primitives model current data
  | .file path => do
      match ← ask (.readFile path) with
      | .ok data => openContainer primitives model current data
      | .error fault => throw (.container none (.ofFile path fault))
  | .release tag => do
      if !settings.hasRepository then throw (.noRepository model)
      let release ← findRelease tag
      let version ← ExceptT.mk (pure (release.version.mapError (.badTag release.tag)))
      checkVersion current version
      confirm (.download current version)
      downloadContainer primitives model release version

/-- Releases after this one need the status of the device before an update. -/
def lastWithoutStatus : Version :=
  { major := 1, minor := 3, patch := 1 }

def checkStatus (model : Model) (status : Option Status) (new : Version) : StepM Unit := do
  if status.any (·.init.isNone) ∧ model = .nk3 ∧ lastWithoutStatus < new then
    raise settings.config .missingStatus

/-- What an update knows when it starts to act. -/
structure Plan where
  current : Option Version
  status : Option Status
  container : Container
  /-- Unknown as long as the variant of the device is. -/
  migrations : Option Migrations
  deriving DecidableEq, Repr

/-- The variant, as far as it is known before the bootloader is met. -/
def knownVariant (target : UpdateTarget) (status : Option Status) : StepM (Option Variant) :=
  match status.bind (·.platform), target with
  | some platform, _ =>
      match Variant.ofPlatform platform with
      | .ok variant => return some variant
      | .error _ => throw (.unsupportedPlatform platform)
  | none, .bootloader _ variant => return some variant
  | none, .device _ => return none

def plan (target : UpdateTarget) (source : UpdateSource) : StepM Plan := do
  let (current, status) ← survey settings target
  let container ← prepare primitives settings target.model current source
  checkStatus settings target.model status container.version
  checkRequirements container settings.config
  confirm (.update current container.version)
  let migrations ← match ← knownVariant target status with
    | some variant =>
        some <$> checkMigrations settings.config target.model variant current container.version
          status
    | none => pure none
  return { current, status, container, migrations }

/-! ## Bootloader transition -/

/-- A bootloader counts as found if it answers. -/
def connect (model : Model) (number : Nat) :
    Dialogue Question.Answer (Except DeviceError Variant) :=
  ExceptT.run do
    let variant ← ExceptT.mk (Dialogue.query (Question.awaitBootloader model number))
    let _ ← ExceptT.mk (Dialogue.query (Question.bootloader (.attempt number) .uuid))
    return variant

/-- Looks for a bootloader up to `remaining` times more, after `made` attempts, the last of which
failed with `last`. -/
def findBootloader (model : Model) (delay made : Nat) (last : Option DeviceError) :
    (remaining : Nat) → StepM (BootloaderRole × Variant)
  | 0 => throw (.bootloaderUnreachable model made last)
  | remaining + 1 => do
      if 0 < made then tell (.sleep delay)
      match ← ExceptT.lift (connect model (made + 1)) with
      | .ok variant => return (.attempt (made + 1), variant)
      | .error e => findBootloader model delay (made + 1) (some e) remaining

/-- What the answer to the reboot command means: a device that vanishes is rebooting. -/
def rebootFailure? : Except DeviceError Bool → Option UpdateError
  | .ok _ => none
  | .error .unconfirmed => some .rebootNotConfirmed
  | .error e =>
      if e.isDisconnect then none else some (.device .bootloaderTransition .reboot e)

/-- Sends the device into its bootloader, and lets go of it in any case. -/
def rebootDevice : StepM Unit := do
  tell .touch
  let result ← ExceptT.lift
    ((Admin.reboot .bootrom).run.relay (Question.device .initial) fun _ answer => answer)
  ExceptT.lift (closeDevice .initial)
  match rebootFailure? result with
  | some e => throw e
  | none => return ()

def enterBootloader (target : UpdateTarget) : StepM (BootloaderRole × Variant) :=
  match target with
  | .bootloader _ variant => return (.given, variant)
  | .device model => do
      rebootDevice
      tell (.sleep settings.config.settleDelay)
      tell .hint
      findBootloader model settings.config.retryDelay 0 none settings.config.retries

/-! ## Validation and flashing -/

def anchors (model : Model) : TrustAnchors :=
  settings.anchors.getD model.anchors

/-- The image to flash; migrations that could not be checked before are checked now. -/
def validateImage (model : Model) (variant : Variant) (p : Plan) : StepM (Bytes × Migrations) := do
  let some image := p.container.image? variant | throw (.noImage variant)
  match Image.validate primitives variant image p.container.version (anchors settings model) with
  | .error e => throw (.invalidImage e)
  | .ok _ =>
      match p.migrations with
      | some migrations => return (image, migrations)
      | none =>
          let migrations ← checkMigrations settings.config model variant p.current
            p.container.version p.status
          return (image, migrations)

def flash (role : BootloaderRole) (image : Bytes) : StepM Unit := do
  tell (.barStart .update none)
  let (progress, result) ← ask (.bootloader role (.update image))
  showProgress .update progress
  tell (.barFinish .update)
  match result with
  | .ok _ => return ()
  | .error e => throw (.flashFailed e)

/-- Flashes the validated image, and lets go of the bootloader in any case. -/
def install (model : Model) (role : BootloaderRole) (variant : Variant) (p : Plan) :
    UpdateM Migrations :=
  thenAlways (do
    let (image, migrations) ←
      inStep .imageValidation (validateImage primitives settings model variant p)
    inStep .flashing (flash role image)
    return migrations) (closeBootloader role)

/-! ## Finalization -/

/-- The device has to report the new version. -/
def checkInstalled (expected : Version) : StepM Status := do
  let version ← withDevice .returned (.device .finalizationWait .readVersion) Admin.version
  if ¬ version.Level expected then throw (.versionNotInstalled expected version)
  withDevice .returned (.device .finalizationWait .readStatus) Admin.status

def awaitReturn (model : Model) (expected : Version) (retries : Nat) : StepM Status := do
  let (progress, result) ← ask (.awaitDevice model retries)
  showProgress .finalization progress
  match result with
  | .ok _ => thenAlways (checkInstalled expected) (closeDevice .returned)
  | .error e => throw (.device .finalizationWait (.reconnect model) e)

def finalize (model : Model) (expected : Version) (retries : Nat) : StepM Status := do
  tell (.barStart .finalization none)
  thenAlways (awaitReturn model expected retries)
    (Dialogue.query (Question.tell (.barFinish .finalization)))

/-! ## The whole update -/

/-- A device that is not sent into its bootloader is let go of at the end. -/
def planned (target : UpdateTarget) (source : UpdateSource) : UpdateM Plan :=
  let m := inStep .versionCheck (plan primitives settings target source)
  match target with
  | .device _ => onFailure m (closeDevice .initial)
  | .bootloader .. => m

def run (target : UpdateTarget) (source : UpdateSource) : UpdateM UpdateOutcome := do
  let p ← planned primitives settings target source
  let (role, variant) ← inStep .bootloaderTransition (enterBootloader settings target)
  let migrations ← install primitives settings target.model role variant p
  let status ← inStep .finalizationWait
    (finalize target.model p.container.version migrations.retries)
  return { version := p.container.version, status }

end Update
end Reflash
