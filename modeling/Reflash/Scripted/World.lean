import Reflash.Device.Session
import Reflash.Scripted.Device

/-!
# Scripted.World — the surroundings of an update, by script

A world has queues of devices and bootloaders to be found, an operator who refuses some requests,
and a repository of releases.  It logs everything that is visible from outside.
-/

namespace Reflash
namespace Scripted

open Update

inductive Event where
  | device (name : String) (call : Call)
  | bootloader (name : String) (call : BootloaderCall)
  | told (notice : Notice)
  | confirm (confirmation : Confirmation)
  | awaitBootloader (model : Model)
  | awaitDevice (model : Model) (retries : Nat)
  | latestRelease
  | release (tag : String)
  | download (asset : Asset)
  deriving DecidableEq, Repr

structure Repository where
  latest : Except ReleaseError Release
  releases : List (String × Except ReleaseError Release) := []
  progress : Progress := []
  content : Except ReleaseError Bytes

/-- The name of a request to the operator. -/
def requestName : Confirmation → String
  | .download .. => "download"
  | .update .. => "update"
  | .clientVersion .. => "pynitrokey"
  | .notes _ => "extra"
  | .sameVersion _ => "same"

structure World where
  /-- Names of the requests that the operator refuses. -/
  refused : List String := []
  bootloaders : List (Except DeviceError Bootloader) := []
  devices : List (Except DeviceError Device) := []
  awaitProgress : Progress := []
  repository : Option Repository := none
  files : String → Except FileFault Bytes := fun _ => .error .missing
  initial : Option Device := none
  returned : Option Device := none
  bootloader : Option Bootloader := none
  log : List Event := []

namespace World

def note (w : World) (e : Event) : World :=
  { w with log := w.log ++ [e] }

/-- Nobody is there to answer. -/
def silence : (c : Call) → c.Answer
  | .send .. => .error (.rejected "unscripted" .invalidCommand)
  | .wink | .close => .ok ()

def bootloaderSilence : (c : BootloaderCall) → c.Answer
  | .uuid => .ok none
  | .update _ => ([], .ok ())
  | .reboot => .ok true
  | .close => .ok ()

def deviceIn (w : World) : DeviceRole → Option Device
  | .initial => w.initial
  | .returned => w.returned

def setDevice (w : World) (role : DeviceRole) (d : Device) : World :=
  match role with
  | .initial => { w with initial := some d }
  | .returned => { w with returned := some d }

def askDevice (w : World) (role : DeviceRole) (call : Call) : call.Answer × World :=
  match w.deviceIn role with
  | some d =>
      let (answer, d') := d.answer call
      (answer, (w.note (.device d.name call)).setDevice role d')
  | none => (silence call, w)

def askBootloader (w : World) (call : BootloaderCall) : call.Answer × World :=
  match w.bootloader with
  | some b =>
      let (answer, b') := b.answer call
      (answer, { w.note (.bootloader b.name call) with bootloader := some b' })
  | none => (bootloaderSilence call, w)

def awaitBootloader (w : World) (model : Model) : Except DeviceError Variant × World :=
  let w := w.note (.awaitBootloader model)
  match w.bootloaders with
  | [] => (.error (.notFound model.name), w)
  | .error e :: rest => (.error e, { w with bootloaders := rest })
  | .ok b :: rest => (.ok b.variant, { w with bootloaders := rest, bootloader := some b })

def awaitDevice (w : World) (model : Model) (retries : Nat) : Except DeviceError Unit × World :=
  let w := w.note (.awaitDevice model retries)
  match w.devices with
  | [] => (.error (.notFound model.name), w)
  | .error e :: rest => (.error e, { w with devices := rest })
  | .ok d :: rest =>
      let w := { w with devices := rest, returned := some d }
      ((OpenDevice.open d.model d.path d.usbId).map fun _ => (), w)

def confirm (w : World) (c : Confirmation) : Except UpdateError Unit × World :=
  (if w.refused.contains (requestName c) then .error .aborted else .ok (), w.note (.confirm c))

def findRelease (w : World) (tag : String) : Except ReleaseError Release :=
  ((w.repository.map (·.releases)).getD []).lookup tag |>.getD (.error (.notFound tag))

def noRepository : ReleaseError :=
  .transfer "no repository"

def answer (w : World) : (q : Question) → q.Answer × World
  | .tell notice => ((), w.note (.told notice))
  | .confirm c => w.confirm c
  | .device role call => w.askDevice role call
  | .bootloader _ call => w.askBootloader call
  | .awaitBootloader model _ => w.awaitBootloader model
  | .awaitDevice model retries =>
      let (result, w') := w.awaitDevice model retries
      ((w.awaitProgress, result), w')
  | .latestRelease =>
      ((w.repository.map (·.latest)).getD (.error noRepository), w.note .latestRelease)
  | .release tag => (w.findRelease tag, w.note (.release tag))
  | .download asset =>
      ((match w.repository with
        | some r => (r.progress, r.content)
        | none => ([], .error noRepository)), w.note (.download asset))
  | .readFile path => (w.files path, w)

/-- Holds a dialogue in a world; the log starts empty. -/
def hold {α : Type} (w : World) (d : Dialogue Question.Answer α) : α × List Event × World :=
  let outcome := d.run World.answer { w with log := [] }
  (outcome.result, outcome.state.log, outcome.state)

end World
end Scripted
end Reflash
