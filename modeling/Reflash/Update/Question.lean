import Reflash.Device.Connection
import Reflash.Device.Status
import Reflash.Dialogue
import Reflash.Update.Error

/-!
# Update.Question — what an update asks its surroundings

An update deals with at most two devices, the one it starts with and the one that comes back, and
with one bootloader after another.  They are addressed by these roles.  The operator is told
`Notice`s and asked for `Confirmation`s.
-/

namespace Reflash
namespace Update

inductive DeviceRole where
  | initial
  | returned
  deriving DecidableEq, Repr

/-- The bootloader that the update starts with, or the one that an attempt to find one led to;
attempts are numbered from one. -/
inductive BootloaderRole where
  | given
  | attempt (number : Nat)
  deriving DecidableEq, Repr

inductive BootloaderCall where
  | uuid
  | update (image : Bytes)
  | reboot
  | close
  deriving DecidableEq, Repr

/-- Amounts done and amounts to do, as they are reported during a call. -/
abbrev Progress : Type :=
  List (Nat × Nat)

abbrev BootloaderCall.Answer : BootloaderCall → Type
  | .uuid => Except DeviceError (Option Uuid)
  | .update _ => Progress × Except DeviceError Unit
  | .reboot => Except DeviceError Bool
  | .close => Except DeviceError Unit

inductive Bar where
  | download
  | update
  | finalization
  deriving DecidableEq, Repr

inductive Notice where
  /-- A step begins. -/
  | enter (step : UpdateStep)
  | warning (w : Warning)
  /-- The bootloader is about to be looked for. -/
  | hint
  /-- The device has to be touched. -/
  | touch
  | barStart (bar : Bar) (label : Option String)
  | barProgress (bar : Bar) (current total : Nat)
  | barFinish (bar : Bar)
  | sleep (milliseconds : Nat)
  deriving DecidableEq, Repr

inductive Confirmation where
  | download (current : Option Version) (new : Version)
  | update (current : Option Version) (new : Version)
  | clientVersion (current required : Version)
  | notes (lines : List String)
  | sameVersion (version : Version)
  deriving DecidableEq, Repr

inductive Question where
  | tell (notice : Notice)
  | confirm (confirmation : Confirmation)
  | device (role : DeviceRole) (call : Call)
  | bootloader (role : BootloaderRole) (call : BootloaderCall)
  | awaitBootloader (model : Model) (attempt : Nat)
  | awaitDevice (model : Model) (retries : Nat)
  | latestRelease
  | release (tag : String)
  | download (asset : Asset)
  | readFile (path : String)
  deriving DecidableEq, Repr

/-- A bootloader that is found tells its variant; whatever is found counts as being there. -/
abbrev Question.Answer : Question → Type
  | .tell _ => Unit
  | .confirm _ => Except UpdateError Unit
  | .device _ call => call.Answer
  | .bootloader _ call => call.Answer
  | .awaitBootloader .. => Except DeviceError Variant
  | .awaitDevice .. => Progress × Except DeviceError Unit
  | .latestRelease => Except ReleaseError Release
  | .release _ => Except ReleaseError Release
  | .download _ => Progress × Except ReleaseError Bytes
  | .readFile _ => Except FileFault Bytes

/-- A part of an update within one step. -/
abbrev StepM : Type → Type :=
  ExceptT UpdateError (Dialogue Question.Answer)

/-- Asks a question that may be answered with a failure. -/
def attempt {ε α : Type} (wrap : ε → UpdateError) (d : Dialogue Question.Answer (Except ε α)) :
    StepM α :=
  ExceptT.mk ((fun result => result.mapError wrap) <$> d)

def ask (q : Question) : StepM q.Answer :=
  ExceptT.lift (Dialogue.query q)

def tell (n : Notice) : StepM Unit :=
  ask (.tell n)

/-- The operator's refusal ends the update. -/
def confirm (c : Confirmation) : StepM Unit :=
  ExceptT.mk (Dialogue.query (Question.confirm c))

/-- A conversation with one of the devices. -/
def withDevice {α : Type} (role : DeviceRole) (wrap : DeviceError → UpdateError) (m : DeviceM α) :
    StepM α :=
  attempt wrap (m.run.relay (Question.device role) fun _ answer => answer)

/-- Does the second part after the first one, whether that fails or not. -/
def thenAlways {ε α : Type} (m : ExceptT ε (Dialogue Question.Answer) α)
    (last : Dialogue Question.Answer Unit) : ExceptT ε (Dialogue Question.Answer) α :=
  ExceptT.mk do
    let result ← m.run
    last
    return result

/-- Does the second part if the first one fails. -/
def onFailure {ε α : Type} (m : ExceptT ε (Dialogue Question.Answer) α)
    (last : Dialogue Question.Answer Unit) : ExceptT ε (Dialogue Question.Answer) α :=
  ExceptT.mk do
    match ← m.run with
    | .ok a => return .ok a
    | .error e => do
        last
        return .error e

/-- Closes a device; it does not matter if that fails. -/
def closeDevice (role : DeviceRole) : Dialogue Question.Answer Unit := do
  let _ ← Dialogue.query (Question.device role .close)

def closeBootloader (role : BootloaderRole) : Dialogue Question.Answer Unit := do
  let _ ← Dialogue.query (Question.bootloader role .close)

end Update
end Reflash
