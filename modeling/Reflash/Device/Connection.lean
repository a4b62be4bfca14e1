import Reflash.Device.Error
import Reflash.Dialogue

/-!
# Device.Connection — talking to a device that runs its firmware

A connection is consulted through `Call`s: commands of the first generation go to the device as
they are, later ones are requests to one of its applications.  A reply whose length is known in
advance is checked against it.
-/

namespace Reflash

/-- An application of the firmware. -/
inductive Application where
  | secrets
  | provisioner
  | admin
  deriving DecidableEq, Repr

namespace Application

def all : List Application :=
  [.secrets, .provisioner, .admin]

def text : Application → String
  | .secrets => "SECRETS"
  | .provisioner => "PROVISIONER"
  | .admin => "ADMIN"

/-- The command byte that addresses the application on the HID transport. -/
def command : Application → UInt8
  | .secrets => 0x70
  | .provisioner => 0x71
  | .admin => 0x72

/-- The identifier that selects the application on a smart card transport. -/
def identifier : Application → Bytes
  | .secrets => [0xA0, 0x00, 0x00, 0x05, 0x27, 0x21, 0x01]
  | .provisioner | .admin => [0xA0, 0x00, 0x00, 0x08, 0x47, 0x00, 0x00, 0x00, 0x01]

end Application

/-- What is sent to a device: a command byte with its data, or a request to an application. -/
inductive Request where
  | direct (command : UInt8) (name : String) (data : Bytes)
  | app (application : Application) (data : Bytes)
  deriving DecidableEq, Repr

/-- A question to a connection; `length` is the length of the reply, if it is known. -/
inductive Call where
  | send (request : Request) (length : Option Nat)
  | wink
  | close
  deriving DecidableEq, Repr

abbrev Call.Answer : Call → Type
  | .send .. => Except DeviceError Bytes
  | .wink | .close => Except DeviceError Unit

abbrev DeviceM : Type → Type :=
  ExceptT DeviceError (Dialogue Call.Answer)

/-- Makes a device blink. -/
def DeviceM.wink : DeviceM Unit :=
  ExceptT.mk (Dialogue.query Call.wink)

def checkLength (command : String) (reply : Bytes) (length : Option Nat) :
    Except DeviceError Unit :=
  match length with
  | some n => if reply.length = n then .ok () else .error (.wrongLength command n reply.length)
  | none => .ok ()

end Reflash
