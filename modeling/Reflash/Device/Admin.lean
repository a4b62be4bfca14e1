import Reflash.Device.Connection
import Reflash.Device.Status
import Reflash.Text.Utf8
import Reflash.Version.Text

/-!
# Device.Admin — the commands of the admin application

Commands below `0x80` are of the first generation and go to the device directly; the others go to
the admin application.  Firmware that does not know a command rejects it as invalid, which
`Admin.call` reads as "not supported" rather than as a failure.
-/

namespace Reflash

inductive AdminCommand where
  | update
  | reboot
  | rng
  | version
  | uuid
  | locked
  | status
  | testSe050
  | getConfig
  | setConfig
  | factoryReset
  | factoryResetApp
  | listAvailableFields
  deriving DecidableEq, Repr

namespace AdminCommand

def all : List AdminCommand :=
  [.update, .reboot, .rng, .version, .uuid, .locked, .status, .testSe050, .getConfig, .setConfig,
    .factoryReset, .factoryResetApp, .listAvailableFields]

def code : AdminCommand → UInt8
  | .update => 0x51
  | .reboot => 0x53
  | .rng => 0x60
  | .version => 0x61
  | .uuid => 0x62
  | .locked => 0x63
  | .status => 0x80
  | .testSe050 => 0x81
  | .getConfig => 0x82
  | .setConfig => 0x83
  | .factoryReset => 0x84
  | .factoryResetApp => 0x85
  | .listAvailableFields => 0x86

def name : AdminCommand → String
  | .update => "UPDATE"
  | .reboot => "REBOOT"
  | .rng => "RNG"
  | .version => "VERSION"
  | .uuid => "UUID"
  | .locked => "LOCKED"
  | .status => "STATUS"
  | .testSe050 => "TEST_SE050"
  | .getConfig => "GET_CONFIG"
  | .setConfig => "SET_CONFIG"
  | .factoryReset => "FACTORY_RESET"
  | .factoryResetApp => "FACTORY_RESET_APP"
  | .listAvailableFields => "LIST_AVAILABLE_FIELDS"

/-- A command of the first generation. -/
def isDirect (c : AdminCommand) : Bool :=
  c.code < 0x80

def request (c : AdminCommand) (data : Bytes) : Request :=
  if c.isDirect then .direct c.code c.name data else .app .admin (c.code :: data)

end AdminCommand

/-- What a reboot leads to; without a choice, the firmware. -/
inductive BootMode where
  | firmware
  | bootrom
  deriving DecidableEq, Repr

def BootMode.command : BootMode → AdminCommand
  | .firmware => .reboot
  | .bootrom => .update

/-- The result byte of a configuration command. -/
inductive ConfigStatus where
  | success
  | readFailed
  | writeFailed
  | deserializationFailed
  | serializationFailed
  | invalidKey
  | invalidValue
  | dataTooLong
  deriving DecidableEq, Repr

namespace ConfigStatus

def all : List ConfigStatus :=
  [.success, .readFailed, .writeFailed, .deserializationFailed, .serializationFailed, .invalidKey,
    .invalidValue, .dataTooLong]

/-- The results are numbered from zero. -/
def ofCode? (code : UInt8) : Option ConfigStatus :=
  all[code.toNat]?

def text : ConfigStatus → String
  | .success => "success"
  | .readFailed => "read failed"
  | .writeFailed => "write failed"
  | .deserializationFailed => "deserialization failed"
  | .serializationFailed => "serialization failed"
  | .invalidKey => "invalid key"
  | .invalidValue => "invalid value"
  | .dataTooLong => "data too long"

end ConfigStatus

/-- Failures of commands whose reply carries a result of its own. -/
inductive AdminError where
  | device (error : DeviceError)
  | emptyReply
  | config (context reason : String)
  | factoryReset (context reason : String)
  deriving DecidableEq, Repr

def AdminError.message : AdminError → String
  | .device error => error.message
  | .emptyReply => "The device returned an empty response"
  | .config context reason | .factoryReset context reason => s!"{context}: {reason}"

namespace Admin

/-! ## Sending commands -/

/-- What a connection's answer to a command amounts to; `none` if the firmware does not know it. -/
def received (c : AdminCommand) (length : Option Nat) :
    Except DeviceError Bytes → Except DeviceError (Option Bytes)
  | .ok reply => (checkLength c.name reply length).map fun _ => some reply
  | .error e => if e.statusCode? = some .invalidCommand then .ok none else .error e

def call (c : AdminCommand) (data : Bytes) (length : Option Nat) : DeviceM (Option Bytes) :=
  ExceptT.mk (received c length <$> Dialogue.query (Call.send (c.request data) length))

/-- Sends a command that the firmware has to know. -/
def require (c : AdminCommand) (data : Bytes) (length : Option Nat) : DeviceM Bytes := do
  match ← call c data length with
  | some reply => return reply
  | none => throw (.rejected c.name .invalidCommand)

/-! ## Commands -/

def isLocked : DeviceM Bool := do
  return (← require .locked [] (some 1)).head? = some 1

/-- What a reboot command's answer amounts to: a device that vanishes has rebooted, and the
bootloader is only entered if somebody touches the device in time. -/
def rebooted (mode : BootMode) : Except DeviceError (Option Bytes) → Except DeviceError Bool
  | .ok _ => .ok true
  | .error e =>
      if mode = .bootrom ∧ e.statusCode? = some .invalidLength then .error .unconfirmed
      else if e.isDisconnect then .ok true
      else .error e

def reboot (mode : BootMode) : DeviceM Bool :=
  ExceptT.mk (rebooted mode <$> (call mode.command [] none).run)

def rng : DeviceM Bytes :=
  require .rng [] (some 57)

/-- Nothing is known about firmware without the command. -/
def status : DeviceM Status := do
  match ← call .status [] none with
  | some reply => Status.ofReply reply
  | none => return {}

def uuid : DeviceM (Option Uuid) := do
  match ← call .uuid [] none with
  | none | some [] => return none
  | some reply =>
      if reply.length = 16 then return some (.ofBytes reply)
      else throw (.malformed AdminCommand.uuid.name
        s!"UUID response has invalid length {reply.length}")

/-- The version in a reply: four bytes are a packed version, anything else is its text. -/
def versionOfReply (reply : Bytes) : Except DeviceError Version :=
  if reply.length = 4 then .ok (.ofPacked (UInt32.ofNat (Bytes.bigEndian reply)))
  else match Utf8.decode reply with
    | .error fault => .error (.malformed AdminCommand.version.name fault.message)
    | .ok text => match Version.parse text with
      | .error e => .error (.malformed AdminCommand.version.name e.message)
      | .ok v => .ok v

def version : DeviceM Version := do
  versionOfReply (← require .version [0x01] none)

def se050Tests : DeviceM (Option Bytes) :=
  call .testSe050 [] none

def hasConfig (key : String) : DeviceM Bool := do
  let reply ← call .getConfig (Bytes.ofText key) none
  return (reply.bind List.head?).bind ConfigStatus.ofCode? = some .success

/-! ## Commands with a result of their own -/

abbrev AdminM : Type → Type :=
  ExceptT AdminError (Dialogue Call.Answer)

def ofDevice {α : Type} (m : DeviceM α) : AdminM α :=
  m.adapt .device

/-- Small letters, no leading zeros. -/
def hexByte (b : UInt8) : String :=
  String.ofList (Nat.toDigits 16 b.toNat)

def checkConfig (code : UInt8) : Except AdminError Unit :=
  match ConfigStatus.ofCode? code with
  | some .success => .ok ()
  | some status => .error (.config "Failed to get config value" status.text)
  | none => .error (.config "Failed to get config value" s!"unknown error {hexByte code}")

def getConfig (key : String) : AdminM String := do
  match ← ofDevice (call .getConfig (Bytes.ofText key) none) with
  | none | some [] => throw .emptyReply
  | some (code :: value) => do
      checkConfig code
      match Utf8.decode value with
      | .ok text => return text
      | .error fault => throw (.device (.malformed AdminCommand.getConfig.name fault.message))

def checkFactoryReset (context : String) (code : UInt8) : Except AdminError Unit :=
  if code = 0 then .ok ()
  else .error <| .factoryReset context <|
    if code = 1 then "Operation was not confirmed with touch"
    else if code = 2 then "The application does not support factory reset through nitropy"
    else if code = 3 then "The application name must be utf-8"
    else s!"Unknown error {hexByte code}"

/-- Whether the firmware knows the command and did not refuse. -/
def resetResult (context : String) (reply : Option Bytes) : Except AdminError Bool := do
  match reply.bind List.head? with
  | some code => checkFactoryReset context code
  | none => pure ()
  return reply.isSome

/-- A device that vanishes during the reset has been reset. -/
def factoryReset : AdminM Bool := do
  match ← (call .factoryReset [] (some 1)).run with
  | .ok reply => resetResult "Failed to factory reset the device" reply
  | .error e => if e.isDisconnect then return true else throw (.device e)

def factoryResetApp (application : String) : AdminM Bool := do
  let reply ← ofDevice (call .factoryResetApp (Bytes.ofText application) (some 1))
  resetResult "Failed to factory reset the application" reply

end Admin
end Reflash
