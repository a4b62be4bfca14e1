import Reflash.Severity
import Reflash.Text.Hex

/-!
# Device.Error — failures of devices and their transports

A command that the firmware rejects comes back with a status byte; `Status` names the bytes that
mean something to the protocol and keeps all others.  Whatever else goes wrong on the way to a
device is a case of `DeviceError`.
-/

namespace Reflash

/-- The status byte of a rejected command. -/
structure StatusCode where
  byte : UInt8
  deriving DecidableEq, Repr

namespace StatusCode

def invalidCommand : StatusCode := ⟨0x01⟩

/-- Also the answer to a reboot request that nobody confirmed. -/
def invalidLength : StatusCode := ⟨0x03⟩

def names : List (StatusCode × String) :=
  [(⟨0x01⟩, "INVALID_COMMAND"), (⟨0x02⟩, "INVALID_PARAMETER"), (⟨0x03⟩, "INVALID_LENGTH"),
    (⟨0x04⟩, "INVALID_SEQ"), (⟨0x05⟩, "TIMEOUT"), (⟨0x06⟩, "CHANNEL_BUSY"),
    (⟨0x27⟩, "OPERATION_DENIED"), (⟨0x2F⟩, "USER_ACTION_TIMEOUT"), (⟨0x7F⟩, "OTHER")]

def name? (c : StatusCode) : Option String :=
  names.lookup c

def text (c : StatusCode) : String :=
  let hex := "0x" ++ String.ofList (Hex.padded 2 c.byte.toNat)
  match c.name? with
  | some name => s!"{name} ({hex})"
  | none => hex

end StatusCode

inductive DeviceError where
  | notFound (device : String)
  | disconnected (device : String)
  | communication (device message : String)
  /-- The firmware rejected a command. -/
  | rejected (command : String) (code : StatusCode)
  | wrongLength (command : String) (expected actual : Nat)
  | malformed (command message : String)
  | timeout (device : String) (milliseconds : Nat)
  /-- Nobody touched the device in time. -/
  | unconfirmed
  | unsupported (vendor product : UInt16)
  deriving DecidableEq, Repr

namespace DeviceError

def message : DeviceError → String
  | .notFound device => s!"Device not found: {device}"
  | .disconnected device => s!"Device disconnected: {device}"
  | .communication device message => s!"Communication error with device {device}: {message}"
  | .rejected command code => s!"The CTAPHID {command} command failed with status {code.text}"
  | .wrongLength command expected actual =>
      s!"The response for the CTAPHID {command} command has an unexpected length (expected: "
        ++ s!"{expected}, actual: {actual})"
  | .malformed command message => s!"Malformed response for the {command} command: {message}"
  | .timeout device milliseconds => s!"Device {device} timeout after {milliseconds}ms"
  | .unconfirmed => "The user confirmation request timed out"
  | .unsupported vendor product =>
      "Unsupported device: vendor=0x" ++ String.ofList (Hex.padded 4 vendor.toNat)
        ++ ", product=0x" ++ String.ofList (Hex.padded 4 product.toNat)

def severity : DeviceError → Severity
  | .disconnected _ => .critical
  | .timeout _ _ | .unconfirmed => .warning
  | _ => .error

def category (_ : DeviceError) : Category :=
  .device

/-- The device vanished: a device that reboots drops its connection in the middle of a command. -/
def isDisconnect : DeviceError → Bool
  | .disconnected _ | .communication _ _ => true
  | _ => false

def statusCode? : DeviceError → Option StatusCode
  | .rejected _ code => some code
  | _ => none

end DeviceError
end Reflash
