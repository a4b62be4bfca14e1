import Reflash.Device.Admin

/-!
# Device.Session — using a device until it is closed

A device is opened for a model, which its USB identifier has to fit.  It may be closed at any time,
and is closed at the end if it was not before; closing it again does nothing.
-/

namespace Reflash

structure OpenDevice where
  model : Model
  path : Option String := none
  isClosed : Bool := false
  deriving DecidableEq, Repr

inductive DeviceOperation where
  | info
  | status
  | version
  | uuid
  | reboot (mode : BootMode)
  | wink
  | close
  | rng
  | isLocked
  | se050Tests
  | hasConfig (key : String)
  | getConfig (key : String)
  | factoryReset
  | factoryResetApp (application : String)
  | call (command : AdminCommand) (data : Bytes) (length : Option Nat)
  deriving DecidableEq, Repr

inductive DeviceReply where
  | done
  | info
  | status (status : Status)
  | version (version : Version)
  | uuid (uuid : Option Uuid)
  | flag (value : Bool)
  | bytes (data : Option Bytes)
  | text (text : String)
  deriving DecidableEq, Repr

/-- A failure of the device, or of a command with a result of its own. -/
inductive DeviceFailure where
  | device (error : DeviceError)
  | admin (error : AdminError)
  deriving DecidableEq, Repr

namespace OpenDevice

abbrev Result : Type :=
  Except DeviceFailure DeviceReply

def «open» (model : Model) (path : Option String) (id : Option UsbId) :
    Except DeviceError OpenDevice := do
  id.forM fun id => model.checkUsbId .firmware id
  return { model, path }

/-- Closes the connection, unless that has been done. -/
def close (d : OpenDevice) : Dialogue Call.Answer (Except DeviceError Unit × OpenDevice) :=
  if d.isClosed then return (.ok (), d)
  else do
    let result ← Dialogue.query Call.close
    return (result, { d with isClosed := true })

def ofDevice {α : Type} (reply : α → DeviceReply) (m : DeviceM α) :
    Dialogue Call.Answer Result :=
  (fun result => (result.map reply).mapError .device) <$> m.run

def ofAdmin {α : Type} (reply : α → DeviceReply) (m : Admin.AdminM α) :
    Dialogue Call.Answer Result :=
  (fun result => (result.map reply).mapError .admin) <$> m.run

/-- All operations but closing. -/
def consult : DeviceOperation → Dialogue Call.Answer Result
  | .info => return .ok .info
  | .close => return .ok .done
  | .status => ofDevice .status Admin.status
  | .version => ofDevice .version Admin.version
  | .uuid => ofDevice .uuid Admin.uuid
  | .reboot mode => ofDevice .flag (Admin.reboot mode)
  | .wink => ofDevice (fun _ => .done) DeviceM.wink
  | .rng => ofDevice (fun b => .bytes (some b)) Admin.rng
  | .isLocked => ofDevice .flag Admin.isLocked
  | .se050Tests => ofDevice .bytes Admin.se050Tests
  | .hasConfig key => ofDevice .flag (Admin.hasConfig key)
  | .getConfig key => ofAdmin .text (Admin.getConfig key)
  | .factoryReset => ofAdmin .flag Admin.factoryReset
  | .factoryResetApp application => ofAdmin .flag (Admin.factoryResetApp application)
  | .call command data length => ofDevice .bytes (Admin.call command data length)

def perform (d : OpenDevice) (operation : DeviceOperation) :
    Dialogue Call.Answer (Result × OpenDevice) :=
  match operation with
  | .close => do
      let (result, d) ← d.close
      return ((result.map fun _ => .done).mapError .device, d)
  | operation => do
      return (← consult operation, d)

/-- Ends the use of a device. -/
def release (d : OpenDevice) : Dialogue Call.Answer Unit := do
  let _ ← d.close

/-- Performs operations in order, and lets go of the device at the end. -/
def session (d : OpenDevice) : List DeviceOperation → Dialogue Call.Answer (List Result)
  | [] => do
      d.release
      return []
  | operation :: rest => do
      let (result, d) ← d.perform operation
      return result :: (← d.session rest)

end OpenDevice
end Reflash
