import Reflash.Scripted.Device

/-!
# Scripted.Double — stand-ins that remember how they were used

A `ConnectionDouble` answers from queues like a scripted device, but checks the length of each
reply, as a transport does.  A `BootloaderDouble` keeps the images that it was given.
-/

namespace Reflash
namespace Scripted

open Update (BootloaderCall Progress)

/-- A command that a double was sent; the data of a request to an application are those after the
command byte. -/
structure RecordedCall where
  command : UInt8
  application : Option Application
  data : Bytes
  deriving DecidableEq, Repr

def RecordedCall.ofRequest : Request → RecordedCall
  | .direct command _ data => ⟨command, none, data⟩
  | .app application data => ⟨data.headD 0, some application, data.drop 1⟩

structure ConnectionDouble where
  path : Option String
  usbId : Option UsbId
  replies : List (UInt8 × Except DeviceError Bytes) := []
  calls : List RecordedCall := []
  closes : Nat := 0
  winks : Nat := 0

namespace ConnectionDouble

def ofModel (m : Model) : ConnectionDouble where
  path := some s!"/dev/mock-{m.shortName}"
  usbId := some ⟨Model.vendor, m.firmwareProduct⟩

def queue (d : ConnectionDouble) (command : UInt8) (reply : Except DeviceError Bytes) :
    ConnectionDouble :=
  { d with replies := d.replies ++ [(command, reply)] }

/-- Commands are named by their byte. -/
def commandName (command : UInt8) : String :=
  "0x" ++ String.ofList (Hex.padded 2 command.toNat)

def reply (d : ConnectionDouble) (command : UInt8) (length : Option Nat) :
    Except DeviceError Bytes × ConnectionDouble :=
  match nextFor command d.replies with
  | none => (.error (.rejected (commandName command) .invalidCommand), d)
  | some (.error e, replies) => (.error e, { d with replies })
  | some (.ok data, replies) =>
      ((checkLength (commandName command) data length).map fun _ => data, { d with replies })

def answer (d : ConnectionDouble) : (c : Call) → c.Answer × ConnectionDouble
  | .send request length =>
      let call := RecordedCall.ofRequest request
      { d with calls := d.calls ++ [call] }.reply call.command length
  | .wink => (.ok (), { d with winks := d.winks + 1 })
  | .close => (.ok (), { d with closes := d.closes + 1 })

end ConnectionDouble

structure BootloaderDouble where
  model : Model
  variant : Variant
  uuid : Option Uuid := some ⟨0x12345678⟩
  updateError : Option DeviceError := none
  flashed : List Bytes := []
  closes : Nat := 0

namespace BootloaderDouble

def path : String := "/dev/mock-bootloader"

/-- Images are written in blocks of 4096 bytes; the end is reported in any case. -/
def progressOf (total : Nat) : Progress :=
  ((List.range (total / 4096 + 1)).map fun i => (4096 * i, total)) ++ [(total, total)]

/-- A failure is reported once. -/
def answer (d : BootloaderDouble) : (c : BootloaderCall) → c.Answer × BootloaderDouble
  | .uuid => (.ok d.uuid, d)
  | .update image =>
      match d.updateError with
      | some e => (([], .error e), { d with updateError := none })
      | none => ((progressOf image.length, .ok ()), { d with flashed := d.flashed ++ [image] })
  | .reboot => (.ok true, d)
  | .close => (.ok (), { d with closes := d.closes + 1 })

end BootloaderDouble
end Scripted
end Reflash
