import Reflash.Update.Question

/-!
# Scripted.Device — devices that answer as they are told

A scripted device takes its answers from queues.  A script that runs out does not fail: the device
then rejects every command as unknown, and everything else succeeds.
-/

namespace Reflash
namespace Scripted

open Update (BootloaderCall Progress)

/-- The first of a queue, or a default. -/
def next {α : Type} (default : α) : List α → α × List α
  | [] => (default, [])
  | a :: rest => (a, rest)

/-- The first entry under a key, and the queue without it. -/
def nextFor {κ α : Type} [DecidableEq κ] (key : κ) : List (κ × α) → Option (α × List (κ × α))
  | [] => none
  | (k, a) :: rest =>
      if k = key then some (a, rest)
      else (nextFor key rest).map fun (found, rest) => (found, (k, a) :: rest)

/-- The byte by which the answer to a request is found. -/
def commandByte : Request → UInt8
  | .direct command _ _ => command
  | .app _ data => data.headD 0

structure Device where
  model : Model
  name : String := "dev"
  path : Option String := none
  usbId : Option UsbId := none
  replies : List (UInt8 × Except DeviceError Bytes) := []
  closes : List (Except DeviceError Unit) := []
  winks : List (Except DeviceError Unit) := []

namespace Device

def answer (d : Device) : (c : Call) → c.Answer × Device
  | .send request _ =>
      match nextFor (commandByte request) d.replies with
      | some (reply, replies) => (reply, { d with replies })
      | none => (.error (.rejected "unscripted" .invalidCommand), d)
  | .wink =>
      let (result, winks) := next (.ok ()) d.winks
      (result, { d with winks })
  | .close =>
      let (result, closes) := next (.ok ()) d.closes
      (result, { d with closes })

end Device

structure Bootloader where
  model : Model
  variant : Variant
  name : String := "boot"
  path : Option String := none
  uuids : List (Except DeviceError (Option Uuid)) := []
  progress : Progress := []
  updates : List (Except DeviceError Unit) := []
  reboots : List (Except DeviceError Bool) := []
  closes : List (Except DeviceError Unit) := []

namespace Bootloader

def answer (b : Bootloader) : (c : BootloaderCall) → c.Answer × Bootloader
  | .uuid =>
      let (result, uuids) := next (.ok none) b.uuids
      (result, { b with uuids })
  | .update _ =>
      let (result, updates) := next (.ok ()) b.updates
      ((b.progress, result), { b with updates })
  | .reboot =>
      let (result, reboots) := next (.ok true) b.reboots
      (result, { b with reboots })
  | .close =>
      let (result, closes) := next (.ok ()) b.closes
      (result, { b with closes })

end Bootloader
end Scripted
end Reflash
