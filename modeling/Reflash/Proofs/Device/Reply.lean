import Reflash.Device.Admin

/-!
# Device.Reply — admin commands as one call and what its answer tells

The commands that an update sends ask a device once.  `Admin.run_version`, `Admin.run_status` and
`Admin.run_reboot` say so: each is the call, and then a function of the answer alone.
-/

namespace Reflash
namespace Admin

/-! ## The calls -/

def versionCall : Call :=
  .send (AdminCommand.version.request [0x01]) none

def statusCall : Call :=
  .send (AdminCommand.status.request []) none

/-- The command that sends a device into its bootloader. -/
def bootromCall : Call :=
  .send (AdminCommand.update.request []) none

/-! ## What the answers tell -/

/-- Firmware has to know this command. -/
def versionFrom (answer : Except DeviceError Bytes) : Except DeviceError Version :=
  match received .version none answer with
  | .ok (some reply) => versionOfReply reply
  | .ok none => .error (.rejected AdminCommand.version.name .invalidCommand)
  | .error e => .error e

def statusFrom (answer : Except DeviceError Bytes) : Except DeviceError Status :=
  match received .status none answer with
  | .ok (some reply) => Status.ofReply reply
  | .ok none => .ok {}
  | .error e => .error e

def bootromFrom (answer : Except DeviceError Bytes) : Except DeviceError Bool :=
  rebooted .bootrom (received .update none answer)

theorem run_call (c : AdminCommand) (data : Bytes) (length : Option Nat) :
    (call c data length).run =
      received c length <$> Dialogue.query (Call.send (c.request data) length) :=
  rfl

theorem run_version : version.run = versionFrom <$> Dialogue.query versionCall := by
  simp only [version, require, ExceptT.run_bind, run_call, versionCall, bind_assoc,
    ← bind_pure_comp]
  refine congrArg (Dialogue.query _ >>= ·) (funext fun answer => ?_)
  rw [versionFrom]
  rcases received .version none answer with e | _ | reply
  · rfl
  · rfl
  · rfl

theorem run_status : status.run = statusFrom <$> Dialogue.query statusCall := by
  simp only [status, ExceptT.run_bind, run_call, statusCall, bind_assoc, ← bind_pure_comp]
  refine congrArg (Dialogue.query _ >>= ·) (funext fun answer => ?_)
  rw [statusFrom]
  rcases received .status none answer with e | _ | reply
  · rfl
  · rfl
  · rfl

theorem run_reboot : (reboot .bootrom).run = bootromFrom <$> Dialogue.query bootromCall := by
  simp only [reboot, ExceptT.run_mk, run_call, bootromCall, ← bind_pure_comp, bind_assoc]
  rfl

end Admin
end Reflash
