import Reflash.Dfu.Packet
import Reflash.Wire.Fault

/-!
# Dfu.Fault — why bytes are no packet

The messages of an upload with the names that their fields are known by.
-/

namespace Reflash
namespace Dfu

open Wire (Shape)

abbrev Fields : Type :=
  List (Nat × String × Shape)

def hashFields : Fields :=
  [(1, "hash_type", .number), (2, "hash", .bytes)]

def bootValidationFields : Fields :=
  [(1, "r#type", .number), (2, "bytes", .bytes)]

def initCommandFields : Fields :=
  [(1, "fw_version", .number), (2, "hw_version", .number), (3, "sd_req", .numbers),
    (4, "r#type", .number), (5, "sd_size", .number), (6, "bl_size", .number),
    (7, "app_size", .number), (8, "hash", .message "Hash" hashFields), (9, "is_debug", .number),
    (10, "boot_validation", .message "BootValidation" bootValidationFields)]

def resetCommandFields : Fields :=
  [(1, "timeout", .number)]

def commandFields : Fields :=
  [(1, "op_code", .number), (2, "init", .message "InitCommand" initCommandFields),
    (3, "reset", .message "ResetCommand" resetCommandFields)]

def signedCommandFields : Fields :=
  [(1, "command", .message "Command" commandFields), (2, "signature_type", .number),
    (3, "signature", .bytes)]

def packetFields : Fields :=
  [(1, "command", .message "Command" commandFields),
    (2, "signed_command", .message "SignedCommand" signedCommandFields)]

/-- What is wrong with bytes that are no packet. -/
def Packet.fault (b : Bytes) : Wire.Fault :=
  (Shape.fault? depth "Packet" packetFields b).getD ⟨.cutOff, []⟩

end Dfu
end Reflash
