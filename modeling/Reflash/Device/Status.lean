import Reflash.Device.Model

/-!
# Device.Status — what a device reports about itself

Status replies grew over time: the first byte is the result of the initialization, three more give
the free blocks of the two file systems, a fifth the platform.  Whatever a reply does not reach is
absent from the decoded `Status`.
-/

namespace Reflash

/-- The flags of the initialization; any set flag is a problem. -/
structure InitStatus where
  bits : UInt8
  deriving DecidableEq, Repr

namespace InitStatus

def flags : List (UInt8 × String) :=
  [(0x01, "NFC_ERROR"), (0x02, "INTERNAL_FLASH_ERROR"), (0x04, "EXTERNAL_FLASH_ERROR"),
    (0x08, "MIGRATION_ERROR"), (0x10, "SE050_ERROR"), (0x20, "CONFIG_ERROR"), (0x40, "RNG_ERROR"),
    (0x80, "EXT_FLASH_NEED_REFORMAT")]

def contains (s other : InitStatus) : Bool :=
  s.bits &&& other.bits == other.bits

def isError (s : InitStatus) : Bool :=
  s.bits != 0

def text (s : InitStatus) : String :=
  if s.isError then
    ", ".intercalate ((flags.filter fun (flag, _) => s.contains ⟨flag⟩).map (·.2))
      ++ " (0x" ++ String.ofList (Nat.toDigits 16 s.bits.toNat) ++ ")"
  else "ok"

end InitStatus

structure Status where
  init : Option InitStatus := none
  ifsBlocks : Option Nat := none
  efsBlocks : Option Nat := none
  platform : Option Platform := none
  deriving DecidableEq, Repr

def Status.ofReply : Bytes → Except DeviceError Status
  | [] => .error (.malformed "STATUS" "The device returned an empty status")
  | init :: ifs :: high :: low :: rest => .ok {
      init := some ⟨init⟩
      ifsBlocks := some ifs.toNat
      efsBlocks := some (256 * high.toNat + low.toNat)
      platform := rest.head?.bind Platform.ofCode? }
  | init :: _ => .ok { init := some ⟨init⟩ }

/-- A 128-bit identifier of a device. -/
structure Uuid where
  value : Nat
  deriving DecidableEq, Repr

namespace Uuid

def ofBytes (b : Bytes) : Uuid :=
  ⟨Bytes.bigEndian b⟩

def text (u : Uuid) : String :=
  String.ofList ((Hex.padded 32 u.value).map Char.toUpper)

end Uuid
end Reflash
