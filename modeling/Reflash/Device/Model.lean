import Reflash.Device.Error

/-!
# Device.Model — models, hardware variants and USB identifiers

A model is built on one or two microcontrollers, its variants.  Each model has a USB product number
for its firmware and one for the bootloader of each variant that it ships.  The firmware itself
reports a `Platform`, which may also be the simulated one, and that one cannot be flashed.
-/

namespace Reflash

/-- What the firmware says it runs on. -/
inductive Platform where
  | usbip
  | lpc55
  | nrf52
  deriving DecidableEq, Repr

namespace Platform

def text : Platform → String
  | .usbip => "usbip"
  | .lpc55 => "lpc55"
  | .nrf52 => "nrf52"

def ofCode? (code : UInt8) : Option Platform :=
  [((0 : UInt8), Platform.usbip), (1, .lpc55), (2, .nrf52)].lookup code

end Platform

/-- The microcontroller family that an image is built for. -/
inductive Variant where
  | lpc55
  | nrf52
  deriving DecidableEq, Repr

inductive ModelError where
  | unknownModel (name : String)
  | unknownVariant (name : String)
  | unsupportedPlatform (platform : Platform)
  deriving DecidableEq, Repr

def ModelError.message : ModelError → String
  | .unknownModel name => s!"Unknown model {name}"
  | .unknownVariant name => s!"Unknown variant {name}"
  | .unsupportedPlatform platform => s!"Unsupported variant {platform.text}"

namespace Variant

def all : List Variant :=
  [.lpc55, .nrf52]

def text : Variant → String
  | .lpc55 => "lpc55"
  | .nrf52 => "nrf52"

def label : Variant → String
  | .lpc55 => "LPC55"
  | .nrf52 => "NRF52"

def ofText (s : String) : Except ModelError Variant :=
  match all.find? (·.text = s) with
  | some v => .ok v
  | none => .error (.unknownVariant s)

def ofPlatform : Platform → Except ModelError Variant
  | .lpc55 => .ok .lpc55
  | .nrf52 => .ok .nrf52
  | .usbip => .error (.unsupportedPlatform .usbip)

end Variant

inductive Model where
  | nk3
  | nkpk
  deriving DecidableEq, Repr

/-- What a USB device runs. -/
inductive Mode where
  | firmware
  | bootloader (variant : Variant)
  deriving DecidableEq, Repr

/-- A vendor and a product number. -/
structure UsbId where
  vendor : UInt16
  product : UInt16
  deriving DecidableEq, Repr

namespace Model

def all : List Model :=
  [.nk3, .nkpk]

def name : Model → String
  | .nk3 => "Nitrokey 3"
  | .nkpk => "Nitrokey Passkey"

def shortName : Model → String
  | .nk3 => "nk3"
  | .nkpk => "nkpk"

def lowerAscii (s : String) : List Char :=
  s.toList.map Char.toLower

/-- Takes the full name as it is, and the short name in any case. -/
def ofText (s : String) : Except ModelError Model :=
  match all.find? fun m => m.name = s || lowerAscii m.shortName = lowerAscii s with
  | some m => .ok m
  | none => .error (.unknownModel s)

def variants : Model → List Variant
  | .nk3 => [.lpc55, .nrf52]
  | .nkpk => [.nrf52]

def bootloaderName (m : Model) (v : Variant) : String :=
  match m with
  | .nk3 => s!"{m.name} Bootloader ({v.label})"
  | .nkpk => s!"{m.name} Bootloader"

/-! ## USB identifiers -/

/-- The vendor number of all models. -/
def vendor : UInt16 := 0x20A0

def firmwareProduct : Model → UInt16
  | .nk3 => 0x42B2
  | .nkpk => 0x42F3

def bootloaderProduct? : Model → Variant → Option UInt16
  | .nk3, .lpc55 => some 0x42DD
  | .nk3, .nrf52 => some 0x42E8
  | .nkpk, .nrf52 => some 0x42F4
  | .nkpk, .lpc55 => none

def product? (m : Model) : Mode → Option UInt16
  | .firmware => some m.firmwareProduct
  | .bootloader v => m.bootloaderProduct? v

/-- The modes that a model can be met in. -/
def modes (m : Model) : List Mode :=
  .firmware :: m.variants.map .bootloader

def identify? (id : UsbId) : Option (Model × Mode) :=
  if id.vendor = vendor then
    (all.flatMap fun m => m.modes.map fun mode => (m, mode)).find? fun (m, mode) =>
      m.product? mode = some id.product
  else none

/-- Refuses identifiers other than those of the model in that mode. -/
def checkUsbId (m : Model) (mode : Mode) (id : UsbId) : Except DeviceError Unit :=
  if id.vendor = vendor ∧ m.product? mode = some id.product then .ok ()
  else .error (.unsupported id.vendor id.product)

end Model
end Reflash
