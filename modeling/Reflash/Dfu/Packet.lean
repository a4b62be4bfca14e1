import Reflash.Wire.Field

/-!
# Dfu.Packet — the messages of a firmware upload

An upload is announced by a packet, which holds a command, plain or signed.  The command that starts
an upload describes the binary.  All fields are optional, and a field that was not written differs
from one that was written with its default.  Of several numbers in one field the last one counts,
and several messages in one field are merged.

* `Packet.ofBytes?` — reading a packet;
* `InitCommand.encode` — the form of a command that signatures are made over.
-/

namespace Reflash
namespace Dfu

open Wire (Field Value)

/-- Messages in a packet may be nested this deep. -/
def depth : Nat := 100

/-- Reads a message as changes of what is known of it. -/
def merge? {α : Type} (step : α → Field → Option α) (depth : Nat) (known : α) (b : Bytes) :
    Option α := do
  (← Wire.fields? depth b).foldlM step known

/-- The field, if it was written. -/
def optional {α : Type} (number : Nat) (value : α → Value) (a : Option α) : List Field :=
  (a.map fun a => ⟨number, value a⟩).toList

/-! ## Messages -/

structure Hash where
  kind : Option Int32 := none
  digest : Option Bytes := none
  deriving DecidableEq, Repr

structure BootValidation where
  kind : Option Int32 := none
  bytes : Option Bytes := none
  deriving DecidableEq, Repr

/-- The description of a binary. -/
structure InitCommand where
  version : Option UInt32 := none
  hardware : Option UInt32 := none
  /-- The versions of the radio stack that the binary runs with. -/
  stackVersions : List UInt32 := []
  kind : Option Int32 := none
  stackSize : Option UInt32 := none
  bootloaderSize : Option UInt32 := none
  appSize : Option UInt32 := none
  hash : Option Hash := none
  isDebug : Option Bool := none
  bootValidation : List BootValidation := []
  deriving DecidableEq, Repr

structure ResetCommand where
  timeout : Option UInt32 := none
  deriving DecidableEq, Repr

structure Command where
  operation : Option Int32 := none
  init : Option InitCommand := none
  reset : Option ResetCommand := none
  deriving DecidableEq, Repr

structure SignedCommand where
  command : Option Command := none
  signatureKind : Option Int32 := none
  signature : Option Bytes := none
  deriving DecidableEq, Repr

structure Packet where
  command : Option Command := none
  signedCommand : Option SignedCommand := none
  deriving DecidableEq, Repr

/-! ## Reading and writing -/

namespace Hash

def step (h : Hash) : Field → Option Hash
  | ⟨1, v⟩ => v.int?.map fun kind => { h with kind := some kind }
  | ⟨2, v⟩ => v.bytes?.map fun digest => { h with digest := some digest }
  | _ => some h

def fields (h : Hash) : List Field :=
  optional 1 .ofInt h.kind ++ optional 2 .bytes h.digest

def encode (h : Hash) : Bytes :=
  Wire.encode h.fields

end Hash

namespace BootValidation

def step (v : BootValidation) : Field → Option BootValidation
  | ⟨1, value⟩ => value.int?.map fun kind => { v with kind := some kind }
  | ⟨2, value⟩ => value.bytes?.map fun bytes => { v with bytes := some bytes }
  | _ => some v

def fields (v : BootValidation) : List Field :=
  optional 1 .ofInt v.kind ++ optional 2 .bytes v.bytes

def encode (v : BootValidation) : Bytes :=
  Wire.encode v.fields

end BootValidation

namespace InitCommand

def step (depth : Nat) (c : InitCommand) : Field → Option InitCommand
  | ⟨1, v⟩ => v.word?.map fun version => { c with version := some version }
  | ⟨2, v⟩ => v.word?.map fun hardware => { c with hardware := some hardware }
  | ⟨3, v⟩ =>
      v.words?.map fun stackVersions => { c with stackVersions := c.stackVersions ++ stackVersions }
  | ⟨4, v⟩ => v.int?.map fun kind => { c with kind := some kind }
  | ⟨5, v⟩ => v.word?.map fun size => { c with stackSize := some size }
  | ⟨6, v⟩ => v.word?.map fun size => { c with bootloaderSize := some size }
  | ⟨7, v⟩ => v.word?.map fun size => { c with appSize := some size }
  | ⟨8, v⟩ => do
      let hash ← merge? Hash.step (depth - 1) (c.hash.getD {}) (← v.bytes?)
      return { c with hash := some hash }
  | ⟨9, v⟩ => v.bool?.map fun isDebug => { c with isDebug := some isDebug }
  | ⟨10, v⟩ => do
      let validation ← merge? BootValidation.step (depth - 1) {} (← v.bytes?)
      return { c with bootValidation := c.bootValidation ++ [validation] }
  | _ => some c

/-- Numbers of the radio stack are packed; without any, the field is left out. -/
def fields (c : InitCommand) : List Field :=
  optional 1 .ofWord c.version ++ optional 2 .ofWord c.hardware
    ++ (if c.stackVersions = [] then [] else [⟨3, .pack c.stackVersions⟩])
    ++ optional 4 .ofInt c.kind ++ optional 5 .ofWord c.stackSize
    ++ optional 6 .ofWord c.bootloaderSize ++ optional 7 .ofWord c.appSize
    ++ optional 8 (fun h => .bytes h.encode) c.hash ++ optional 9 .ofBool c.isDebug
    ++ c.bootValidation.map fun v => ⟨10, .bytes v.encode⟩

def encode (c : InitCommand) : Bytes :=
  Wire.encode c.fields

def ofBytes? (b : Bytes) : Option InitCommand :=
  merge? (step depth) depth {} b

end InitCommand

namespace ResetCommand

def step (c : ResetCommand) : Field → Option ResetCommand
  | ⟨1, v⟩ => v.word?.map fun timeout => { c with timeout := some timeout }
  | _ => some c

def encode (c : ResetCommand) : Bytes :=
  Wire.encode (optional 1 .ofWord c.timeout)

end ResetCommand

namespace Command

def step (depth : Nat) (c : Command) : Field → Option Command
  | ⟨1, v⟩ => v.int?.map fun operation => { c with operation := some operation }
  | ⟨2, v⟩ => do
      let init ← merge? (InitCommand.step (depth - 1)) (depth - 1) (c.init.getD {}) (← v.bytes?)
      return { c with init := some init }
  | ⟨3, v⟩ => do
      let reset ← merge? ResetCommand.step (depth - 1) (c.reset.getD {}) (← v.bytes?)
      return { c with reset := some reset }
  | _ => some c

def encode (c : Command) : Bytes :=
  Wire.encode (optional 1 .ofInt c.operation ++ optional 2 (fun i => .bytes i.encode) c.init
    ++ optional 3 (fun r => .bytes r.encode) c.reset)

end Command

namespace SignedCommand

def step (depth : Nat) (c : SignedCommand) : Field → Option SignedCommand
  | ⟨1, v⟩ => do
      let command ← merge? (Command.step (depth - 1)) (depth - 1) (c.command.getD {}) (← v.bytes?)
      return { c with command := some command }
  | ⟨2, v⟩ => v.int?.map fun kind => { c with signatureKind := some kind }
  | ⟨3, v⟩ => v.bytes?.map fun signature => { c with signature := some signature }
  | _ => some c

def encode (c : SignedCommand) : Bytes :=
  Wire.encode (optional 1 (fun c => .bytes c.encode) c.command ++ optional 2 .ofInt c.signatureKind
    ++ optional 3 .bytes c.signature)

end SignedCommand

namespace Packet

def step (depth : Nat) (p : Packet) : Field → Option Packet
  | ⟨1, v⟩ => do
      let command ← merge? (Command.step (depth - 1)) (depth - 1) (p.command.getD {}) (← v.bytes?)
      return { p with command := some command }
  | ⟨2, v⟩ => do
      let signed ← merge? (SignedCommand.step (depth - 1)) (depth - 1) (p.signedCommand.getD {})
        (← v.bytes?)
      return { p with signedCommand := some signed }
  | _ => some p

def encode (p : Packet) : Bytes :=
  Wire.encode (optional 1 (fun c => .bytes c.encode) p.command
    ++ optional 2 (fun c => .bytes c.encode) p.signedCommand)

def ofBytes? (b : Bytes) : Option Packet :=
  merge? (step depth) depth {} b

/-- The command that counts: if there is a signed one, the plain one is not looked at. -/
def initCommand? (p : Packet) : Option InitCommand := do
  let command ← match p.signedCommand with
    | some signed => signed.command
    | none => p.command
  command.init

end Packet

end Dfu
end Reflash
