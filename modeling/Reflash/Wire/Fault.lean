import Reflash.Wire.Field

/-!
# Wire.Fault — why bytes are no message

A message that cannot be read is looked through once more, field by field, up to the first fault.
The fault is told with the fields around it, from the innermost one outwards.

* `Wire.Shape.fault?` — the first fault of a message of some shape.
-/

namespace Reflash
namespace Wire

/-- The kinds of values. -/
inductive Kind where
  | varint
  | doubleWord
  | bytes
  | groupStart
  | groupEnd
  | word
  deriving DecidableEq, Repr

namespace Kind

def ofNumber? : Nat → Option Kind
  | 0 => some .varint
  | 1 => some .doubleWord
  | 2 => some .bytes
  | 3 => some .groupStart
  | 4 => some .groupEnd
  | 5 => some .word
  | _ => none

def text : Kind → String
  | .varint => "Varint"
  | .doubleWord => "SixtyFourBit"
  | .bytes => "LengthDelimited"
  | .groupStart => "StartGroup"
  | .groupEnd => "EndGroup"
  | .word => "ThirtyTwoBit"

end Kind

inductive Cause where
  | badNumber
  | badKey (key : Nat)
  | badKind (number : Nat)
  | fieldZero
  | wrongKind (actual expected : Kind)
  | cutOff
  | overrun
  | strayGroupEnd
  | tooDeep
  deriving DecidableEq, Repr

def Cause.message : Cause → String
  | .badNumber => "invalid varint"
  | .badKey key => s!"invalid key value: {key}"
  | .badKind number => s!"invalid wire type value: {number}"
  | .fieldZero => "invalid tag value: 0"
  | .wrongKind actual expected => s!"invalid wire type: {actual.text} (expected {expected.text})"
  | .cutOff => "buffer underflow"
  | .overrun => "delimited length exceeded"
  | .strayGroupEnd => "unexpected end group tag"
  | .tooDeep => "recursion limit reached"

structure Fault where
  cause : Cause
  /-- The fields around the fault, innermost first, each after the name of its message. -/
  path : List (String × String) := []
  deriving DecidableEq, Repr

def Fault.message (f : Fault) : String :=
  "failed to decode Protobuf message: "
    ++ String.join (f.path.map fun (message, field) => s!"{message}.{field}: ") ++ f.cause.message

/-- What the values of a field look like. -/
inductive Shape where
  | number
  | bytes
  /-- Numbers one by one, or several of them in a byte string. -/
  | numbers
  | message (name : String) (fields : List (Nat × String × Shape))

/-! ## Looking through bytes -/

/-- Passes over bytes until there is a fault. -/
abbrev Scan : Type → Type :=
  StateT Bytes (Except Fault)

namespace Scan

def fail {α : Type} (cause : Cause) : Scan α :=
  throw ⟨cause, []⟩

def varint : Scan Nat := do
  match Varint.decode? (← get) with
  | some (n, rest) => do
      set rest
      return n
  | none => fail .badNumber

def pass (size : Nat) : Scan Unit := do
  if (← get).length < size then fail .cutOff
  modify (·.drop size)

/-- The number of a field and the kind of its value. -/
def key : Scan (Nat × Kind) := do
  let key ← varint
  if 0x100000000 ≤ key then fail (.badKey key)
  match Kind.ofNumber? (key % 8) with
  | some kind => if key < 8 then fail .fieldZero else return (key / 8, kind)
  | none => fail (.badKind (key % 8))

def expect (expected actual : Kind) : Scan Unit :=
  if actual = expected then return () else fail (.wrongKind actual expected)

/-- Repeats a step while more than `left` bytes are left.  Each step takes a byte at least, so that
`fuel` of them are enough. -/
def downTo (step : Scan Unit) (left : Nat) : (fuel : Nat) → Scan Unit
  | 0 => return ()
  | fuel + 1 => do
      let size := (← get).length
      if left < size then
        step
        downTo step left fuel
      else if size < left then fail .overrun

/-- Repeats a step in a byte string. -/
def sized (step : Scan Unit) : Scan Unit := do
  let size ← varint
  let available := (← get).length
  if available < size then fail .cutOff
  downTo step (available - size) (size + 1)

/-- Passes over fields up to the end of a group. -/
def passGroup (passValue : Nat → Kind → Scan Unit) (group : Nat) : (fuel : Nat) → Scan Unit
  | 0 => return ()
  | fuel + 1 => do
      let (number, kind) ← key
      if kind = .groupEnd then
        if number ≠ group then fail .strayGroupEnd
      else
        passValue number kind
        passGroup passValue group fuel

/-- Passes over the value of a field; groups may be nested up to a limit. -/
def passValue : (limit : Nat) → (number : Nat) → Kind → Scan Unit
  | 0, _, _ => fail .tooDeep
  | limit + 1, number, kind => do
      match kind with
      | .varint => discard varint
      | .doubleWord => pass 8
      | .bytes => pass (← varint)
      | .groupStart => passGroup (passValue limit) number ((← get).length + 1)
      | .groupEnd => fail .strayGroupEnd
      | .word => pass 4

/-- Notes the field around a fault. -/
def inField (message field : String) (scan : Scan Unit) : Scan Unit :=
  tryCatch scan fun fault => throw { fault with path := fault.path ++ [(message, field)] }

/-- Passes over a field, in a message whose values are passed over by `value`. -/
def field (limit : Nat) (value : Shape → Kind → Scan Unit) (message : String)
    (fields : List (Nat × String × Shape)) : Scan Unit := do
  let (number, kind) ← key
  match fields.lookup number with
  | some (name, shape) => inField message name (value shape kind)
  | none => passValue limit number kind

/-- Passes over a value of some shape; messages may be nested up to a limit. -/
def value : (limit : Nat) → Shape → Kind → Scan Unit
  | _, .number, kind => do
      expect .varint kind
      discard varint
  | _, .bytes, kind => do
      expect .bytes kind
      pass (← varint)
  | _, .numbers, kind =>
      if kind = .bytes then sized (discard varint)
      else do
        expect .varint kind
        discard varint
  | 0, .message .., kind => do
      expect .bytes kind
      fail .tooDeep
  | limit + 1, .message name fields, kind => do
      expect .bytes kind
      sized (field limit (value limit) name fields)

end Scan

/-- The first fault of a message with these fields. -/
def Shape.fault? (limit : Nat) (message : String) (fields : List (Nat × String × Shape))
    (b : Bytes) : Option Fault :=
  let scan := Scan.downTo (Scan.field limit (Scan.value limit) message fields) 0 (b.length + 1)
  match scan.run b with
  | .ok _ => none
  | .error fault => some fault

end Wire
end Reflash
