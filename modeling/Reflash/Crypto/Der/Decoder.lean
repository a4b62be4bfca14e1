import Reflash.Crypto.Der.Fault

/-!
# Crypto.Der.Decoder — decoding with the place of faults

A decoder reads elements one after the other, inside the content of the element around them.

* `Der.DecoderM` — decoders;
* `Der.inside` — decoding of a content;
* `Der.field` — a field, in which faults are told together with its place;
* `Der.decodeAll` — decoding of a byte string.
-/

namespace Reflash
namespace Der

/-- The place that has been reached, and the bytes from there on. -/
structure Cursor where
  offset : Nat
  ahead : Bytes

/-- Where the content begins and ends that is decoded. -/
structure Frame where
  start : Nat
  stop : Nat

abbrev DecoderM : Type → Type :=
  ReaderT Frame (ExceptT Fault (StateM Cursor))

/-! ## Bytes -/

def fail {α : Type} (cause : Cause) : DecoderM α :=
  throw { cause }

def offset : DecoderM Nat :=
  return (← get).offset

/-- The number of bytes left. -/
def left : DecoderM Nat :=
  return (← read).stop - (← offset)

/-- Insists on a number of bytes. -/
def demand (count : Nat) : DecoderM Unit := do
  let stop := (← read).stop
  let place ← offset
  if stop < place + count then
    throw { cause := .incomplete (place + count) stop, position := some place }

def bytes (count : Nat) : DecoderM Bytes := do
  demand count
  let c ← get
  set { offset := c.offset + count, ahead := c.ahead.drop count : Cursor }
  return c.ahead.take count

def byte : DecoderM UInt8 :=
  return (← bytes 1).headD 0

/-- The next byte, which is still to be read. -/
def peek? : DecoderM (Option UInt8) := do
  let ahead := (← get).ahead
  return if (← left) = 0 then none else ahead.head?

/-! ## Elements -/

/-- Insists on a tag that is in use. -/
def checkTag (tag : UInt8) : DecoderM Unit :=
  if tag &&& 0x1F = 0x1F then fail .badTagNumber
  else if isTag tag then return ()
  else fail (.unknownTag tag)

/-- A length, which must be written as short as possible. -/
def length : DecoderM Nat := do
  let first ← byte
  if first < 0x80 then return first.toNat
  if first = 0x80 then fail .indefinite
  if 0x84 < first then fail .tooLong
  let size := first.toNat - 0x80
  let n ← (List.range size).foldlM (fun n _ => return 256 * n + (← byte).toNat) 0
  if 0x10000000 ≤ n then fail .overflow
  if n < 0x80 ∨ n < 1 <<< (8 * (size - 1)) then fail .tooLong
  return n

/-- The tag and the length of an element. -/
def header : DecoderM (UInt8 × Nat) := do
  let tag ← byte
  checkTag tag
  let size ← tryCatch length fun fault =>
    if fault.cause = .tooLong then fail (.badLength tag) else throw fault
  return (tag, size)

/-- The length of an element that must have a tag. -/
def expect (tag : UInt8) : DecoderM Nat := do
  let (actual, size) ← header
  if actual = tag then return size else fail (.unexpectedTag (some tag) actual)

/-- Decodes a content of some length, all of which must be read. -/
def inside {α : Type} (size : Nat) (content : DecoderM α) : DecoderM α := do
  demand size
  let start ← offset
  withReader (fun _ => { start, stop := start + size }) do
    let a ← content
    let rest ← left
    if rest = 0 then return a
    throw { cause := .trailing (size - rest) rest, position := some (size - rest) }

/-- A sequence, or another element that consists of elements. -/
def parts {α : Type} (tag : UInt8) (content : DecoderM α) : DecoderM α := do
  inside (← expect tag) content

/-- A field.  The place in the content around it that has been reached is added to the position of a
fault. -/
def field {α : Type} (value : DecoderM α) : DecoderM α :=
  tryCatch value fun fault => do
    let place := (← offset) - (← read).start
    throw { fault with position := some (place + fault.position.getD 0) }

/-- Values up to the end of the content; `fuel` bounds their number. -/
def manyWithin {α : Type} (value : DecoderM α) : (fuel : Nat) → DecoderM (List α)
  | 0 => return []
  | fuel + 1 => do
      if (← left) = 0 then return []
      let a ← value
      return a :: (← manyWithin value fuel)

/-- Values up to the end of the content, each of which takes a byte at least. -/
def many {α : Type} (value : DecoderM α) : DecoderM (List α) := do
  manyWithin value (← left)

/-- An element of any kind. -/
def element : DecoderM Element := do
  let (tag, size) ← header
  return { tag, content := ← bytes size }

/-- The element that is left, if there is one. -/
def element? : DecoderM (Option Element) := do
  match ← peek? with
  | none => return none
  | some tag => do
      checkTag tag
      return some (← element)

/-- What stands in the context field of a number, if it comes next; fields of lower numbers are
passed over. -/
def context? {α : Type} (number : UInt8) (value : DecoderM α) : DecoderM (Option α) := do
  seek (← left)
where
  seek : (fuel : Nat) → DecoderM (Option α)
    | 0 => return none
    | fuel + 1 => do
        match ← peek? with
        | none => return none
        | some tag => do
            checkTag tag
            match contextNumber? tag with
            | none => return none
            | some n =>
                if number < n then return none
                else if n = number then return some (← value)
                else do
                  let _ ← element
                  seek fuel

/-- An element around another one, in a context field. -/
def explicit {α : Type} (value : DecoderM α) : DecoderM α := do
  let (tag, size) ← header
  if (contextNumber? tag).isSome && isConstructed tag then inside size value
  else fail (.unexpectedTag none tag)

/-! ## Values -/

def oid : DecoderM Oid := do
  let size ← expect 0x06
  if 39 < size then fail (.badLength 0x06)
  match Oid.ofContent? (← bytes size) with
  | some o => return o
  | none => fail .badOid

/-- The content of an integer without superfluous leading bytes. -/
def integerContent : DecoderM Bytes := do
  let content ← bytes (← expect 0x02)
  if isMinimal content then return content else fail (.notCanonical 0x02)

/-- A number that is not negative. -/
def unsigned : DecoderM Nat := do
  let content ← bytes (← expect 0x02)
  if content.head?.any (0x80 ≤ ·) then fail (.badValue 0x02)
  else if isMinimal content then return Bytes.bigEndian content
  else fail (.notCanonical 0x02)

/-- A number of one byte, and another one in front if its highest bit is set. -/
def octet : DecoderM Nat := do
  let size ← expect 0x02
  if 2 < size then fail (.notCanonical 0x02)
  let content ← bytes size
  match content with
  | [x] => if x < 0x80 then return x.toNat else fail (.badValue 0x02)
  | [0, x] => if 0x80 ≤ x then return x.toNat else fail (.notCanonical 0x02)
  | [x, _] => if 0x80 ≤ x then fail (.badValue 0x02) else fail (.badLength 0x02)
  | _ => fail (.notCanonical 0x02)

/-- The content of a bit string. -/
def bitsOf (size : Nat) : DecoderM BitString := do
  if size = 0 then fail .overflow
  let unused ← byte
  match BitString.ofContent? (unused :: (← bytes (size - 1))) with
  | some s => return s
  | none => fail (.badValue 0x03)

def bitString : DecoderM BitString := do
  bitsOf (← expect 0x03)

/-- A bit string in place of the tag of which stands that of a context field. -/
def implicitBits : DecoderM BitString := do
  let (tag, size) ← header
  let s ← bitsOf size
  if isConstructed tag then fail (.notCanonical tag) else return s

def octets : DecoderM Bytes := do
  bytes (← expect 0x04)

/-- A truth value, which is not written if it is false. -/
def flag : DecoderM Bool := do
  match ← peek? with
  | none => return false
  | some tag => do
      checkTag tag
      if tag ≠ 0x01 then return false
      let size ← expect 0x01
      if size ≠ 1 then throw { cause := .badLength 0x01, position := some (← offset) }
      match ← byte with
      | 0x00 => return false
      | 0xFF => return true
      | _ => fail (.notCanonical 0x01)

/-! ## Byte strings -/

def decodeAll {α : Type} (value : DecoderM α) (b : Bytes) : Except Fault α :=
  let whole : DecoderM α := do
    let a ← value
    let rest ← left
    if rest = 0 then return a
    let place ← offset
    throw { cause := .trailing place rest, position := some place }
  ((whole.run { start := 0, stop := b.length }).run.run { offset := 0, ahead := b }).1

end Der
end Reflash
