import Reflash.Bytes

/-!
# Crypto.Der — the distinguished encoding of structured data

An element is a tag, a length and a content.  Each value has one encoding, so lengths must be
written as short as possible; tags are the single-byte ones of the universal, application, context
and private classes.

* `Der.Element.encode` — the encoding;
* `Der.Oid` — object identifiers and their dotted form.
-/

namespace Reflash
namespace Der

structure Element where
  tag : UInt8
  content : Bytes
  deriving DecidableEq, Repr

/-! ## Tags and lengths -/

/-- The universal tags that are in use, with their names. -/
def universalTags : List (UInt8 × String) := [
  (0x01, "BOOLEAN"),
  (0x02, "INTEGER"),
  (0x03, "BIT STRING"),
  (0x04, "OCTET STRING"),
  (0x05, "NULL"),
  (0x06, "OBJECT IDENTIFIER"),
  (0x09, "REAL"),
  (0x0A, "ENUMERATED"),
  (0x0C, "UTF8String"),
  (0x12, "NumericString"),
  (0x13, "PrintableString"),
  (0x14, "TeletexString"),
  (0x15, "VideotexString"),
  (0x16, "IA5String"),
  (0x17, "UTCTime"),
  (0x18, "GeneralizedTime"),
  (0x1A, "VisibleString"),
  (0x1E, "BMPString"),
  (0x30, "SEQUENCE"),
  (0x31, "SET")]

/-- A universal tag that is in use, or a tag of another class with a number below 31. -/
def isTag (t : UInt8) : Bool :=
  (universalTags.lookup t).isSome || (0x40 ≤ t && t &&& 0x1F != 0x1F)

/-- Whether a tag is of the context-specific class, and its number. -/
def contextNumber? (t : UInt8) : Option UInt8 :=
  if 0x80 ≤ t ∧ t < 0xC0 then some (t &&& 0x1F) else none

/-- A length in its shortest form: one byte up to 127, else the number of bytes that follow. -/
def encodeLength (n : Nat) : Bytes :=
  if n < 0x80 then [UInt8.ofNat n]
  else
    let digits := minimal n
    UInt8.ofNat (0x80 + digits.length) :: digits
where
  minimal (n : Nat) : Bytes := if n = 0 then [] else minimal (n / 256) ++ [UInt8.ofNat (n % 256)]

/-! ## Elements -/

def Element.encode (e : Element) : Bytes :=
  e.tag :: encodeLength e.content.length ++ e.content

def sequence (parts : List Element) : Element :=
  ⟨0x30, parts.flatMap Element.encode⟩

/-! ## Object identifiers -/

structure Oid where
  content : Bytes
  deriving DecidableEq, Repr

namespace Oid

/-- The arcs after the first two; an arc has at most five bytes and is kept to 32 bits. -/
def arcsFrom (value count : Nat) : Bytes → Option (List Nat)
  | [] => if count = 0 then some [] else none
  | x :: rest =>
      if 4 ≤ count ∧ x &&& 0xF0 ≠ 0 then none
      else
        let value := (128 * value + x.toNat % 128) % 0x100000000
        if x < 0x80 then (arcsFrom 0 0 rest).map (value :: ·) else arcsFrom value (count + 1) rest

def arcs? (o : Oid) : Option (List Nat) :=
  match o.content with
  | [] => none
  | x :: rest =>
      if x < 120 then (arcsFrom 0 0 rest).map fun arcs => x.toNat / 40 :: x.toNat % 40 :: arcs
      else none

/-- An object identifier has three bytes at least, and thirty-nine at most. -/
def ofContent? (content : Bytes) : Option Oid :=
  let o : Oid := ⟨content⟩
  if 3 ≤ content.length ∧ content.length ≤ 39 ∧ o.arcs?.isSome then some o else none

def element (o : Oid) : Element :=
  ⟨0x06, o.content⟩

def text (o : Oid) : String :=
  ".".intercalate ((o.arcs?.getD []).map toString)

end Oid

/-! ## Integers and bit strings -/

/-- Whether an integer has no superfluous leading bytes. -/
def isMinimal : Bytes → Bool
  | [] => false
  | [_] => true
  | x :: y :: _ => !((x = 0x00 ∧ y < 0x80) ∨ (x = 0xFF ∧ 0x80 ≤ y))

def integer (content : Bytes) : Element :=
  ⟨0x02, content⟩

/-- The shortest content of a number that is not negative. -/
def natural (n : Nat) : Element :=
  let digits := encodeLength.minimal n
  integer (if digits.head?.all (0x80 ≤ ·) then 0 :: digits else digits)

/-- Bytes of which the last `unused` bits do not count. -/
structure BitString where
  unused : UInt8
  bytes : Bytes
  deriving DecidableEq, Repr

namespace BitString

def ofContent? : Bytes → Option BitString
  | [] => none
  | unused :: bytes =>
      if unused ≤ 7 ∧ (unused = 0 ∨ bytes ≠ []) then some ⟨unused, bytes⟩ else none

def element (s : BitString) (tag : UInt8) : Element :=
  ⟨tag, s.unused :: s.bytes⟩

/-- The bytes, if all bits count. -/
def bytes? (s : BitString) : Option Bytes :=
  if s.unused = 0 then some s.bytes else none

end BitString

end Der
end Reflash
