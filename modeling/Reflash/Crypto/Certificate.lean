import Reflash.Crypto.KeyInfo
import Reflash.Text.Decimal

/-!
# Crypto.Certificate — X.509 certificates

A certificate holds a signed part, the algorithm of the signature and the signature.  The signature
is checked over the canonical encoding of the signed part, so a certificate that is written in
another way, with a default value spelled out or the attributes of a name out of order, decodes but
does not verify.

* `Certificate.decode` — decoding;
* `Certificate.signedBytes` — the canonical encoding of the signed part.
-/

namespace Reflash

/-! ## Names -/

/-- A kind of attribute and its value. -/
structure Attribute where
  kind : Der.Oid
  value : Der.Element
  deriving DecidableEq, Repr

/-- A sequence of sets of attributes. -/
abbrev DistinguishedName := List (List Attribute)

namespace Attribute

def decoder : Der.DecoderM Attribute :=
  Der.parts 0x30 do
    let kind ← Der.field Der.oid
    let value ← Der.field Der.element
    return { kind, value }

def encode (a : Attribute) : Bytes :=
  (Der.sequence [a.kind.element, a.value]).encode

/-- The canonical order: by length of the content, then by the encodings. -/
def precedes (a b : Attribute) : Bool :=
  let x := a.encode
  let y := b.encode
  decide (x.length < y.length) || (x.length == y.length && decide (x ≤ y))

end Attribute

namespace DistinguishedName

/-- A set in canonical order; it may not hold an attribute twice. -/
def setDecoder : Der.DecoderM (List Attribute) :=
  Der.parts 0x31 do
    let attributes ← Der.many Attribute.decoder
    if attributes.Nodup then return attributes.mergeSort Attribute.precedes
    else Der.fail .duplicate

def decoder : Der.DecoderM DistinguishedName :=
  Der.parts 0x30 (Der.many setDecoder)

def element (n : DistinguishedName) : Der.Element :=
  Der.sequence (n.map fun attributes => ⟨0x31, attributes.flatMap Attribute.encode⟩)

end DistinguishedName

/-! ## Times -/

namespace Calendar

def isLeap (year : Nat) : Bool :=
  year % 4 == 0 && (year % 100 != 0 || year % 400 == 0)

def daysIn (year month : Nat) : Nat :=
  if month = 2 then if isLeap year then 29 else 28
  else if [4, 6, 9, 11].contains month then 30 else 31

/-- From 1970 on, and without leap seconds. -/
def valid (year : Nat) : List Nat → Bool
  | [month, day, hour, minute, second] =>
      1970 ≤ year && year ≤ 9999 && 1 ≤ month && month ≤ 12 && 1 ≤ day && day ≤ daysIn year month
        && hour ≤ 23 && minute ≤ 59 && second ≤ 59
  | _ => false

/-- Numbers of two digits, then the letter of universal time. -/
def pairs? : List Char → Option (List Nat)
  | ['Z'] => some []
  | a :: b :: rest => do
      let n ← Decimal.below? 100 [a, b]
      return n :: (← pairs? rest)
  | _ => none

/-- Years of two digits are from 1950 to 2049, years of four digits are meant as they are. -/
def isTime (e : Der.Element) : Bool :=
  match e.tag, pairs? (e.content.map fun b => Char.ofNat b.toNat) with
  | 0x17, some (year :: rest) => valid (if 50 ≤ year then 1900 + year else 2000 + year) rest
  | 0x18, some (century :: year :: rest) => valid (100 * century + year) rest
  | _, _ => false

/-- A time with a year of two digits or of four, and of the length that this makes. -/
def decoder : Der.DecoderM Der.Element := do
  let frame ← read
  let size := frame.stop - frame.start
  let some tag ← Der.peek?
    | throw { cause := .incomplete (size + 1) size, position := some size }
  Der.checkTag tag
  if tag ≠ 0x17 ∧ tag ≠ 0x18 then Der.fail (.unexpectedTag none tag)
  let size ← Der.expect tag
  if size ≠ (if tag = 0x17 then 13 else 15) then Der.fail (.badValue tag)
  let e : Der.Element := { tag, content := ← Der.bytes size }
  if isTime e then return e else Der.fail (.badValue tag)

end Calendar

/-! ## Certificates -/

structure Extension where
  id : Der.Oid
  critical : Bool
  value : Bytes
  deriving DecidableEq, Repr

structure Certificate where
  /-- Zero for v1, two for v3. -/
  version : Nat
  serial : Bytes
  innerAlgorithm : Algorithm
  issuer : DistinguishedName
  validity : List Der.Element
  subject : DistinguishedName
  keyInfo : KeyInfo
  issuerId : Option Der.BitString
  subjectId : Option Der.BitString
  extensions : Option (List Extension)
  algorithm : Algorithm
  signature : Der.BitString
  deriving DecidableEq, Repr

namespace Extension

def decoder : Der.DecoderM Extension :=
  Der.parts 0x30 do
    let id ← Der.field Der.oid
    let critical ← Der.flag
    let value ← Der.field Der.octets
    return { id, critical, value }

/-- An extension that is not critical does not say so. -/
def element (x : Extension) : Der.Element :=
  Der.sequence
    ([x.id.element] ++ (if x.critical then [⟨0x01, [0xFF]⟩] else []) ++ [⟨0x04, x.value⟩])

end Extension

namespace Certificate

/-- The version stands in front, unless it is the first one. -/
def versionDecoder : Der.DecoderM Nat := do
  let n ← Der.context? 0 <| Der.explicit do
    let n ← Der.octet
    if 2 < n then Der.fail (.badValue 0x02) else return n
  return n.getD 0

/-- A serial number has twenty bytes at most, or one more. -/
def serialDecoder : Der.DecoderM Bytes := do
  let content ← Der.integerContent
  if 21 < content.length then Der.fail .tooLong else return content

def validityDecoder : Der.DecoderM (List Der.Element) :=
  Der.parts 0x30 do return [← Der.field Calendar.decoder, ← Der.field Calendar.decoder]

/-- The signed part, which is a certificate but for the signature. -/
def signedDecoder : Der.DecoderM (Algorithm → Der.BitString → Certificate) :=
  Der.parts 0x30 do
    let version ← versionDecoder
    let serial ← Der.field serialDecoder
    let innerAlgorithm ← Der.field Algorithm.decoder
    let issuer ← Der.field DistinguishedName.decoder
    let validity ← Der.field validityDecoder
    let subject ← Der.field DistinguishedName.decoder
    let keyInfo ← Der.field KeyInfo.decoder
    let issuerId ← Der.context? 1 Der.implicitBits
    let subjectId ← Der.context? 2 Der.implicitBits
    let extensions ← Der.context? 3 (Der.explicit (Der.parts 0x30 (Der.many Extension.decoder)))
    return fun algorithm signature => {
      version, serial, innerAlgorithm, issuer, validity, subject, keyInfo, issuerId, subjectId
      extensions, algorithm, signature }

def decoder : Der.DecoderM Certificate :=
  Der.parts 0x30 do
    let signed ← Der.field signedDecoder
    let algorithm ← Der.field Algorithm.decoder
    let signature ← Der.field Der.bitString
    return signed algorithm signature

def decode (b : Bytes) : Except Der.Fault Certificate :=
  Der.decodeAll decoder b

/-- The signed part. -/
def signedElement (c : Certificate) : Der.Element :=
  let version : List Der.Element :=
    if c.version = 0 then [] else [⟨0xA0, (Der.natural c.version).encode⟩]
  let ids : List Der.Element :=
    (c.issuerId.map (·.element 0x81)).toList ++ (c.subjectId.map (·.element 0x82)).toList
  let extensions : List Der.Element := (c.extensions.map fun xs =>
    (⟨0xA3, (Der.sequence (xs.map Extension.element)).encode⟩ : Der.Element)).toList
  Der.sequence (version
    ++ [Der.integer c.serial, c.innerAlgorithm.element, DistinguishedName.element c.issuer,
      Der.sequence c.validity, DistinguishedName.element c.subject, c.keyInfo.element]
    ++ ids ++ extensions)

def signedBytes (c : Certificate) : Bytes :=
  c.signedElement.encode

def encode (c : Certificate) : Bytes :=
  (Der.sequence [c.signedElement, c.algorithm.element, c.signature.element 0x03]).encode

end Certificate
end Reflash
