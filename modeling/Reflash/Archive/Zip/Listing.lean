import Reflash.Hash.Checksum
import Reflash.Text.Utf8

/-!
# Archive.Zip.Listing — the entries of a directory

A listing tells the name of an entry, where it is and how it is packed.  Further fields may stand in
it, and some of them overrule what is said before: wide numbers, names and comments in Unicode, and
the way in which an encrypted entry is packed.

* `Zip.field`, `Zip.positions` — the records that archives are made of: they begin with marks and
  hold numbers at fixed places, lowest byte first;
* `Zip.Listing.first?` — the first listing of a directory.
-/

namespace Reflash
namespace Zip

/-! ## Records -/

/-- The number in the `size` bytes from `start` on. -/
def field (b : Bytes) (start size : Nat) : Nat :=
  Bytes.littleEndian ((b.drop start).take size)

def endMark : Bytes := [0x50, 0x4B, 0x05, 0x06]

def wideEndMark : Bytes := [0x50, 0x4B, 0x06, 0x06]

def locatorMark : Bytes := [0x50, 0x4B, 0x06, 0x07]

def directoryMark : Bytes := [0x50, 0x4B, 0x01, 0x02]

def localMark : Bytes := [0x50, 0x4B, 0x03, 0x04]

/-- The positions of a mark, in ascending order; `index` counts the bytes already passed. -/
def positions (mark : Bytes) (index : Nat) : Bytes → List Nat
  | [] => []
  | x :: rest =>
      let later := positions mark (index + 1) rest
      if mark.isPrefixOf (x :: rest) then index :: later else later

/-- The positions of a mark that lies between two others. -/
def positionsBetween (mark : Bytes) (first last : Nat) (b : Bytes) : List Nat :=
  positions mark first ((b.drop first).take (last - first))

/-! ## Names -/

/-- The upper half of the code page that names are written in unless they are marked as UTF-8. -/
def upperHalf : List Char :=
  ("ÇüéâäàåçêëèïîìÄÅÉæÆôöòûùÿÖÜ¢£¥₧ƒáíóúñÑªº¿⌐¬½¼¡«»░▒▓│┤╡╢╖╕╣║╗╝╜╛┐"
    ++ "└┴┬├─┼╞╟╚╔╩╦╠═╬╧╨╤╥╙╘╒╓╫╪┘┌█▄▌▐▀αßΓπΣσµτΦΘΩδ∞φε∩≡±≥≤⌠⌡÷≈°∙·√ⁿ²■\u00a0").toList

def pageChar (b : UInt8) : Char :=
  if b < 0x80 then Char.ofNat b.toNat else upperHalf.getD (b.toNat - 0x80) '\ufffd'

/-- A name or a comment, either of which may be marked as UTF-8. -/
def text (isUtf8 : Bool) (b : Bytes) : String :=
  if isUtf8 then Utf8.lossy b else String.ofList (b.map pageChar)

/-! ## Listings -/

/-- An entry of the directory. -/
structure Listing where
  isEncrypted : Bool
  /-- Whether a field tells how strongly the entry is encrypted. -/
  hasStrength : Bool := false
  method : Nat
  checksum : Nat
  packedSize : Nat
  size : Nat
  offset : Nat
  rawName : Bytes
  name : String
  comment : String
  deriving DecidableEq, Repr

/-! ## Further fields -/

/-- The number that stands for one which does not fit. -/
def tooWide : Nat := 0xFFFFFFFF

/-- A number that is overruled by the next wide one if it does not fit.  The result says how many
bytes have been used. -/
def widened? (all : Bool) (n used : Nat) (content : Bytes) : Option (Nat × Nat) :=
  if all ∨ n = tooWide then
    if used + 8 ≤ content.length then some (field content used 8, used + 8) else none
  else some (n, used)

namespace Listing

/-- Wide numbers: all three of them, or those that did not fit before. -/
def widen? (e : Listing) (content : Bytes) : Option Listing := do
  let all := decide (24 ≤ content.length)
  let (size, used) ← widened? all e.size 0 content
  let (packedSize, used) ← widened? all e.packedSize used content
  let (offset, _) ← widened? all e.offset used content
  return { e with size, packedSize, offset }

/-- The one set of times that a field for them may hold. -/
def acceptsTimes (content : Bytes) : Bool :=
  content.length == 32 && field content 4 2 == 1 && field content 6 2 == 24

/-- Times as flags and one number for each: for those flags that are set, or only one. -/
def acceptsStamps (content : Bytes) : Bool :=
  match content with
  | [] => false
  | flags :: times =>
      times.length == 4 || times.length == 4 * (List.range 8).countP flags.toNat.testBit

/-- A text in Unicode, which is valid for the text with that checksum only. -/
def unicode? (replaced content : Bytes) : Option (Bytes × String) :=
  if 5 ≤ content.length ∧ field content 1 4 = (Crc32.checksum replaced).toNat then
    (String.fromUTF8? ⟨(content.drop 5).toArray⟩).map (content.drop 5, ·)
  else none

/-- How an encrypted entry is packed. -/
def strengthen? (e : Listing) (content : Bytes) : Option Listing :=
  if content.length = 7 ∧ (field content 0 2 = 1 ∨ field content 0 2 = 2) ∧
      field content 2 2 = 0x4541 ∧ field content 4 1 ∈ [1, 2, 3] then
    some { e with hasStrength := true, method := field content 5 2 }
  else none

/-- Applies a field of some kind. -/
def extend? (e : Listing) (kind : Nat) (content : Bytes) : Option Listing :=
  match kind with
  | 0x0001 => e.widen? content
  | 0x000A => if acceptsTimes content then some e else none
  | 0x5455 => if acceptsStamps content then some e else none
  | 0x6375 => do
      let (_, comment) ← unicode? (Bytes.ofText e.comment) content
      return { e with comment }
  | 0x7075 => do
      let (rawName, name) ← unicode? e.rawName content
      return { e with rawName, name }
  | 0x9901 => e.strengthen? content
  | _ => some e

/-- Applies all fields; a single byte after the last one is left out. -/
def extendAll? (e : Listing) (fields : Bytes) : Option Listing :=
  match _h : fields with
  | [] | [_] => some e
  | _ :: _ :: [] | _ :: _ :: _ :: [] => none
  | _ :: _ :: _ :: _ :: rest =>
      let size := field fields 2 2
      if size ≤ rest.length then do
        let e ← e.extend? (field fields 0 2) (rest.take size)
        e.extendAll? (rest.drop size)
      else none
  termination_by fields.length
  decreasing_by
    rw [_h]
    simp only [List.length_drop, List.length_cons]
    omega

/-! ## Listings -/

/-- The method of entries whose real one stands in a field. -/
def encryptedMethod : Nat := 99

/-- The first entry of a directory, and what follows it. -/
def first? (r : Bytes) : Option (Listing × Bytes) := do
  let flags := field r 8 2
  let nameSize := field r 28 2
  let fieldsSize := field r 30 2
  let commentSize := field r 32 2
  let size := 46 + nameSize + fieldsSize + commentSize
  if !directoryMark.isPrefixOf r ∨ r.length < size then none
  let isUtf8 := flags.testBit 11
  let rawName := (r.drop 46).take nameSize
  let e : Listing := {
    isEncrypted := flags.testBit 0
    method := field r 10 2
    checksum := field r 16 4
    packedSize := field r 20 4
    size := field r 24 4
    offset := field r 42 4
    rawName
    name := text isUtf8 rawName
    comment := text isUtf8 ((r.drop (46 + nameSize + fieldsSize)).take commentSize) }
  let e ← e.extendAll? ((r.drop (46 + nameSize)).take fieldsSize)
  if e.method = encryptedMethod ∧ !e.hasStrength then none
  return (e, r.drop size)

/-- That many entries of a directory. -/
def all? : (count : Nat) → Bytes → Option (List Listing)
  | 0, _ => some []
  | count + 1, r => do
      let (e, rest) ← first? r
      return e :: (← all? count rest)

end Listing
end Zip
end Reflash
