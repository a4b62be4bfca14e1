import Reflash.Json.Decoder
import Reflash.Text.Hex
import Reflash.Text.Utf8

/-!
# Json.Decoder.Literal — texts between quotation marks

A text ends at the first quotation mark that is not escaped.  A numeric escape is a 16-bit unit, and
two units may be needed for one character.  A text that nobody asks for has to obey the grammar of
escapes, but need not spell characters.
-/

namespace Reflash
namespace Json
namespace Decoder

/-- The byte that an escape of one letter stands for. -/
def escaped? (letter : UInt8) : Option UInt8 :=
  [(0x22, 0x22), (0x5C, 0x5C), (0x2F, 0x2F), (0x62, 0x08), (0x66, 0x0C), (0x6E, 0x0A), (0x72, 0x0D),
    (0x74, 0x09)].lookup letter

/-- The four digits of a numeric escape. -/
def unit : Decoder Nat := do
  let digits := (← get).ahead.take 4
  pass 4
  if digits.length < 4 then failBehind .endInText
  match digits.mapM Hex.digit? with
  | some values => return values.foldl (16 * · + ·) 0
  | none => failBehind .badEscape

/-- Takes a byte of a second escape, which a first one calls for. -/
def continued (expected : UInt8) : Decoder Unit := do
  match ← next with
  | none => failBehind .endInText
  | some b => if b = expected then return () else failBehind .cutEscape

/-- The character of a numeric escape, which may go on in a second one. -/
def character : Decoder Char := do
  let first ← unit
  if first < 0xD800 ∨ 0xDFFF < first then return Char.ofNat first
  if 0xDC00 ≤ first then failBehind .loneSurrogate
  continued 0x5C
  continued 0x75
  let second ← unit
  if second < 0xDC00 ∨ 0xDFFF < second then failBehind .loneSurrogate
  return Char.ofNat (0x10000 + 1024 * (first - 0xD800) + (second - 0xDC00))

/-- What an escape stands for, after its backslash. -/
def escape : Decoder Bytes := do
  match ← next with
  | none => failBehind .endInText
  | some 0x75 => return Bytes.ofText (← character).toString
  | some letter =>
      match escaped? letter with
      | some b => return [b]
      | none => failBehind .badEscape

/-- A text after its first quotation mark. -/
def literal : Decoder String := do
  let content ← repeatFrom [] fun (read : Bytes) => do
    match ← next with
    | none => failBehind .endInText
    | some 0x22 => return .inr read.reverse
    | some 0x5C => return .inl ((← escape).reverse ++ read)
    | some b => if b < 0x20 then failBehind .controlCharacter else return .inl (b :: read)
  match Utf8.decode content with
  | .ok text => return text
  | .error _ => failBehind .notUnicode

/-- Passes a text after its first quotation mark. -/
def passLiteral : Decoder Unit :=
  repeatFrom () fun _ => do
    match ← peek with
    | none => failBehind .endInText
    | some b =>
        if b < 0x20 then failBehind .controlCharacter
        pass 1
        if b = 0x22 then return .inr ()
        if b = 0x5C then
          match ← next with
          | none => failBehind .endInText
          | some 0x75 => discard unit
          | some letter => if (escaped? letter).isNone then failBehind .badEscape
        return .inl ()

end Decoder
end Json
end Reflash
