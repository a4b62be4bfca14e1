import Reflash.Device.Model
import Reflash.Version.Text

/-!
# Image.FileName — file names of images

An image is published under a name that ends in `KIND-MODEL-VARIANT-VERSION.EXTENSION`, where the
kind is `firmware` or `alpha`, the model is `nk3` and two more characters, or `nkpk`, and the
version starts with a `v`.  Of several places where such an ending could begin, the first one
counts.
-/

namespace Reflash
namespace FileName

/-- A piece of a name: fixed characters, or any one but a line break. -/
inductive Piece where
  | exactly (text : String)
  | anyTwo

namespace Piece

/-- What follows the piece. -/
def strip? : Piece → List Char → Option (List Char)
  | .exactly text, s => if text.toList.isPrefixOf s then some (s.drop text.toList.length) else none
  | .anyTwo, a :: b :: rest => if a ≠ '\n' ∧ b ≠ '\n' then some rest else none
  | .anyTwo, _ => none

end Piece

/-- The ways to begin an ending for a variant. -/
def beginnings (v : Variant) : List (List Piece) :=
  ["firmware", "alpha"].flatMap fun kind =>
    match v with
    | .lpc55 => [[.exactly (kind ++ "-nk3"), .anyTwo, .exactly "-lpc55-"]]
    | .nrf52 => [[.exactly (kind ++ "-nk3"), .anyTwo, .exactly "-nrf52-"],
        [.exactly (kind ++ "-nkpk-nrf52-")]]

def suffix : Variant → List Char
  | .lpc55 => ".sb2".toList
  | .nrf52 => ".zip".toList

/-- What stands before an extension; it may not hold a line break. -/
def beforeExtension? (v : Variant) (s : List Char) : Option (List Char) :=
  let before := s.take (s.length - (suffix v).length)
  if before ++ suffix v = s ∧ '\n' ∉ before then some before else none

/-- The version text of an ending that begins right here. -/
def ending? (v : Variant) (s : List Char) : Option (List Char) :=
  (beginnings v).findSome? fun pieces => do
    beforeExtension? v (← pieces.foldlM (fun s piece => piece.strip? s) s)

/-- The version text of the first ending. -/
def versionText? (v : Variant) : List Char → Option (List Char)
  | [] => none
  | c :: rest => (ending? v (c :: rest)).or (versionText? v rest)

/-- The variant and version of an image by its name; if the version text is none, no other variant
is tried. -/
def parse? (name : String) : Option (Variant × Version) := do
  let (v, text) ← Variant.all.findSome? fun v => (versionText? v name.toList).map (v, ·)
  return (v, ← (Version.parseTagged (String.ofList text)).toOption)

end FileName
end Reflash
