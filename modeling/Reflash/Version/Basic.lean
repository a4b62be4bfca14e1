import Reflash.Text.Hex

/-!
# Version — firmware versions

A version has a numeric core, and optionally a pre-release and a build text.  A version read from a
text is *complete*: its pre-release part is known, even if it is absent.  One decoded from a number
(a packed word, binary coded decimals) is *incomplete*: nothing is known beyond its core.

* `Version.ofPacked`, `Version.ofBcd?` — the two numeric encodings;
* `Version.text` — the display form.
-/

namespace Reflash

structure Version where
  major : Nat
  minor : Nat
  patch : Nat
  pre : Option String := none
  build : Option String := none
  complete : Bool := false
  deriving DecidableEq, Repr

/-- Why a version cannot be read. -/
inductive VersionError where
  /-- The core does not have three parts. -/
  | wrongParts (text : String)
  /-- A part of the core is no number. -/
  | badPart (text : String)
  | missingV (text : String)
  /-- A word is no binary coded decimal. -/
  | badBcd (word : UInt16)
  deriving DecidableEq, Repr

def VersionError.message : VersionError → String
  | .wrongParts text => s!"Invalid firmware version: {text}"
  | .badPart text => s!"Invalid component in firmware version: {text}"
  | .missingV text => s!"Missing v prefix for firmware version: {text}"
  | .badBcd word =>
      "Invalid BCD-encoded version component: 0x" ++ String.ofList (Hex.padded 4 word.toNat)

namespace Version

/-! ## Parts -/

/-- Major, minor and patch number. -/
def triple (v : Version) : Nat × Nat × Nat :=
  (v.major, v.minor, v.patch)

/-- The version without its pre-release and build texts. -/
def core (v : Version) : Version :=
  { v with pre := none, build := none }

/-! ## Numeric encodings -/

/-- Unpacks a 32-bit word: 10 bits major, 16 bits minor, 6 bits patch. -/
def ofPacked (word : UInt32) : Version where
  major := word.toNat / 0x400000
  minor := word.toNat / 0x40 % 0x10000
  patch := word.toNat % 0x40

/-- The number that four binary coded decimal digits spell. -/
def bcd (word : UInt16) : Except VersionError Nat :=
  let digits := [word.toNat / 4096, word.toNat / 256 % 16, word.toNat / 16 % 16, word.toNat % 16]
  if ∀ d ∈ digits, d ≤ 9 then .ok (digits.foldl (fun n d => 10 * n + d) 0)
  else .error (.badBcd word)

def ofBcd (major minor patch : UInt16) : Except VersionError Version := do
  return { major := ← bcd major, minor := ← bcd minor, patch := ← bcd patch }

/-! ## Display form -/

/-- A part after its mark; an empty part is not shown. -/
def suffix (mark : String) (part : Option String) : String :=
  match part with
  | some text => if text.isEmpty then "" else mark ++ text
  | none => ""

def text (v : Version) : String :=
  s!"v{v.major}.{v.minor}.{v.patch}" ++ suffix "-" v.pre ++ suffix "+" v.build

end Version
end Reflash
