import Reflash.Unicode.Binary

/-!
# Text.Quoted — texts between quotation marks

Quotation marks, the backslash and characters that cannot be shown are escaped: some by a letter,
the others by their code point in braces.  Either kind of mark escapes itself only.

Not printable are control, format, private and unassigned characters, line and paragraph separators
and all blanks but the space; nor are marks that extend the character before them, since they would
be drawn into it.
-/

namespace Reflash
namespace Text

open Unicode

/-- The characters that cannot be shown as they are. -/
def unprintable : CodeSet :=
  (other ∪ separator ∪ graphemeExtend) \ .range 0x20 0x20

def isPrintable (c : Char) : Bool :=
  !unprintable.contains c

/-- A character as it stands between two `mark`s. -/
def quotedChar (mark c : Char) : List Char :=
  if c = mark ∨ c = '\\' then ['\\', c]
  else if c = '\t' then ['\\', 't']
  else if c = '\n' then ['\\', 'n']
  else if c = '\r' then ['\\', 'r']
  else if c = '\x00' then ['\\', '0']
  else if isPrintable c then [c]
  else ['\\', 'u', '\x7b'] ++ Nat.toDigits 16 c.toNat ++ ['\x7d']

def quoted (s : String) : String :=
  String.ofList (['"'] ++ s.toList.flatMap (quotedChar '"') ++ ['"'])

/-- A single character between apostrophes. -/
def quotedSingle (c : Char) : String :=
  String.ofList (['\''] ++ quotedChar '\'' c ++ ['\''])

end Text
end Reflash
