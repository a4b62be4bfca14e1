import Reflash.Text.Hex
import Reflash.Unicode.Binary

/-!
# Pattern.Reading — walking over a written pattern

A verbose pattern may hold blanks and comments at most places; where they do not count, the next
character is looked for with `skip` and `next`.
-/

namespace Reflash
namespace Pattern

def isBlank (c : Char) : Bool :=
  Unicode.whiteSpace.contains c

/-- Leaves out blanks, and comments up to the ends of their lines. -/
def skipBlanks : (inComment : Bool) → List Char → List Char
  | _, [] => []
  | true, c :: rest => skipBlanks (c != '\n') rest
  | false, c :: rest =>
      if isBlank c then skipBlanks false rest
      else if c = '#' then skipBlanks true rest
      else c :: rest

/-- Leaves out what does not count in a verbose pattern. -/
def skip (verbose : Bool) (s : List Char) : List Char :=
  if verbose then skipBlanks false s else s

/-- What follows the first character. -/
def next (verbose : Bool) (s : List Char) : List Char :=
  skip verbose (s.drop 1)

/-- The character that follows the first one, seen from there: in a verbose pattern a number sign
and the blanks around it are passed over, but not the comment. -/
def peek (verbose : Bool) (s : List Char) : Option Char :=
  let after := s.drop 1
  if verbose then
    let rest := match after.dropWhile isBlank with
      | '#' :: rest => rest.dropWhile isBlank
      | rest => rest
    rest.head? <|> after.head?
  else after.head?

/-! ## Numbers -/

def hexDigit? (c : Char) : Option Nat :=
  if c.toNat < 128 then Hex.digit? (UInt8.ofNat c.toNat) else none

/-- The character with a number. -/
def charOfDigits? (digits : List Nat) : Option Char :=
  let n := digits.foldl (fun n d => 16 * n + d) 0
  if n.isValidChar then some (Char.ofNat n) else none

/-- That many hexadecimal digits. -/
def hexDigits? (verbose : Bool) : (count : Nat) → List Char → Option (List Nat × List Char)
  | 0, s => some ([], s)
  | count + 1, s => do
      let c :: _ := s | none
      let d ← hexDigit? c
      let (digits, rest) ← hexDigits? verbose count (next verbose s)
      return (d :: digits, rest)

/-- What stands before a closing brace, without what does not count.  Each round takes a
character. -/
def bracedWithin (verbose : Bool) : (fuel : Nat) → List Char → Option (List Char × List Char)
  | fuel + 1, c :: rest =>
      if c = '\x7d' then some ([], rest)
      else do
        let (chars, rest) ← bracedWithin verbose fuel (skip verbose rest)
        return (c :: chars, rest)
  | _, _ => none

/-- The text in braces, after the opening one. -/
def braced? (verbose : Bool) (s : List Char) : Option (List Char × List Char) :=
  bracedWithin verbose (s.length + 1) (skip verbose s)

/-- A number of times: at most thirty-two bits in decimal digits, with blanks around them. -/
def count? (verbose : Bool) (s : List Char) : Option Nat × List Char :=
  let s := s.dropWhile isBlank
  let rec digits : (fuel : Nat) → Option Nat → List Char → Option Nat × List Char
    | fuel + 1, n, c :: rest =>
        if c.isDigit then
          digits fuel (some (10 * n.getD 0 + (c.toNat - '0'.toNat))) (skip verbose rest)
        else (n, c :: rest)
    | _, n, s => (n, s)
  let (n, rest) := digits s.length none s
  let rest := match rest with
    | c :: _ => if isBlank c then skip verbose (rest.dropWhile isBlank) else rest
    | [] => []
  (n.filter (· < 0x100000000), rest)

end Pattern
end Reflash
