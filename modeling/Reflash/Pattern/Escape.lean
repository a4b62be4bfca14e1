import Reflash.Pattern.Reading
import Reflash.Pattern.Syntax

/-!
# Pattern.Escape — what a backslash and the characters after it stand for
-/

namespace Reflash
namespace Pattern

inductive Escape where
  | letter (l : Letter)
  | shorthand (s : Shorthand) (negated : Bool)
  | property (q : PropertyQuery) (negated : Bool)
  | anchor (a : Anchor)

/-- A character by its number: that many digits, or any number of them in braces. -/
def hexEscape? (verbose : Bool) (digits : Nat) (s : List Char) : Option (Letter × List Char) :=
  match s with
  | '\x7b' :: rest => do
      let (chars, rest) ← braced? verbose rest
      if chars = [] then none
      let c ← charOfDigits? (← chars.mapM hexDigit?)
      return ({ char := c }, rest)
  | _ => do
      let (values, rest) ← hexDigits? verbose digits s
      return ({ char := ← charOfDigits? values, byte := digits == 2 }, rest)

/-- Splits a text around the first place where another one stands. -/
def splitAround (separator : List Char) : List Char → Option (List Char × List Char)
  | [] => none
  | c :: rest =>
      if separator.isPrefixOf (c :: rest) then some ([], (c :: rest).drop separator.length)
      else (splitAround separator rest).map fun (front, back) => (c :: front, back)

/-- A property in braces; a value may follow it after a sign, which can ask for all other values. -/
def propertyOfText (negated : Bool) (s : List Char) : Escape :=
  let valued := fun (parts : List Char × List Char) =>
    PropertyQuery.valued (String.ofList parts.1) (String.ofList parts.2)
  match splitAround ['!', '='] s with
  | some parts => .property (valued parts) !negated
  | none =>
      match splitAround [':'] s <|> splitAround ['='] s with
      | some parts => .property (valued parts) negated
      | none => .property (.named (String.ofList s)) negated

def propertyEscape? (verbose negated : Bool) : List Char → Option (Escape × List Char)
  | '\x7b' :: rest => do
      let (chars, rest) ← braced? verbose rest
      return (propertyOfText negated chars, rest)
  | c :: rest =>
      if c = '\\' then none else some (.property (.named (String.singleton c)) negated, rest)
  | [] => none

/-- The characters of the name of an edge, which may have blanks between them. -/
def edgeNameWithin (verbose : Bool) : (fuel : Nat) → List Char → List Char × List Char
  | fuel + 1, c :: rest =>
      if c.isAlpha || c == '-' then
        let (name, rest) := edgeNameWithin verbose fuel (skip verbose rest)
        (c :: name, rest)
      else ([], c :: rest)
  | _, s => ([], s)

/-- The edge of a word may be named in braces.  If no name begins there, the braces are those of a
repetition. -/
def wordEdge? (verbose : Bool) (s : List Char) : Option (WordEdge × List Char) :=
  match s with
  | '\x7b' :: after => do
      let inner := skip verbose after
      if inner = [] then none
      match edgeNameWithin verbose inner.length inner with
      | ([], _) => some (.edge, s)
      | (name, '\x7d' :: rest) =>
          let e ← List.lookup (String.ofList name) [
            ("start", WordEdge.start), ("end", .stop), ("start-half", .startHalf),
            ("end-half", .stopHalf)]
          return (e, rest)
      | _ => none
  | _ => some (.edge, s)

/-- ASCII characters other than letters, digits and angle brackets stand for themselves. -/
def isEscapable (c : Char) : Bool :=
  c.toNat < 128 && !c.isAlphanum && c != '<' && c != '>'

/-- Reads what follows a backslash. -/
def escape? (verbose : Bool) : List Char → Option (Escape × List Char)
  | [] => none
  | c :: rest =>
      let letter (c : Char) : Option (Escape × List Char) := some (.letter { char := c }, rest)
      let anchor (a : Anchor) : Option (Escape × List Char) := some (.anchor a, rest)
      let hex (digits : Nat) : Option (Escape × List Char) :=
        (hexEscape? verbose digits (skip verbose rest)).map fun (l, rest) => (.letter l, rest)
      match c with
      | 'd' => some (.shorthand .digit false, rest)
      | 'D' => some (.shorthand .digit true, rest)
      | 's' => some (.shorthand .blank false, rest)
      | 'S' => some (.shorthand .blank true, rest)
      | 'w' => some (.shorthand .word false, rest)
      | 'W' => some (.shorthand .word true, rest)
      | 'p' => propertyEscape? verbose false (skip verbose rest)
      | 'P' => propertyEscape? verbose true (skip verbose rest)
      | 'A' => anchor .textStart
      | 'z' => anchor .textEnd
      | 'b' => (wordEdge? verbose rest).map fun (e, rest) => (.anchor (.word e), rest)
      | 'B' => anchor (.word .noEdge)
      | '<' => anchor (.word .start)
      | '>' => anchor (.word .stop)
      | 'a' => letter '\x07'
      | 'f' => letter '\x0c'
      | 't' => letter '\t'
      | 'n' => letter '\n'
      | 'r' => letter '\r'
      | 'v' => letter '\x0b'
      | 'x' => hex 2
      | 'u' => hex 4
      | 'U' => hex 8
      | _ => if isEscapable c then letter c else none

end Pattern
end Reflash
