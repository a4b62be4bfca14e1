import Reflash.Pattern.Basic

/-!
# Pattern.Extent — how much of a text a pattern can take up

* `Pattern.leastBytes`, `Pattern.mostBytes` — bounds on the size of a match in UTF-8, as far as the
  form of the pattern shows them;
* `Pattern.fromTextStart`, `Pattern.toTextEnd` — whether that form binds every match to an end of
  the text.
-/

namespace Reflash
namespace Pattern

/-- How many bytes a code point takes in UTF-8. -/
def bytesOfPoint (n : Nat) : Nat :=
  if n < 0x80 then 1 else if n < 0x800 then 2 else if n < 0x10000 then 3 else 4

def literalBytes (chars : List Char) : Nat :=
  chars.foldl (fun n c => n + bytesOfPoint c.toNat) 0

/-- Two bounds where either of two patterns may match; none is known unless both are. -/
def eitherBound (f : Nat → Nat → Nat) : Option Nat → Option Nat → Option Nat
  | some a, some b => some (f a b)
  | _, _ => none

mutual

/-- The size that no match is smaller than.  A pattern without matches has no such bound. -/
def leastBytes : Pattern → Option Nat
  | .empty => some 0
  | .literal chars => some (literalBytes chars)
  | .oneOf set => set.spans.head?.map (bytesOfPoint ·.low)
  | .assertion _ => some 0
  | .repeated p least _ _ => (leastBytes p).map (· * least)
  | .group _ p => leastBytes p
  | .sequence ps => leastBytesInTurn ps
  | .choice ps => leastBytesOfAny ps

def leastBytesInTurn : List Pattern → Option Nat
  | [] => some 0
  | p :: ps => do return (← leastBytes p) + (← leastBytesInTurn ps)

def leastBytesOfAny : List Pattern → Option Nat
  | [] => none
  | [p] => leastBytes p
  | p :: ps => eitherBound min (leastBytes p) (leastBytesOfAny ps)

end

mutual

/-- The size that no match exceeds. -/
def mostBytes : Pattern → Option Nat
  | .empty => some 0
  | .literal chars => some (literalBytes chars)
  | .oneOf set => set.spans.getLast?.map (bytesOfPoint ·.high)
  | .assertion _ => some 0
  | .repeated p _ most _ => do return (← mostBytes p) * (← most)
  | .group _ p => mostBytes p
  | .sequence ps => mostBytesInTurn ps
  | .choice ps => mostBytesOfAny ps

def mostBytesInTurn : List Pattern → Option Nat
  | [] => some 0
  | p :: ps => do return (← mostBytes p) + (← mostBytesInTurn ps)

def mostBytesOfAny : List Pattern → Option Nat
  | [] => none
  | [p] => mostBytes p
  | p :: ps => eitherBound max (mostBytes p) (mostBytesOfAny ps)

end

/-- Whether matches take up no room, as far as the form shows. -/
def takesNoRoom (p : Pattern) : Bool :=
  mostBytes p == some 0

mutual

/-- Whether every match begins at the start of the text. -/
def fromTextStart : Pattern → Bool
  | .assertion .textStart => true
  | .repeated p least _ _ => least != 0 && fromTextStart p
  | .group _ p => fromTextStart p
  | .sequence ps => startsInTurn ps
  | .choice ps => allFromTextStart ps
  | _ => false

def startsInTurn : List Pattern → Bool
  | [] => false
  | p :: ps => fromTextStart p || (takesNoRoom p && startsInTurn ps)

def allFromTextStart : List Pattern → Bool
  | [] => true
  | p :: ps => fromTextStart p && allFromTextStart ps

end

mutual

/-- Whether every match ends at the end of the text. -/
def toTextEnd : Pattern → Bool
  | .assertion .textEnd => true
  | .repeated p least _ _ => least != 0 && toTextEnd p
  | .group _ p => toTextEnd p
  | .sequence ps => endsInTurnAtEnd ps
  | .choice ps => allToTextEnd ps
  | _ => false

/-- The first of the patterns counts only if those after it take up no room. -/
def endsInTurnAtEnd : List Pattern → Bool
  | [] => false
  | p :: ps => endsInTurnAtEnd ps || (ps.all takesNoRoom && toTextEnd p)

def allToTextEnd : List Pattern → Bool
  | [] => true
  | p :: ps => toTextEnd p && allToTextEnd ps

end

end Pattern
end Reflash
