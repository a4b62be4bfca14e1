import Reflash.Unicode.Binary

/-!
# Pattern — searching texts

A pattern relates the positions of a text: from a position it leads to those where a match that
starts there can end.  `Pattern.occursIn` asks only whether there is a match somewhere, so it does
not matter which of several matches would be preferred.
-/

namespace Reflash

/-- Conditions on what joins two characters, of which one or the other or both may belong to a
word. -/
inductive WordEdge where
  | edge
  | noEdge
  | start
  | stop
  | startHalf
  | stopHalf
  deriving DecidableEq, Repr

/-- Conditions on a position.  Lines may end in carriage returns too, and words may be made of ASCII
characters only. -/
inductive Assertion where
  | textStart
  | textEnd
  | lineStart (carriageReturns : Bool)
  | lineEnd (carriageReturns : Bool)
  | word (e : WordEdge) (ascii : Bool)
  deriving DecidableEq, Repr

/-- Where something is repeated, `lazy` prefers fewer repetitions.  Groups are numbered. -/
inductive Pattern where
  | empty
  | literal (chars : List Char)
  | oneOf (set : Unicode.CodeSet)
  | assertion (a : Assertion)
  | repeated (p : Pattern) (least : Nat) (most : Option Nat) (lazy : Bool)
  | group (index : Nat) (p : Pattern)
  | sequence (ps : List Pattern)
  | choice (ps : List Pattern)

/-- Whether the edge lies between characters of which these belong to words. -/
def WordEdge.holds (e : WordEdge) (before after : Bool) : Bool :=
  match e with
  | .edge => before != after
  | .noEdge => before == after
  | .start => !before && after
  | .stop => before && !after
  | .startHalf => !before
  | .stopHalf => !after

namespace Assertion

/-- Whether a character belongs to a word. -/
def isWord (ascii : Bool) (c : Char) : Bool :=
  if c.toNat < 128 then c.isAlphanum || c == '_' else !ascii && Unicode.word.contains c

/-- Whether the position between two characters satisfies the condition.  A carriage return and the
line feed after it end one line, not two. -/
def holds (a : Assertion) (before after : Option Char) : Bool :=
  match a with
  | .textStart => before.isNone
  | .textEnd => after.isNone
  | .lineStart false => before.all (· == '\n')
  | .lineEnd false => after.all (· == '\n')
  | .lineStart true => before.all (· == '\n') || (before == some '\r' && after != some '\n')
  | .lineEnd true => after.all (· == '\r') || (after == some '\n' && before != some '\r')
  | .word e ascii => e.holds (before.any (isWord ascii)) (after.any (isWord ascii))

/-- Whether the condition holds inside of a character that takes several bytes: what is no ASCII
character is on both sides of such a place. -/
def holdsInside : Assertion → Bool
  | .word e true => e.holds false false
  | _ => false

end Assertion

namespace Pattern

/-! ## Matches -/

/-- The characters before and after a position. -/
def around (text : Array Char) (i : Nat) : Option Char × Option Char :=
  (if i = 0 then none else text[i - 1]?, text[i]?)

/-- Whether these characters stand at a position. -/
def standsAt (text : Array Char) : List Char → Nat → Bool
  | [], _ => true
  | c :: rest, i => text[i]? == some c && standsAt text rest (i + 1)

/-- All of the first list, and what the second one adds. -/
def union (a b : List Nat) : List Nat :=
  a ++ b.filter (!a.contains ·)

/-- What can be reached by at most that many steps. -/
def within (step : List Nat → List Nat) : (steps : Nat) → List Nat → List Nat
  | 0, start => start
  | n + 1, start =>
      let next := step start
      if next.all start.contains then start else union start (within step n next)

/-- What can be reached by exactly that many steps. -/
def exactly (step : List Nat → List Nat) : (steps : Nat) → List Nat → List Nat
  | 0, start => start
  | n + 1, start =>
      let next := step start
      if next = start then start else exactly step n next

mutual

/-- The positions where a match ends that starts at one of the given ones.  A repetition without
bound need not be tried more often than there are positions. -/
def ends (text : Array Char) : Pattern → List Nat → List Nat
  | .empty, start => start
  | .literal chars, start => (start.filter (standsAt text chars)).map (· + chars.length)
  | .oneOf set, start => (start.filter fun i => text[i]?.any set.contains).map (· + 1)
  | .assertion a, start => start.filter fun i => a.holds (around text i).1 (around text i).2
  | .repeated p least most _, start =>
      let rest := match most with
        | some most => most - least
        | none => text.size + 1
      within (ends text p) rest (exactly (ends text p) least start)
  | .group _ p, start => ends text p start
  | .sequence ps, start => endsInTurn text ps start
  | .choice ps, start => endsOfAny text ps start

def endsInTurn (text : Array Char) : List Pattern → List Nat → List Nat
  | [], start => start
  | p :: ps, start => endsInTurn text ps (ends text p start)

def endsOfAny (text : Array Char) : List Pattern → List Nat → List Nat
  | [], _ => []
  | p :: ps, start => union (ends text p start) (endsOfAny text ps start)

end

mutual

/-- Whether the pattern matches the empty text inside of a character. -/
def holdsInside : Pattern → Bool
  | .empty => true
  | .literal chars => chars.isEmpty
  | .oneOf _ => false
  | .assertion a => a.holdsInside
  | .repeated p least _ _ => least == 0 || holdsInside p
  | .group _ p => holdsInside p
  | .sequence ps => allHoldInside ps
  | .choice ps => anyHoldsInside ps

def allHoldInside : List Pattern → Bool
  | [] => true
  | p :: ps => holdsInside p && allHoldInside ps

def anyHoldsInside : List Pattern → Bool
  | [] => false
  | p :: ps => holdsInside p || anyHoldsInside ps

end

/-- Whether there is a match that starts at a position and holds ASCII characters only. -/
def occursInAscii (p : Pattern) (text : Array Char) (i : Nat) : Bool :=
  (ends text p [i]).any fun j => (text.extract i j).all (·.toNat < 128)

/-- Whether the pattern matches some part of a text.  The search stops at the first place where a
match ends.  If that is inside of a character, the match is dropped, and the search goes on after
it; so no longer match is found that contains this character. -/
def occursIn (p : Pattern) (s : String) : Bool :=
  let text := s.toList.toArray
  let starts := List.range (text.size + 1)
  if p.holdsInside then starts.any (p.occursInAscii text) else !(ends text p starts).isEmpty

end Pattern
end Reflash
