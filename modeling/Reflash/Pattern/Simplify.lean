import Reflash.Pattern.Extent

/-!
# Pattern.Simplify — putting patterns together in their simplest form

The functions of this module build patterns as the constructors do, but leave out what has no
effect, join characters that follow each other and choices between characters, and take out what
all alternatives begin with.  How large the automaton for a pattern is depends on its simplest form.
-/

namespace Reflash
namespace Pattern

mutual

/-- Whether two patterns are written in the same way. -/
def same : Pattern → Pattern → Bool
  | .empty, .empty => true
  | .literal a, .literal b => a == b
  | .oneOf a, .oneOf b => a == b
  | .assertion a, .assertion b => a == b
  | .repeated p least most lazy, .repeated q least' most' lazy' =>
      least == least' && most == most' && lazy == lazy' && same p q
  | .group i p, .group j q => i == j && same p q
  | .sequence ps, .sequence qs => sameInTurn ps qs
  | .choice ps, .choice qs => sameInTurn ps qs
  | _, _ => false

def sameInTurn : List Pattern → List Pattern → Bool
  | [], [] => true
  | p :: ps, q :: qs => same p q && sameInTurn ps qs
  | _, _ => false

end

/-- The pattern without matches. -/
def fail : Pattern :=
  .oneOf ∅

def ofChar (c : Char) : Pattern :=
  .literal [c]

/-- One character of a set. -/
def ofSet (s : Unicode.CodeSet) : Pattern :=
  match s.spans with
  | [⟨low, high⟩] => if low = high then ofChar (Char.ofNat low) else .oneOf s
  | _ => .oneOf s

/-- A pattern a number of times.  What takes up no room is not repeated. -/
def times (p : Pattern) (least : Nat) (most : Option Nat) (lazy : Bool) : Pattern :=
  let (least, most) :=
    if p.takesNoRoom then (min least 1, some (min (most.getD 1) 1)) else (least, most)
  match least, most with
  | 0, some 0 => .empty
  | 1, some 1 => p
  | _, _ => .repeated p least most lazy

/-! ## Sequences -/

/-- What a pattern adds to a sequence. -/
def inSequence : Pattern → List Pattern
  | .empty => []
  | .sequence ps => ps
  | p => [p]

/-- Puts a pattern before a sequence, and joins characters. -/
def before : Pattern → List Pattern → List Pattern
  | .literal a, .literal b :: rest => .literal (a ++ b) :: rest
  | p, rest => p :: rest

def inTurn (ps : List Pattern) : Pattern :=
  match (ps.flatMap inSequence).foldr before [] with
  | [] => .empty
  | [p] => p
  | ps => .sequence ps

/-! ## Choices -/

def inChoice : Pattern → List Pattern
  | .choice ps => ps
  | p => [p]

def char? : Pattern → Option Char
  | .literal [c] => some c
  | _ => none

def set? : Pattern → Option Unicode.CodeSet
  | .oneOf s => some s
  | _ => none

/-- How many patterns two sequences have in common at their beginnings. -/
def commonLength : List Pattern → List Pattern → Nat
  | p :: ps, q :: qs => if same p q then commonLength ps qs + 1 else 0
  | _, _ => 0

def sequence? : Pattern → Option (List Pattern)
  | .sequence ps => some ps
  | _ => none

/-- What all of several sequences begin with, and the rests. -/
def commonStart? (ps : List Pattern) : Option (List Pattern × List (List Pattern)) := do
  let first :: others ← ps.mapM sequence? | none
  let n := others.foldl (fun n other => min n (commonLength first other)) first.length
  if n = 0 then none else some (first.take n, (first :: others).map (·.drop n))

/-- A choice between patterns; the number bounds how often a common start is taken out. -/
def anyOfWithin : (depth : Nat) → List Pattern → Pattern
  | depth, ps =>
      match ps.flatMap inChoice with
      | [] => fail
      | [p] => p
      | ps =>
          match ps.mapM char?, ps.mapM set? with
          | some chars, _ => ofSet (.ofPoints (chars.map Char.toNat))
          | none, some sets => ofSet (sets.foldl (· ∪ ·) ∅)
          | none, none =>
              match depth, commonStart? ps with
              | depth + 1, some (start, rests) =>
                  inTurn (start ++ [anyOfWithin depth (rests.map inTurn)])
              | _, _ => .choice ps

mutual

/-- How many patterns a pattern is made of. -/
def parts : Pattern → Nat
  | .repeated p _ _ _ => parts p + 1
  | .group _ p => parts p + 1
  | .sequence ps => partsOf ps + 1
  | .choice ps => partsOf ps + 1
  | _ => 1

def partsOf : List Pattern → Nat
  | [] => 0
  | p :: ps => parts p + partsOf ps

end

/-- A choice between patterns.  Each common start that is taken out makes them smaller. -/
def anyOf (ps : List Pattern) : Pattern :=
  anyOfWithin (partsOf ps) ps

end Pattern
end Reflash
