import Reflash.Pattern.Extent
import Reflash.Unicode.CodeSet
import Std.Data.HashMap

/-!
# Pattern.Automaton — how large the automata for a pattern are

A pattern is searched for by an automaton over the bytes of a text, and from the end of a match
backwards by a second one.  Repetitions are written out in them, so that a short pattern may need a
large automaton; patterns are refused if one of the two takes more than ten mebibytes.  Only the
states are counted here.

* `Pattern.fits` — whether both automata are small enough.
-/

namespace Reflash
namespace Pattern

/-! ## States -/

/-- The states so far, and the bytes that they take besides what every state takes.  States of the
class that is being written are shared by their transitions: each place of the table remembers one
of them. -/
structure Automaton where
  states : Nat := 0
  extra : Nat := 0
  table : Std.HashMap Nat (List Nat × Nat) := ∅

namespace Automaton

def bytesPerState : Nat := 32

def bytesPerTransition : Nat := 8

def bytesPerBranch : Nat := 4

def limit : Nat := 10 * 0x100000

def checked (a : Automaton) : Option Automaton :=
  if bytesPerState * a.states + a.extra ≤ limit then some a else none

/-- Adds states which take a number of further bytes. -/
def add (a : Automaton) (states : Nat) (extra : Nat := 0) : Option Automaton :=
  { a with states := a.states + states, extra := a.extra + extra }.checked

/-- Lets a part of the automaton lead to another one.  A part that ends in a branching state gets
one more branch. -/
def link (a : Automaton) (branching : Bool) : Option Automaton :=
  a.add 0 (if branching then bytesPerBranch else 0)

/-- A number for a list of numbers: the hash by Fowler, Noll and Vo with sixty-four bits. -/
def hash (key : List Nat) : UInt64 :=
  key.foldl (fun h n => (h ^^^ n.toUInt64) * 1099511628211) 14695981039346656037

/-- The state with these transitions, which is a new one if its place in the table does not
remember it. -/
def share (a : Automaton) (places : Nat) (key : List Nat) (extra : Nat) :
    Option (Nat × Automaton) :=
  let place := (hash key).toNat % places
  let known := match a.table[place]? with
    | some (other, state) => if other = key then some state else none
    | none => none
  match known with
  | some state => some (state, a)
  | none =>
      (a.add 1 extra).map fun b =>
        (a.states, { b with table := b.table.insert place (key, a.states) })

end Automaton

open Automaton

/-- Whether an automaton reads texts forwards or backwards. -/
inductive Direction where
  | forward
  | backward
  deriving DecidableEq, Repr

/-! ## Classes -/

/-- A state that is not complete: its transitions, as numbers, and the range of bytes that leads to
the next state on the way. -/
structure OpenState where
  transitions : List Nat := []
  toNext : Option Unicode.Span := none

/-- Lets the way lead to a state that is complete. -/
def OpenState.close (s : OpenState) (target : Nat) : List Nat :=
  match s.toNext with
  | some range => s.transitions ++ [range.low, range.high, target]
  | none => s.transitions

def addOpenState (transitions : List Nat) (a : Automaton) : Option (Nat × Automaton) :=
  a.share 10000 transitions (transitions.length / 3 * bytesPerTransition)

/-- Completes all states of a way, the last one first. -/
def closeWay (target : Nat) : List OpenState → Automaton → Option (Nat × Automaton)
  | [], a => some (target, a)
  | s :: rest, a => do
      let (next, a) ← closeWay target rest a
      addOpenState (s.close next) a

/-- Adds an encoding after all smaller ones.  What it has in common with the one before is kept
open. -/
def extendWay (target : Nat) : List OpenState → List Unicode.Span → Automaton →
    Option (List OpenState × Automaton)
  | s :: rest, range :: ranges, a =>
      if s.toNext = some range then do
        let (rest, a) ← extendWay target rest ranges a
        return (s :: rest, a)
      else do
        let (next, a) ← closeWay target rest a
        let turned : OpenState := { transitions := s.close next, toNext := some range }
        return (turned :: ranges.map fun r => { toNext := some r }, a)
  | way, _, a => some (way, a)

/-- Adds a class that reads its characters forwards: ways to a common target which share their
ends. -/
def addForward (encodings : List (List Unicode.Span)) (a : Automaton) : Option Automaton := do
  let target := a.states
  let a ← a.add 1
  let (way, a) ← encodings.foldlM
    (fun (way, a) encoding => extendWay target way encoding a) ([{}], a)
  let (_, a) ← closeWay target way a
  return a

/-- Adds one encoding backwards: each byte leads to the state of the byte before it. -/
def addEncodingBackward (target : Nat) : List Unicode.Span → Automaton → Option Automaton
  | [], a => some a
  | range :: rest, a => do
      let (state, a) ← a.share 1000 [target, range.low, range.high] 0
      addEncodingBackward state rest a

/-- Adds a class that reads its characters backwards, with one branch for each encoding. -/
def addBackward (encodings : List (List Unicode.Span)) (a : Automaton) : Option Automaton := do
  let target := a.states + 1
  let a ← a.add 2
  encodings.foldlM (fun a encoding => do
    let a ← addEncodingBackward target encoding a
    a.link true) a

/-- Adds a class; ASCII characters need no more than one state with all transitions. -/
def addClass (d : Direction) (s : Unicode.CodeSet) (a : Automaton) : Option Automaton :=
  if s.spans.all (·.high < 128) then a.add 2 (s.spans.length * bytesPerTransition)
  else
    let a := { a with table := ∅ }
    match d with
    | .forward => addForward s.encodings a
    | .backward => addBackward s.encodings a

/-! ## Choices between literals -/

def literal? : Pattern → Option (List UInt8)
  | .literal chars => some (chars.flatMap String.utf8EncodeChar)
  | _ => none

/-- Divides texts where one of them is empty, and takes that one out.  Empty texts in front count
once. -/
def divideAtEmpty (texts : List (List UInt8)) : List (List (List UInt8)) :=
  let step : List (List (List UInt8)) × List (List UInt8) → List UInt8 →
      List (List (List UInt8)) × List (List UInt8) := fun (complete, current) text =>
    if text ≠ [] then (complete, text :: current)
    else if complete ≠ [] ∧ (current :: complete).all (·.isEmpty) then (complete, current)
    else (current :: complete, [])
  let (complete, current) := texts.foldl step ([], [])
  ((current :: complete).map List.reverse).reverse

/-- Texts by their first bytes: for each of these, what follows it. -/
def byFirst (texts : List (List UInt8)) : List (List (List UInt8)) :=
  let firsts := (texts.filterMap List.head?).eraseDups
  firsts.map fun b => (texts.filter fun t => t.head? = some b).map List.tail

/-- The states, and the bytes besides, of a tree that reads one of several texts.  A node branches
into its parts between the places where a text ends, and each part has a transition for each byte
that can follow. -/
def treeSize : (height : Nat) → List (List UInt8) → Nat × Nat
  | 0, _ => (0, 0)
  | height + 1, texts =>
      let parts := divideAtEmpty texts
      let groups := (parts.filter (!·.isEmpty)).map byFirst
      let branches := groups.length + (parts.length - 1)
      let below := groups.flatten.filter fun t => !t.all (·.isEmpty)
      let transitions := (groups.map fun g => if g.length = 1 then 0 else g.length).sum
      let sizes := below.map (treeSize height)
      (groups.length + 1 + (sizes.map (·.1)).sum,
        branches * bytesPerBranch + transitions * bytesPerTransition + (sizes.map (·.2)).sum)

/-- Adds a choice between literals. -/
def addTree (d : Direction) (texts : List (List UInt8)) (a : Automaton) : Option Automaton :=
  let texts := if d = .forward then texts else texts.map List.reverse
  let height := (texts.map List.length).foldl max 0
  let (states, extra) := treeSize (height + 1) texts
  a.add (states + 1) extra

/-! ## Patterns -/

/-- A part of an automaton that is to be added; the result says whether it ends in a branching
state. -/
abbrev Part : Type :=
  Automaton → Option (Bool × Automaton)

def states (n : Nat) : Part := fun a =>
  (a.add n).map (false, ·)

/-- Adds a part a number of times, each after the one before. -/
def copiesAfter (part : Part) : (count : Nat) → (branching : Bool) → Part
  | 0, branching, a => some (branching, a)
  | n + 1, branching, a =>
      match part a with
      | none => none
      | some (next, a) =>
          match a.link branching with
          | none => none
          | some a => copiesAfter part n next a

def copies (part : Part) : (count : Nat) → Part
  | 0 => states 1
  | n + 1 => copiesAfter part (n + 1) false

/-- Adds a part that may be left out a number of times, after what ends as given. -/
def optionalCopies (part : Part) : (count : Nat) → (branching : Bool) → Part
  | 0, branching, a => (a.link branching).map (false, ·)
  | n + 1, branching, a =>
      match a.add 1 (2 * bytesPerBranch) with
      | none => none
      | some a =>
          match part a with
          | none => none
          | some (next, a) =>
              match a.link branching with
              | none => none
              | some a => optionalCopies part n next a

/-- Adds a repetition.  If the part can match the empty text, to repeat it without bound takes a
state more. -/
def repetition (part : Part) (emptyMatch : Bool) (least : Nat) (most : Option Nat) : Part :=
  fun a =>
    match least, most with
    | 0, some 1 => do
        let a ← a.add 1 (2 * bytesPerBranch)
        let (branching, a) ← part a
        let a ← a.add 1
        (a.link branching).map (false, ·)
    | 0, none => do
        if emptyMatch then
          let (branching, a) ← part a
          let a ← a.link branching
          let a ← a.add 3 (4 * bytesPerBranch)
          return (false, a)
        else
          let a ← a.add 1 bytesPerBranch
          let (branching, a) ← part a
          let a ← a.link branching
          return (true, a)
    | least + 1, none => do
        let (branching, a) ← copies part (least + 1) a
        let a ← a.link branching
        let a ← a.add 1 bytesPerBranch
        return (true, a)
    | least, some most =>
        if least = most then copies part least a
        else do
          let (branching, a) ← copies part least a
          let a ← a.add 1
          optionalCopies part (most - least) branching a

mutual

/-- Adds the automaton for a pattern.  Only forwards are the ends of groups marked. -/
def addTo (d : Direction) : Pattern → Part
  | .empty => states 1
  | .literal chars => states (literalBytes chars)
  | .oneOf s => fun a => (addClass d s a).map (false, ·)
  | .assertion _ => states 1
  | .repeated p least most _ => repetition (addTo d p) (leastBytes p |>.all (· == 0)) least most
  | .group _ p => fun a =>
      match d with
      | .backward => addTo d p a
      | .forward => do
          let a ← a.add 1
          let (branching, a) ← addTo d p a
          let a ← a.add 1
          (a.link branching).map (false, ·)
  | .sequence ps =>
      match d with
      | .forward => addForwards ps
      | .backward => addBackwards ps
  | .choice ps => fun a =>
      match ps.mapM literal? with
      | some texts => (addTree d texts a).map (false, ·)
      | none => addAlternatives d ps a

def addForwards : List Pattern → Part
  | [] => states 1
  | [p] => addTo .forward p
  | p :: ps => fun a => do
      let (branching, a) ← addTo .forward p a
      let (last, a) ← addForwards ps a
      let a ← a.link branching
      return (last, a)

def addBackwards : List Pattern → Part
  | [] => states 1
  | [p] => addTo .backward p
  | p :: ps => fun a => do
      let (branching, a) ← addBackwards ps a
      let (last, a) ← addTo .backward p a
      let a ← a.link branching
      return (last, a)

/-- Adds alternatives.  The states where they part and meet are there once the first two are. -/
def addAlternatives (d : Direction) : List Pattern → Part
  | [] => states 1
  | [p] => addTo d p
  | p :: q :: rest => fun a => do
      let (first, a) ← addTo d p a
      let (second, a) ← addTo d q a
      let a ← a.add 2 (2 * bytesPerBranch)
      let a ← a.link first
      let a ← a.link second
      addMoreAlternatives d rest a

def addMoreAlternatives (d : Direction) : List Pattern → Part
  | [], a => some (false, a)
  | p :: rest, a => do
      let (branching, a) ← addTo d p a
      let a ← a.add 0 bytesPerBranch
      let a ← a.link branching
      addMoreAlternatives d rest a

end

/-- Adds what skips the text before a match, unless every match begins at the end where the search
starts. -/
def addStart (d : Direction) (p : Pattern) : Part := fun a =>
  let anchored := match d with
    | .forward => p.fromTextStart
    | .backward => p.toTextEnd
  if anchored then (a.add 1).map (false, ·)
  else (a.add 3 (bytesPerTransition + bytesPerBranch)).map (true, ·)

/-- The automaton for all matches of a pattern in a text, if it is small enough. -/
def automaton? (d : Direction) (p : Pattern) : Option Automaton := do
  let (start, a) ← addStart d p {}
  let (branching, a) ← addTo d (.group 0 p) a
  let a ← a.add 1
  let a ← a.link branching
  a.link start

/-- Whether the automata for a pattern are small enough. -/
def fits (p : Pattern) : Bool :=
  (automaton? .forward p).isSome && (automaton? .backward p).isSome

end Pattern
end Reflash
