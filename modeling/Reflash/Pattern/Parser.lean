import Reflash.Pattern.Automaton
import Reflash.Pattern.Bracket
import Reflash.Pattern.Meaning

/-!
# Pattern.Parser — reading written patterns

* `Pattern.Term.parse?` — the term that a text writes;
* `Pattern.parse?` — the pattern that a text writes.
-/

namespace Reflash
namespace Pattern

/-! ## Flags -/

/-- Sets a flag, which must not have been named before. -/
def FlagChange.set? (f : FlagChange) (value : Bool) (c : Char) : Option FlagChange :=
  match c with
  | 'i' => if f.ignoreCase.isNone then some { f with ignoreCase := some value } else none
  | 'm' => if f.multiLine.isNone then some { f with multiLine := some value } else none
  | 's' => if f.dotAll.isNone then some { f with dotAll := some value } else none
  | 'U' => if f.swapGreed.isNone then some { f with swapGreed := some value } else none
  | 'u' => if f.unicode.isNone then some { f with unicode := some value } else none
  | 'R' => if f.carriageReturns.isNone then some { f with carriageReturns := some value } else none
  | 'x' => if f.verbose.isNone then some { f with verbose := some value } else none
  | _ => none

/-- Reads flags; those after a dash are cleared.  The result says whether a parenthesis ended them,
and not a colon. -/
def flagsAfter? (f : FlagChange) (cleared : Bool) : List Char →
    Option (FlagChange × Bool × List Char)
  | ')' :: rest => some (f, true, rest)
  | ':' :: rest => some (f, false, rest)
  | '-' :: rest =>
      match rest with
      | ')' :: _ | ':' :: _ => none
      | _ => if cleared then none else flagsAfter? f true rest
  | c :: rest => do flagsAfter? (← f.set? (!cleared) c) cleared rest
  | [] => none

/-! ## Groups -/

/-- What a group does with the term inside of it. -/
inductive Opening where
  | numbered (index : Nat)
  | flagged (change : FlagChange)

def Opening.close (t : Term) : Opening → Term
  | .numbered index => .group index t
  | .flagged change => .flagged change t

/-- Alternatives that are complete, and the items of the next one; both last first. -/
structure Level where
  alternatives : List Term := []
  items : List Term := []

namespace Level

def push (l : Level) (t : Term) : Level :=
  { l with items := t :: l.items }

def alternate (l : Level) : Level where
  alternatives := Term.ofItems l.items.reverse :: l.alternatives

def close (l : Level) : Term :=
  let last := Term.ofItems l.items.reverse
  match l.alternatives with
  | [] => last
  | alternatives => .choice (last :: alternatives).reverse

end Level

/-- A group that is open: how it began, and what is around it. -/
structure OpenGroup where
  opening : Opening
  verbose : Bool
  level : Level

structure Progress where
  verbose : Bool := false
  level : Level := {}
  outer : List OpenGroup := []
  groups : Nat := 0
  names : List String := []

namespace Progress

def push (p : Progress) (t : Term) : Progress :=
  { p with level := p.level.push t }

def openGroup (p : Progress) (opening : Opening) (verbose : Bool) : Progress :=
  let around : OpenGroup := { opening, verbose := p.verbose, level := p.level }
  { p with verbose, level := {}, outer := around :: p.outer }

def openNumbered (p : Progress) : Progress :=
  { p with groups := p.groups + 1 }.openGroup (.numbered (p.groups + 1)) p.verbose

def closeGroup? (p : Progress) : Option Progress :=
  match p.outer with
  | [] => none
  | around :: outer =>
      let t := around.opening.close p.level.close
      some { p with verbose := around.verbose, level := around.level.push t, outer }

/-- Repeats the last item; settings of flags cannot be repeated. -/
def repeat? (p : Progress) (least : Nat) (most : Option Nat) (lazy : Bool) : Option Progress :=
  match p.level.items with
  | [] | .empty :: _ | .setting _ :: _ => none
  | t :: before => some { p with level.items := .repeated t least most lazy :: before }

end Progress

/-- The characters of the name of a group. -/
def isNameChar (first : Bool) (c : Char) : Bool :=
  c == '_' || Unicode.alphabetic.contains c ||
    (!first && (['.', '[', ']'].contains c || Unicode.number.contains c))

/-- Opens a group with a name, which ends in an angle bracket and names no other group. -/
def openNamed? (p : Progress) (s : List Char) : Option (Progress × List Char) := do
  let chars := s.takeWhile (· ≠ '>')
  let name := String.ofList chars
  let '>' :: rest := s.drop chars.length | none
  let first :: others := chars | none
  if isNameChar true first ∧ others.all (isNameChar false) ∧ name ∉ p.names then
    return ({ p with names := name :: p.names }.openNumbered, rest)
  else none

/-- Reads what follows an opening parenthesis. -/
def openGroup? (p : Progress) (s : List Char) : Option (Progress × List Char) :=
  match skip p.verbose s with
  | '?' :: '=' :: _ | '?' :: '!' :: _ | '?' :: '<' :: '=' :: _ | '?' :: '<' :: '!' :: _ => none
  | '?' :: 'P' :: '<' :: rest | '?' :: '<' :: rest => openNamed? p rest
  | '?' :: rest => do
      let (change, ended, rest) ← flagsAfter? {} false rest
      let verbose := change.verbose.getD p.verbose
      if !ended then return (p.openGroup (.flagged change) verbose, rest)
      else if change = {} then none
      else return ({ p with verbose }.push (.setting change), rest)
  | rest => some (p.openNumbered, rest)

/-! ## Repetitions -/

/-- Whether a question mark follows, and what comes after it. -/
def laziness : List Char → Bool × List Char
  | '?' :: rest => (true, rest)
  | rest => (false, rest)

/-- Reads the numbers of a repetition, after the opening brace. -/
def repetition? (p : Progress) (s : List Char) : Option (Progress × List Char) := do
  let (least?, rest) := count? p.verbose (skip p.verbose s)
  let least ← least?
  let (most, rest) ← match rest with
    | ',' :: rest =>
        match skip p.verbose rest with
        | '\x7d' :: rest => some (none, '\x7d' :: rest)
        | rest =>
            match count? p.verbose rest with
            | (some most, rest) => some (some most, rest)
            | (none, _) => none
    | rest => some (some least, rest)
  let '\x7d' :: rest := rest | none
  if most.any (· < least) then none
  let (lazy, rest) := laziness (skip p.verbose rest)
  return (← p.repeat? least most lazy, rest)

/-! ## Patterns -/

/-- What an escape writes outside of a class. -/
def Escape.term : Escape → Term
  | .letter l => .letter l
  | .shorthand s negated => .shorthand s negated
  | .property q negated => .property q negated
  | .anchor a => .anchor a

/-- Reads what begins with a character. -/
def step? (p : Progress) (c : Char) (rest : List Char) : Option (Progress × List Char) :=
  let repeated (least : Nat) (most : Option Nat) : Option (Progress × List Char) := do
    let (lazy, rest) := laziness rest
    return (← p.repeat? least most lazy, rest)
  match c with
  | '(' => openGroup? p rest
  | ')' => do return (← p.closeGroup?, rest)
  | '|' => some ({ p with level := p.level.alternate }, rest)
  | '[' => do
      let (t, rest) ← class? p.verbose rest
      return (p.push t, rest)
  | '?' => repeated 0 (some 1)
  | '*' => repeated 0 none
  | '+' => repeated 1 none
  | '\x7b' => repetition? p rest
  | '\\' => do
      let (e, rest) ← escape? p.verbose rest
      return (p.push e.term, rest)
  | '.' => some (p.push .dot, rest)
  | '^' => some (p.push (.anchor .lineStart), rest)
  | '$' => some (p.push (.anchor .lineEnd), rest)
  | c => some (p.push (.letter { char := c }), rest)

/-- Reads the rest of a pattern.  Each round takes a character. -/
def termWithin : (fuel : Nat) → Progress → List Char → Option Term
  | 0, _, _ => none
  | fuel + 1, p, s =>
      match skip p.verbose s with
      | [] => if p.outer.isEmpty then some p.level.close else none
      | c :: rest => do
          let (p, rest) ← step? p c rest
          termWithin fuel p rest

/-- Terms may not be nested deeper than this. -/
def depthLimit : Nat := 250

/-- The term that a text writes. -/
def Term.parse? (s : String) : Option Term := do
  let t ← termWithin (s.length + 1) {} s.toList
  if t.depth ≤ depthLimit then some t else none

/-- The pattern that a text writes, unless it is too large to be searched for. -/
def parse? (s : String) : Option Pattern := do
  let t ← Term.parse? s
  let p ← t.pattern?
  if p.fits then some p else none

end Pattern
end Reflash
