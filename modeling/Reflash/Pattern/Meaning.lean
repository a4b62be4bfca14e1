import Reflash.Pattern.Simplify
import Reflash.Pattern.Syntax
import Reflash.Unicode.Folding
import Reflash.Unicode.Property

/-!
# Pattern.Meaning — the patterns that terms stand for

Flags hold from where they are set to the end of the group.  Without the flag `unicode`, classes are
sets of bytes, and since every match has to be UTF-8, those that hold other bytes than ASCII
characters are refused.

* `Pattern.Term.pattern?` — the pattern of a term.
-/

namespace Reflash
namespace Pattern

open Unicode (CodeSet)

structure Flags where
  ignoreCase : Bool := false
  multiLine : Bool := false
  dotAll : Bool := false
  swapGreed : Bool := false
  unicode : Bool := true
  carriageReturns : Bool := false

def Flags.change (f : Flags) (c : FlagChange) : Flags where
  ignoreCase := c.ignoreCase.getD f.ignoreCase
  multiLine := c.multiLine.getD f.multiLine
  dotAll := c.dotAll.getD f.dotAll
  swapGreed := c.swapGreed.getD f.swapGreed
  unicode := c.unicode.getD f.unicode
  carriageReturns := c.carriageReturns.getD f.carriageReturns

namespace Flags

/-- A set in either case, if case does not count. -/
def folded (f : Flags) (s : CodeSet) : CodeSet :=
  if !f.ignoreCase then s else if f.unicode then s.foldCase else s.foldAsciiCase

/-- All other characters than those of a set.  There are bytes among the others if the set is one
of bytes. -/
def complement? (f : Flags) (s : CodeSet) : Option CodeSet :=
  if f.unicode then some s.negate else none

def negatedIf? (f : Flags) (negated : Bool) (s : CodeSet) : Option CodeSet :=
  if negated then f.complement? s else some s

end Flags

/-! ## Sets -/

def Shorthand.set : Shorthand → CodeSet
  | .digit => Unicode.decimalNumber
  | .blank => Unicode.whiteSpace
  | .word => Unicode.word

def AsciiClass.set : AsciiClass → CodeSet
  | .alnum => .range 0x30 0x39 ∪ .range 0x41 0x5A ∪ .range 0x61 0x7A
  | .alpha => .range 0x41 0x5A ∪ .range 0x61 0x7A
  | .ascii => .range 0 0x7F
  | .blank => .range 0x09 0x09 ∪ .range 0x20 0x20
  | .cntrl => .range 0 0x1F ∪ .range 0x7F 0x7F
  | .digit => .range 0x30 0x39
  | .graph => .range 0x21 0x7E
  | .lower => .range 0x61 0x7A
  | .print => .range 0x20 0x7E
  | .punct => .range 0x21 0x2F ∪ .range 0x3A 0x40 ∪ .range 0x5B 0x60 ∪ .range 0x7B 0x7E
  | .space => .range 0x09 0x0D ∪ .range 0x20 0x20
  | .upper => .range 0x41 0x5A
  | .word => .range 0x30 0x39 ∪ .range 0x41 0x5A ∪ .range 0x5F 0x5F ∪ .range 0x61 0x7A
  | .xdigit => .range 0x30 0x39 ∪ .range 0x41 0x46 ∪ .range 0x61 0x66

namespace Flags

/-- The set that an escape with one letter names; case is left as it is. -/
def shorthand? (f : Flags) (s : Shorthand) (negated : Bool) : Option CodeSet :=
  f.negatedIf? negated (if f.unicode then s.set else s.set ∩ .range 0 0x7F)

def property? (f : Flags) (q : PropertyQuery) (negated : Bool) : Option CodeSet := do
  if !f.unicode then none
  let s ← match q with
    | .named name => Unicode.named? name
    | .valued property value => Unicode.valued? property value
  f.negatedIf? negated (f.folded s)

/-- The code point of a letter in a class. -/
def point? (f : Flags) (l : Letter) : Option Nat :=
  if f.unicode || l.char.toNat < 128 then some l.char.toNat else none

def operate (f : Flags) (o : SetOperation) (left right : CodeSet) : CodeSet :=
  match o with
  | .intersection => f.folded left ∩ f.folded right
  | .difference => f.folded left \ f.folded right
  | .symmetricDifference => (f.folded left).symmDiff (f.folded right)

end Flags

mutual

def ClassItem.set? (f : Flags) : ClassItem → Option CodeSet
  | .letter l => do
      let n ← f.point? l
      return .range n n
  | .range low high => do return .range (← f.point? low) (← f.point? high)
  | .ascii name negated => f.negatedIf? negated (f.folded name.set)
  | .shorthand s negated => f.shorthand? s negated
  | .property q negated => f.property? q negated
  | .nested negated body => do f.negatedIf? negated (f.folded (← body.set? f))

def ClassBody.set? (f : Flags) : ClassBody → Option CodeSet
  | .items items => setOfItems? f items
  | .operation o left right => do return f.operate o (← left.set? f) (← right.set? f)

def setOfItems? (f : Flags) : List ClassItem → Option CodeSet
  | [] => some ∅
  | item :: items => do return (← item.set? f) ∪ (← setOfItems? f items)

end

/-! ## Terms -/

namespace Flags

/-- A letter outside of a class.  One that has no other case stays as it is. -/
def letter? (f : Flags) (l : Letter) : Option Pattern :=
  let n := l.char.toNat
  if !f.unicode && l.byte && 128 ≤ n then none
  else some (ofSet (f.folded (.range n n)))

/-- Any character, in general without the ends of lines. -/
def dot? (f : Flags) : Option Pattern :=
  if !f.unicode then none
  else if f.dotAll then some (.oneOf .all)
  else if f.carriageReturns then
    some (.oneOf (.range 0 0x09 ∪ .range 0x0B 0x0C ∪ .range 0x0E Unicode.lastPoint))
  else some (.oneOf (.range 0 0x09 ∪ .range 0x0B Unicode.lastPoint))

def assertion (f : Flags) : Anchor → Assertion
  | .textStart => .textStart
  | .textEnd => .textEnd
  | .lineStart => if f.multiLine then .lineStart f.carriageReturns else .textStart
  | .lineEnd => if f.multiLine then .lineEnd f.carriageReturns else .textEnd
  | .word e => .word e !f.unicode

end Flags

mutual

/-- The pattern of a term, and the flags that hold after it. -/
def Term.meaning? : Term → Flags → Option (Pattern × Flags)
  | .empty, f => some (.empty, f)
  | .setting change, f => some (.empty, f.change change)
  | .letter l, f => (f.letter? l).map (·, f)
  | .dot, f => f.dot?.map (·, f)
  | .anchor a, f => some (.assertion (f.assertion a), f)
  | .shorthand s negated, f => (f.shorthand? s negated).map (ofSet ·, f)
  | .property q negated, f => (f.property? q negated).map (ofSet ·, f)
  | .bracketed negated body, f => do
      let s ← f.negatedIf? negated (f.folded (← body.set? f))
      return (ofSet s, f)
  | .repeated t least most lazy, f => do
      let (p, g) ← t.meaning? f
      return (p.times least most (lazy != f.swapGreed), g)
  | .group index t, f => do
      let (p, _) ← t.meaning? f
      return (.group index p, f)
  | .flagged change t, f => do
      let (p, _) ← t.meaning? (f.change change)
      return (p, f)
  | .sequence ts, f => do
      let (ps, f) ← meaningsOf? ts f
      return (inTurn ps, f)
  | .choice ts, f => do
      let (ps, f) ← meaningsOf? ts f
      return (anyOf ps, f)

def meaningsOf? : List Term → Flags → Option (List Pattern × Flags)
  | [], f => some ([], f)
  | t :: ts, f => do
      let (p, f) ← t.meaning? f
      let (ps, f) ← meaningsOf? ts f
      return (p :: ps, f)

end

def Term.pattern? (t : Term) : Option Pattern :=
  (t.meaning? {}).map (·.1)

end Pattern
end Reflash
