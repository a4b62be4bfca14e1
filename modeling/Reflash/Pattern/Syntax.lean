import Reflash.Pattern.Basic

/-!
# Pattern.Syntax — written patterns

Patterns are written as regular expressions: alternatives, repetitions, groups with names and flags,
classes of characters with set operations, and escapes.  There are no references back to a group and
no conditions that look around.

* `Pattern.Term` — what is written, before flags and classes are given their meaning;
* `Pattern.Term.depth` — how deeply it is nested.
-/

namespace Reflash
namespace Pattern

/-- A character as it is written.  `byte` marks one whose number has exactly two digits, which may
stand for a byte. -/
structure Letter where
  char : Char
  byte : Bool := false
  deriving DecidableEq, Repr

/-- Sets that an escape with one letter names. -/
inductive Shorthand where
  | digit
  | blank
  | word
  deriving DecidableEq, Repr

/-- Sets of ASCII characters that have names. -/
inductive AsciiClass where
  | alnum
  | alpha
  | ascii
  | blank
  | cntrl
  | digit
  | graph
  | lower
  | print
  | punct
  | space
  | upper
  | word
  | xdigit
  deriving DecidableEq, Repr

/-- A set of characters by a property of theirs, with or without a value of the property. -/
inductive PropertyQuery where
  | named (name : String)
  | valued (property value : String)
  deriving DecidableEq, Repr

inductive SetOperation where
  | intersection
  | difference
  | symmetricDifference
  deriving DecidableEq, Repr

mutual

inductive ClassItem where
  | letter (l : Letter)
  | range (low high : Letter)
  | ascii (name : AsciiClass) (negated : Bool)
  | shorthand (s : Shorthand) (negated : Bool)
  | property (q : PropertyQuery) (negated : Bool)
  | nested (negated : Bool) (body : ClassBody)

/-- What stands between the brackets of a class. -/
inductive ClassBody where
  | items (items : List ClassItem)
  | operation (o : SetOperation) (left right : ClassBody)

end

/-- The flags that are set or cleared at some place. -/
structure FlagChange where
  ignoreCase : Option Bool := none
  multiLine : Option Bool := none
  dotAll : Option Bool := none
  swapGreed : Option Bool := none
  unicode : Option Bool := none
  carriageReturns : Option Bool := none
  verbose : Option Bool := none
  deriving DecidableEq, Repr

/-- Conditions as they are written; what `^`, `$` and the edges of words mean depends on flags. -/
inductive Anchor where
  | textStart
  | textEnd
  | lineStart
  | lineEnd
  | word (e : WordEdge)
  deriving DecidableEq, Repr

inductive Term where
  | empty
  | setting (change : FlagChange)
  | letter (l : Letter)
  | dot
  | anchor (a : Anchor)
  | shorthand (s : Shorthand) (negated : Bool)
  | property (q : PropertyQuery) (negated : Bool)
  | bracketed (negated : Bool) (body : ClassBody)
  | repeated (t : Term) (least : Nat) (most : Option Nat) (lazy : Bool)
  | group (index : Nat) (t : Term)
  | flagged (change : FlagChange) (t : Term)
  | sequence (ts : List Term)
  | choice (ts : List Term)

namespace Term

def ofItems : List Term → Term
  | [] => .empty
  | [t] => t
  | ts => .sequence ts

end Term

/-! ## Depth -/

mutual

def ClassItem.depth : ClassItem → Nat
  | .nested _ body => body.depth + 1
  | _ => 0

def ClassBody.depth : ClassBody → Nat
  | .items items => depthOfItems items
  | .operation _ left right => max left.depth right.depth + 1

/-- Several items lie one level below the class that holds them. -/
def depthOfItems : List ClassItem → Nat
  | [] => 0
  | [i] => i.depth
  | i :: rest => max (i.depth + 1) (depthBelow rest)

def depthBelow : List ClassItem → Nat
  | [] => 0
  | i :: rest => max (i.depth + 1) (depthBelow rest)

end

mutual

/-- How many terms and classes lie inside of each other, without those that have no parts. -/
def Term.depth : Term → Nat
  | .bracketed _ body => body.depth + 1
  | .repeated t _ _ _ => t.depth + 1
  | .group _ t => t.depth + 1
  | .flagged _ t => t.depth + 1
  | .sequence ts => depthOfTerms ts + 1
  | .choice ts => depthOfTerms ts + 1
  | _ => 0

def depthOfTerms : List Term → Nat
  | [] => 0
  | t :: rest => max t.depth (depthOfTerms rest)

end

end Pattern
end Reflash
