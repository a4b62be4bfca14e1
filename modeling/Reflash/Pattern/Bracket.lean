import Reflash.Pattern.Escape

/-!
# Pattern.Bracket — classes of characters in brackets

A class lists characters, ranges and other classes, and operations between such lists, which are
carried out from left to right.  A bracket in front of a class and dashes there are members of it.
-/

namespace Reflash
namespace Pattern

/-- A class that is open: its items so far, last first, and what they will be combined with. -/
structure ClassFrame where
  negated : Bool
  left : Option (SetOperation × ClassBody) := none
  items : List ClassItem := []

namespace ClassFrame

def add (f : ClassFrame) (item : ClassItem) : ClassFrame :=
  { f with items := item :: f.items }

def body (f : ClassFrame) : ClassBody :=
  let right := ClassBody.items f.items.reverse
  match f.left with
  | some (operation, left) => .operation operation left right
  | none => right

def operate (f : ClassFrame) (operation : SetOperation) : ClassFrame :=
  { f with left := some (operation, f.body), items := [] }

end ClassFrame

/-- The dashes in front of a class. -/
def leadingDashes (verbose : Bool) : (fuel : Nat) → List Char → Nat × List Char
  | fuel + 1, '-' :: rest =>
      let (n, rest) := leadingDashes verbose fuel (skip verbose rest)
      (n + 1, rest)
  | _, s => (0, s)

/-- Opens a class, after its bracket. -/
def openClass (verbose : Bool) (s : List Char) : ClassFrame × List Char :=
  let s := skip verbose s
  let (negated, s) := match s with
    | '^' :: rest => (true, skip verbose rest)
    | _ => (false, s)
  let (dashes, s) := leadingDashes verbose s.length s
  match dashes, s with
  | 0, ']' :: rest => ({ negated, items := [.letter { char := ']' }] }, skip verbose rest)
  | _, _ => ({ negated, items := List.replicate dashes (.letter { char := '-' }) }, s)

/-- The classes of ASCII characters by their names. -/
def AsciiClass.ofName? (name : String) : Option AsciiClass :=
  List.lookup name [
    ("alnum", .alnum), ("alpha", .alpha), ("ascii", .ascii), ("blank", .blank), ("cntrl", .cntrl),
    ("digit", .digit), ("graph", .graph), ("lower", .lower), ("print", .print), ("punct", .punct),
    ("space", .space), ("upper", .upper), ("word", .word), ("xdigit", .xdigit)]

/-- A class by its name between colons, after an opening bracket. -/
def namedClass? (s : List Char) : Option (ClassItem × List Char) := do
  let ':' :: s := s | none
  let (negated, s) := match s with
    | '^' :: rest => (true, rest)
    | _ => (false, s)
  let name := s.takeWhile (· ≠ ':')
  let ':' :: ']' :: rest := s.drop name.length | none
  let c ← AsciiClass.ofName? (String.ofList name)
  return (.ascii c negated, rest)

/-- One character, or what an escape stands for. -/
def member? (verbose : Bool) : List Char → Option (Escape × List Char)
  | '\\' :: rest => escape? verbose rest
  | c :: rest => some (.letter { char := c }, rest)
  | [] => none

/-- Conditions are no members of a class. -/
def itemOfEscape? : Escape → Option ClassItem
  | .letter l => some (.letter l)
  | .shorthand s negated => some (.shorthand s negated)
  | .property q negated => some (.property q negated)
  | .anchor _ => none

/-- A member of a class, or a range between two characters.  A dash before a closing bracket or
before another dash makes no range. -/
def item? (verbose : Bool) (s : List Char) : Option (ClassItem × List Char) := do
  let (first, rest) ← member? verbose s
  match skip verbose rest with
  | [] => none
  | '-' :: rest =>
      let ahead := peek verbose ('-' :: rest)
      if ahead = some ']' ∨ ahead = some '-' then return (← itemOfEscape? first, '-' :: rest)
      else
        let (last, rest) ← member? verbose (skip verbose rest)
        match first, last with
        | .letter low, .letter high =>
            if low.char ≤ high.char then return (.range low high, rest) else none
        | _, _ => none
  | rest => return (← itemOfEscape? first, rest)

/-- Reads the rest of open classes, innermost first.  Each round takes a character. -/
def classWithin (verbose : Bool) : (fuel : Nat) → ClassFrame → List ClassFrame → List Char →
    Option (Term × List Char)
  | 0, _, _, _ => none
  | fuel + 1, frame, outer, s =>
      match skip verbose s with
      | [] => none
      | ']' :: rest =>
          match outer with
          | [] => some (.bracketed frame.negated frame.body, rest)
          | enclosing :: outer =>
              let enclosing := enclosing.add (.nested frame.negated frame.body)
              classWithin verbose fuel enclosing outer rest
      | '[' :: rest =>
          match namedClass? rest with
          | some (item, rest) => classWithin verbose fuel (frame.add item) outer rest
          | none =>
              let (inner, rest) := openClass verbose rest
              classWithin verbose fuel inner (frame :: outer) rest
      | '&' :: '&' :: rest => classWithin verbose fuel (frame.operate .intersection) outer rest
      | '-' :: '-' :: rest => classWithin verbose fuel (frame.operate .difference) outer rest
      | '~' :: '~' :: rest =>
          classWithin verbose fuel (frame.operate .symmetricDifference) outer rest
      | c :: rest => do
          let (item, rest) ← item? verbose (c :: rest)
          classWithin verbose fuel (frame.add item) outer rest

/-- A class, after its opening bracket. -/
def class? (verbose : Bool) (s : List Char) : Option (Term × List Char) :=
  let (frame, rest) := openClass verbose s
  classWithin verbose (rest.length + 1) frame [] rest

end Pattern
end Reflash
