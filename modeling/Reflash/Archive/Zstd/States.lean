import Reflash.Archive.Expansion

/-!
# Archive.Zstd.States — symbols as states of an automaton

Symbols have shares of the states of an automaton.  A state stands for a symbol, and tells how many
bits to read for the next state; the greater the share of a symbol, the fewer bits it takes.

* `Zstd.States.ofShares` — the automaton for shares;
* `Zstd.Shares.read?` — shares as they are written;
* `Zstd.backward?` — the bits of data that are read from the end.
-/

namespace Reflash
namespace Zstd

/-! ## Bits -/

/-- Readings of bits, which fail where there are none left. -/
abbrev BitsM : Type → Type :=
  StateT (List Bool) Option

def bit : BitsM Bool := do
  match ← get with
  | [] => failure
  | b :: rest =>
      set rest
      return b

/-- A number of that many bits, lowest first. -/
def little : (width : Nat) → BitsM Nat
  | 0 => return 0
  | width + 1 => do
      let low ← bit
      return low.toNat + 2 * (← little width)

/-- A number of that many bits, highest first. -/
def big (width : Nat) : BitsM Nat :=
  (List.range width).foldlM (fun n _ => return 2 * n + (← bit).toNat) 0

/-- Insists on a rule. -/
def check (rule : Bool) : BitsM Unit :=
  if rule then return () else failure

/-- Data that are read from the end begin behind the highest one of the last byte. -/
def backward? (b : Bytes) : Option (List Bool) :=
  match b.reverse with
  | [] => none
  | last :: _ =>
      if last = 0 then none
      else some ((b.reverse.flatMap Expansion.highFirst).dropWhile (!·) |>.drop 1)

/-! ## Shares -/

/-- How many states a symbol has; one that is rarer than that has a state at the end. -/
inductive Share where
  | states (count : Nat)
  | rare
  deriving DecidableEq, Repr

def Share.count : Share → Nat
  | .states count => count
  | .rare => 1

/-- The shares of the first symbols, of 2 to the power of `log` states. -/
structure Shares where
  log : Nat
  shares : List Share
  deriving Repr

namespace Shares

/-- A number up to a greatest one; the lower numbers take a bit less, as far as there is room. -/
def upTo (greatest : Nat) : BitsM Nat := do
  let width := greatest.log2
  let low ← little width
  let room := 1 <<< (width + 1) - 1 - greatest
  if low < room then return low
  if ← bit then return low + 1 <<< width - room else return low

/-- How many more symbols have no states: three, and yet more, if so written. -/
def absent : (fuel : Nat) → BitsM Nat
  | 0 => failure
  | fuel + 1 => do
      let n ← little 2
      if n = 3 then return 3 + (← absent fuel) else return n

/-- Shares until all states are given away; `fuel` bounds the number of steps. -/
def readFrom : (fuel : Nat) → (left : Nat) → List Share → BitsM (List Share)
  | 0, _, _ => failure
  | fuel + 1, left, known => do
      if left = 0 then return known
      match ← upTo (left + 1) with
      | 0 => readFrom fuel (left - 1) (known ++ [.rare])
      | 1 => readFrom fuel left (known ++ List.replicate (1 + (← absent 256)) (.states 0))
      | n + 2 => readFrom fuel (left - (n + 1)) (known ++ [.states (n + 1)])

/-- Shares at the head of a byte string, and what follows them. -/
def read? (logLimit symbols : Nat) (b : Bytes) : Option (Shares × Bytes) := do
  let bits := b.flatMap Expansion.lowFirst
  let ((log, shares), rest) ← StateT.run (do
    let log := 5 + (← little 4)
    check (log ≤ logLimit)
    let shares ← readFrom 1024 (1 <<< log) []
    check (shares.length ≤ symbols)
    return (log, shares)) bits
  return ({ log, shares }, b.drop (b.length - rest.length / 8))

end Shares

/-! ## Automata -/

/-- A state: its symbol, how many bits there are to read, and the state to add them to. -/
structure Cell where
  symbol : Nat
  width : Nat
  base : Nat
  deriving Repr

structure States where
  log : Nat
  cells : Array Cell

namespace States

/-- The automaton with a single state, which reads nothing. -/
def constant (symbol : Nat) : States where
  log := 0
  cells := #[{ symbol, width := 0, base := 0 }]

/-- The symbols of the states: the rare ones from the end, the others strewn over the rest in equal
steps. -/
def symbols (s : Shares) : Array Nat :=
  let size := 1 <<< s.log
  let listed := s.shares.zipIdx
  let rare := listed.filterMap fun (share, symbol) => if share = .rare then some symbol else none
  let others := listed.flatMap fun (share, symbol) =>
    if share = .rare then [] else List.replicate share.count symbol
  let step := size / 2 + size / 8 + 3
  let places := ((List.range size).map fun k => k * step % size).filter (· + rare.length < size)
  let strewn := (places.zip others).foldl (fun a (place, symbol) => a.setIfInBounds place symbol)
    (Array.replicate size 0)
  rare.zipIdx.foldl (fun a (symbol, k) => a.setIfInBounds (size - 1 - k) symbol) strewn

/-- The states of a symbol are numbered from its share on, and go on to all states as evenly as
possible. -/
def ofShares (s : Shares) : States :=
  let counts := (s.shares.map Share.count).toArray
  let step (done : Array Cell × Array Nat) (symbol : Nat) : Array Cell × Array Nat :=
    let number := (done.2[symbol]?).getD 1
    let width := s.log - number.log2
    (done.1.push { symbol, width, base := number <<< width - 1 <<< s.log },
      done.2.setIfInBounds symbol (number + 1))
  { log := s.log, cells := ((symbols s).foldl step (#[], counts)).1 }

/-- The first state. -/
def first (s : States) : BitsM Cell := do
  match s.cells[← big s.log]? with
  | some cell => return cell
  | none => failure

def next (s : States) (cell : Cell) : BitsM Cell := do
  match s.cells[cell.base + (← big cell.width)]? with
  | some cell => return cell
  | none => failure

end States
end Zstd
end Reflash
