/-!
# Shortest — short decimals for binary numbers

A floating-point number is told by the decimal with the fewest digits among those that are nearer to
it than to any other such number; of several, by the nearest one.

* `Shortest.decimal` — the digits and the power of ten of a positive number;
* `Shortest.text` — the decimal as a text.
-/

namespace Reflash
namespace Shortest

/-- The number `fraction · 2 ^ exponent`. -/
structure Binary where
  fraction : Nat
  exponent : Int
  deriving DecidableEq, Repr

/-- The parts of a finite number without its sign. -/
def Binary.ofFloat (x : Float) : Binary :=
  let bits := x.toBits.toNat % 0x8000000000000000
  let fraction := bits % 0x10000000000000
  let exponent : Nat := bits / 0x10000000000000
  if exponent = 0 then ⟨fraction, -1074⟩ else ⟨fraction + 0x10000000000000, (exponent : Int) - 1075⟩

/-- A quotient of numbers. -/
structure Ratio where
  upper : Nat
  lower : Nat

/-- The number `n · 2 ^ twos · 10 ^ tens` as a quotient. -/
def Ratio.scaled (n : Nat) (twos tens : Int) : Ratio where
  upper := n <<< twos.toNat * Nat.pow 10 tens.toNat
  lower := 1 <<< (-twos).toNat * Nat.pow 10 (-tens).toNat

/-- A decimal `digits · 10 ^ power`. -/
structure Decimal where
  digits : Nat
  power : Int
  deriving DecidableEq, Repr

/-- Four times the distance to the neighbours below and above, in quarters of the last place.  Below
a power of two, the neighbours are twice as near. -/
def Binary.margins (b : Binary) : Nat × Nat :=
  if b.fraction = 0x10000000000000 ∧ -1074 < b.exponent then (1, 2) else (2, 2)

/-- The decimal with that power that is nearer to a number than to any other one; of two such, the
nearer or the even one. -/
def Binary.nearest? (b : Binary) (power : Int) : Option Decimal :=
  let scaled (n : Nat) := Ratio.scaled n (b.exponent - 2) (-power)
  let value := scaled (4 * b.fraction)
  let (below, above) := b.margins
  let low := (scaled (4 * b.fraction - below)).upper
  let high := (scaled (4 * b.fraction + above)).upper
  let isInside (digits : Nat) : Bool :=
    let n := digits * value.lower
    if b.fraction % 2 = 0 then low ≤ n ∧ n ≤ high else low < n ∧ n < high
  let floor := value.upper / value.lower
  let rest := 2 * (value.upper % value.lower)
  let isNearBelow := rest < value.lower ∨ (rest = value.lower ∧ floor % 2 = 0)
  let inOrder := if isNearBelow then [floor, floor + 1] else [floor + 1, floor]
  (inOrder.find? isInside).map (⟨·, power⟩)

/-- The shortest decimal among the powers from `power` down to the lowest one that is ever
needed. -/
def Binary.shortestFrom (b : Binary) : (fuel : Nat) → (power : Int) → Decimal
  | 0, power => ⟨b.fraction, power⟩
  | fuel + 1, power =>
      match b.nearest? power with
      | some decimal => decimal
      | none => shortestFrom b fuel (power - 1)

/-- Powers of ten between those of the greatest and of the least number. -/
def decimal (x : Float) : Decimal :=
  (Binary.ofFloat x).shortestFrom 640 309

/-- Drops zeros from the end of the digits. -/
def Decimal.trimmed : (fuel : Nat) → Decimal → Decimal
  | 0, d => d
  | fuel + 1, d =>
      if d.digits ≠ 0 ∧ d.digits % 10 = 0 then trimmed fuel ⟨d.digits / 10, d.power + 1⟩ else d

/-- The digits with a point after the first `place` of them. -/
def pointed (digits : List Char) (place : Nat) : List Char :=
  digits.take place ++ ['.'] ++ digits.drop place

/-- A decimal as a text: with a point where this takes up to sixteen digits before it or five zeros
after it, and with a signed exponent otherwise. -/
def Decimal.text (d : Decimal) : String :=
  let digits := Nat.toDigits 10 d.digits
  let place : Int := digits.length + d.power
  let zeros (n : Int) := List.replicate n.toNat '0'
  String.ofList <|
    if 0 ≤ d.power ∧ place ≤ 16 then digits ++ zeros d.power ++ ['.', '0']
    else if 0 < place ∧ place ≤ 16 then pointed digits place.toNat
    else if -5 < place ∧ place ≤ 0 then ['0', '.'] ++ zeros (-place) ++ digits
    else
      (if digits.length = 1 then digits else pointed digits 1)
        ++ (if place < 1 then ['e'] else ['e', '+']) ++ (toString (place - 1)).toList

/-- A finite number as a text. -/
def text (x : Float) : String :=
  let sign := if x.toBits.toNat < 0x8000000000000000 then "" else "-"
  if x == 0.0 then sign ++ "0.0" else sign ++ ((decimal x).trimmed 400).text

end Shortest
end Reflash
