import Reflash.Json.Decoder
import Reflash.Text.Shortest

/-!
# Json.Decoder.Number — numbers where something else is asked for

Integers of sixty-four bits are told exactly, all other numbers as floating-point numbers: from as
many digits as fit into sixty-four bits, scaled by a power of ten.
-/

namespace Reflash
namespace Json
namespace Decoder

def isDigit (b : UInt8) : Bool :=
  0x30 ≤ b && b ≤ 0x39

def digitsBound : Nat := 0x10000000000000000

/-- A number under way: `digits · 10 ^ power`, where digits that do not fit are left out. -/
structure Numeral where
  digits : Nat
  power : Int := 0
  isFull : Bool := false
  deriving DecidableEq, Repr

/-- Appends a digit before the point. -/
def Numeral.pushWhole (n : Numeral) (digit : UInt8) : Numeral :=
  let digits := 10 * n.digits + (digit.toNat - 0x30)
  if n.isFull ∨ digitsBound ≤ digits then { n with power := n.power + 1, isFull := true }
  else { n with digits }

/-- Appends a digit after the point. -/
def Numeral.pushPart (n : Numeral) (digit : UInt8) : Numeral :=
  let digits := 10 * n.digits + (digit.toNat - 0x30)
  if n.isFull ∨ digitsBound ≤ digits then { n with isFull := true }
  else { n with digits, power := n.power - 1 }

def Numeral.shifted (n : Numeral) (power : Int) : Numeral :=
  { n with power := n.power + power }

/-! ## Values of numerals -/

/-- Divides by the greatest power of ten as often as a power is too low. -/
def lowered : (fuel : Nat) → Float → Int → Option Float
  | 0, _, _ => none
  | fuel + 1, x, power =>
      if power.natAbs ≤ 308 then
        let scale := Float.ofScientific 1 false power.natAbs
        if power < 0 then some (x / scale)
        else if (x * scale).isInf then none else some (x * scale)
      else if x == 0.0 then some x
      else if 0 ≤ power then none
      else lowered fuel (x / 1e308) (power + 308)

/-- The value of a numeral, unless that is too great. -/
def Numeral.value? (n : Numeral) : Option Float :=
  lowered 4 (UInt64.ofNat n.digits).toFloat n.power

def Numeral.real (n : Numeral) (isNegative : Bool) : Decoder Found := do
  match n.value? with
  | some x => return .real (Shortest.text (if isNegative then -x else x))
  | none => failBehind .hugeNumber

/-! ## Reading numerals -/

/-- The greatest exponent that is looked at. -/
def exponentBound : Nat := 0x80000000

/-- The digits of an exponent up to the one that makes it too great. -/
def exponentFrom : (known : Nat) → Decoder (Option Nat) := fun known =>
  repeatFrom known fun n => do
    match ← peek with
    | some b =>
        if isDigit b then
          pass 1
          let n := 10 * n + (b.toNat - 0x30)
          return if n < exponentBound then .inl n else .inr none
        else return .inr (some n)
    | none => return .inr (some n)

/-- The rest of a number from its exponent on. -/
def exponent (n : Numeral) (isNegative : Bool) : Decoder Found := do
  pass 1
  let isLow ← do
    match ← peek with
    | some 0x2B => do
        pass 1
        pure false
    | some 0x2D => do
        pass 1
        pure true
    | _ => pure false
  match ← next with
  | none => failBehind .endInValue
  | some b =>
      if !isDigit b then failBehind .badNumber
      match ← exponentFrom (b.toNat - 0x30) with
      | some e => (n.shifted (if isLow then -(e : Int) else e)).real isNegative
      | none =>
          if n.digits ≠ 0 ∧ !isLow then failBehind .hugeNumber
          discard (takeAll isDigit)
          Numeral.real ⟨0, 0, false⟩ isNegative

def isExponentMark (b : Option UInt8) : Bool :=
  b == some 0x65 || b == some 0x45

/-- The rest of a number from its point on. -/
def fraction (n : Numeral) (isNegative : Bool) : Decoder Found := do
  pass 1
  let digits ← takeAll isDigit
  if digits.isEmpty then
    if (← peek).isSome then failAt .badNumber else failAt .endInValue
  let n := digits.foldl Numeral.pushPart n
  if isExponentMark (← peek) then exponent n isNegative else n.real isNegative

/-- A number that has neither a point nor an exponent. -/
def Numeral.whole (n : Numeral) (isNegative : Bool) : Decoder Found :=
  if n.isFull then n.real isNegative
  else if !isNegative then return .integer n.digits
  else if 1 ≤ n.digits ∧ n.digits ≤ 0x8000000000000000 then return .integer (-n.digits)
  else n.real isNegative

/-- A number after its sign. -/
def number (isNegative : Bool) : Decoder Found := do
  let n ← do
    match ← next with
    | none => failBehind .endInValue
    | some 0x30 => do
        if (← peek).any isDigit then failAt .badNumber
        pure ⟨0, 0, false⟩
    | some b =>
        if !isDigit b then failBehind .badNumber
        pure ((← takeAll isDigit).foldl Numeral.pushWhole ⟨b.toNat - 0x30, 0, false⟩)
  let sign ← peek
  if sign = some 0x2E then fraction n isNegative
  else if isExponentMark sign then exponent n isNegative
  else n.whole isNegative

/-! ## Numbers that nobody asks for -/

def passExponent : Decoder Unit := do
  pass 1
  let sign ← peek
  if sign = some 0x2B ∨ sign = some 0x2D then pass 1
  if !(← next).any isDigit then failBehind .badNumber
  discard (takeAll isDigit)

def passFraction : Decoder Unit := do
  pass 1
  if (← takeAll isDigit).isEmpty then failAt .badNumber
  if isExponentMark (← peek) then passExponent

/-- Passes a number after its sign. -/
def passNumber : Decoder Unit := do
  match ← next with
  | some 0x30 => if (← peek).any isDigit then failAt .badNumber
  | some b =>
      if !isDigit b then failBehind .badNumber
      discard (takeAll isDigit)
  | none => failBehind .badNumber
  let sign ← peek
  if sign = some 0x2E then passFraction
  else if isExponentMark sign then passExponent

end Decoder
end Json
end Reflash
