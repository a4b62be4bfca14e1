/-!
# Decimal — unsigned decimal numerals

A numeral is a non-empty run of ASCII digits; leading zeros are allowed.  A signed numeral may
start with a plus sign, as lenient readers of unsigned numbers allow.
-/

namespace Reflash
namespace Decimal

def IsDigit (c : Char) : Prop := '0' ≤ c ∧ c ≤ '9'

instance (c : Char) : Decidable (IsDigit c) :=
  inferInstanceAs (Decidable (_ ∧ _))

/-- The number that a run of digits spells. -/
def value (digits : List Char) : Nat :=
  digits.foldl (fun n c => 10 * n + (c.toNat - '0'.toNat)) 0

/-- The value of a numeral below `bound`. -/
def below? (bound : Nat) (s : List Char) : Option Nat :=
  if s ≠ [] ∧ s.all (IsDigit ·) ∧ value s < bound then some (value s) else none

/-- Why a text is no number below a bound. -/
inductive Fault where
  | empty
  | invalidDigit
  | overflow
  deriving DecidableEq, Repr

/-- Reads on after digits that spell `known`.  The first fault counts: the first character that is
no digit, or the first digit that takes the number to the bound. -/
def readOn (bound known : Nat) : List Char → Except Fault Nat
  | [] => .ok known
  | c :: s =>
      if ¬ IsDigit c then .error .invalidDigit
      else
        let n := 10 * known + (c.toNat - '0'.toNat)
        if n < bound then readOn bound n s else .error .overflow

/-- Reads a numeral that may carry a plus sign; a sign alone is no number. -/
def signedBelow (bound : Nat) : List Char → Except Fault Nat
  | [] => .error .empty
  | ['+'] => .error .invalidDigit
  | '+' :: digits => readOn bound 0 digits
  | digits => readOn bound 0 digits

end Decimal
end Reflash
