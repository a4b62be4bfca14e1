/-!
# Crypto.Modular — arithmetic modulo a number
-/

namespace Reflash
namespace Modular

/-- The bits of a number, least significant first. -/
def bits (n : Nat) : List Bool :=
  if n = 0 then [] else (n % 2 = 1) :: bits (n / 2)

/-- The power `base ^ exponent` modulo `m`, by repeated squaring. -/
def pow (base exponent m : Nat) : Nat :=
  (bits exponent).foldr (fun bit r => let r := r * r % m; if bit then r * base % m else r) (1 % m)

/-- The inverse of `a` modulo the prime `p`. -/
def inverse (a p : Nat) : Nat :=
  pow a (p - 2) p

end Modular
end Reflash
