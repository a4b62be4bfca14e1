import Reflash.Crypto.Modular
import Reflash.Hash.Sha256

/-!
# Crypto.P256 — signatures over the curve P-256

Points are held in Jacobian coordinates: `(x, y, z)` with `z ≠ 0` is the point `(x / z², y / z³)`,
and `z = 0` is the point at infinity.

* `P256.Key.ofPoint?` — keys in their octet string forms, compressed ones included;
* `P256.Key.verifies` — the signature check; a malformed signature does not verify.
-/

namespace Reflash
namespace P256

/-! ## The curve `y² = x³ - 3x + b` -/

def p : Nat := 0xffffffff00000001000000000000000000000000ffffffffffffffffffffffff

def b : Nat := 0x5ac635d8aa3a93e7b3ebbd55769886bc651d06b0cc53b0f63bce3c3e27d2604b

/-- The order of the group. -/
def order : Nat := 0xffffffff00000000ffffffffffffffffbce6faada7179e84f3b9cac2fc632551

structure Point where
  x : Nat
  y : Nat
  z : Nat

def base : Point where
  x := 0x6b17d1f2e12c4247f8bce6e563a440f277037d812deb33a0f4a13945d898c296
  y := 0x4fe342e2fe1a7f9b8ee7eb4a7c0f9e162bce33576b315ececbb6406837bf51f5
  z := 1

def infinity : Point :=
  ⟨1, 1, 0⟩

def sub (a b : Nat) : Nat :=
  (a + p - b % p) % p

def double (q : Point) : Point :=
  let yy := q.y * q.y % p
  let s := 4 * q.x * yy % p
  let zz := q.z * q.z % p
  let m := 3 * (sub q.x zz) * (q.x + zz) % p
  let x := sub (m * m) (2 * s)
  ⟨x, sub (m * sub s x) (8 * yy * yy), 2 * q.y * q.z % p⟩

def add (q r : Point) : Point :=
  if q.z = 0 then r
  else if r.z = 0 then q
  else
    let qzz := q.z * q.z % p
    let rzz := r.z * r.z % p
    let u := q.x * rzz % p
    let v := r.x * qzz % p
    let s := q.y * (rzz * r.z % p) % p
    let t := r.y * (qzz * q.z % p) % p
    if u = v then
      if s = t then double q else infinity
    else
      let h := sub v u
      let k := sub t s
      let hh := h * h % p
      let hhh := hh * h % p
      let w := u * hh % p
      let x := sub (k * k) (hhh + 2 * w)
      ⟨x, sub (k * sub w x) (s * hhh), q.z * r.z % p * h % p⟩

def scale (n : Nat) (q : Point) : Point :=
  (Modular.bits n).foldr (fun bit r => let r := double r; if bit then add r q else r) infinity

/-- The first affine coordinate; that of the point at infinity counts as zero. -/
def affineX (q : Point) : Nat :=
  let inverse := Modular.inverse q.z p
  q.x * (inverse * inverse % p) % p

/-! ## Keys -/

/-- A public key: a point of the curve by its affine coordinates. -/
structure Key where
  x : Nat
  y : Nat
  deriving DecidableEq, Repr

def curve (x : Nat) : Nat :=
  (x * x * x + (p - 3) * x + b) % p

/-- A square root, if the number is a square. -/
def root? (a : Nat) : Option Nat :=
  let r := Modular.pow a ((p + 1) / 4) p
  if r * r % p = a % p then some r else none

/-- The point with that first coordinate whose second one passes the choice between the two. -/
def lift? (x : Nat) (choose : Nat → Nat → Nat) : Option Key :=
  if x < p then (root? (curve x)).map fun y => ⟨x, choose y ((p - y) % p)⟩ else none

/-- Reads an uncompressed, compressed or compact point; a compact one has the smaller second
coordinate. -/
def Key.ofPoint? (s : Bytes) : Option Key :=
  match s with
  | 0x04 :: rest =>
      let x := Bytes.bigEndian (rest.take 32)
      let y := Bytes.bigEndian (rest.drop 32)
      if rest.length = 64 ∧ x < p ∧ y < p ∧ y * y % p = curve x then some ⟨x, y⟩ else none
  | form :: rest =>
      let x := Bytes.bigEndian rest
      if rest.length ≠ 32 then none
      else if form = 0x02 then lift? x fun y z => if y % 2 = 0 then y else z
      else if form = 0x03 then lift? x fun y z => if y % 2 = 1 then y else z
      else if form = 0x05 then lift? x min
      else none
  | [] => none

/-- The uncompressed form. -/
def Key.point (k : Key) : Bytes :=
  0x04 :: Bytes.ofBig 32 k.x ++ Bytes.ofBig 32 k.y

/-! ## Signatures -/

/-- Checks the two halves of a signature, numbers from one to below the group order. -/
def Key.verifies (k : Key) (message signature : Bytes) : Bool :=
  let r := Bytes.bigEndian (signature.take 32)
  let s := Bytes.bigEndian (signature.drop 32)
  if signature.length = 64 ∧ 0 < r ∧ r < order ∧ 0 < s ∧ s < order then
    let z := Bytes.bigEndian (Sha256.digest message) % order
    let w := Modular.inverse s order
    let q := add (scale (z * w % order) base) (scale (r * w % order) ⟨k.x, k.y, 1⟩)
    affineX q % order = r
  else false

end P256
end Reflash
