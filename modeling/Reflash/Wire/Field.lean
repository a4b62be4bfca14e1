import Reflash.Bytes

/-!
# Wire.Field — messages as lists of fields

A message is a sequence of fields, each with a number and a value.  A value is a number, a byte
string, or of a kind that no message of this library uses: a word of fixed size, or a group.  Groups
hold fields up to a matching end and may be nested, but not deeper than a limit.

Numbers are written in base 128, lowest digit first, and every byte but the last one is marked by
its highest bit.  A number of 64 bits takes ten bytes at most; zeros may be appended within these.

* `Varint.decode?`, `Varint.encode` — numbers of variable size;
* `Wire.fields?` — the fields of a message;
* `Wire.encode` — the bytes of a list of fields.
-/

namespace Reflash

/-! ## Numbers of variable size -/

namespace Varint

def encode (n : Nat) : Bytes :=
  if n < 128 then [UInt8.ofNat n] else UInt8.ofNat (n % 128 + 128) :: encode (n / 128)

/-- Reads a number of which `place` bytes have been read; the tenth byte has one bit. -/
def decodeFrom (place : Nat) : Bytes → Option (Nat × Bytes)
  | [] => none
  | x :: rest =>
      if place = 9 ∧ 2 ≤ x then none
      else if x < 128 then some (x.toNat, rest)
      else (decodeFrom (place + 1) rest).map fun (high, rest) => (x.toNat % 128 + 128 * high, rest)

/-- The number in front, and what follows it. -/
def decode? (b : Bytes) : Option (Nat × Bytes) :=
  decodeFrom 0 b

theorem decodeFrom_length {place n : Nat} {b rest : Bytes}
    (h : decodeFrom place b = some (n, rest)) : rest.length < b.length := by
  induction b generalizing place n rest with
  | nil => simp [decodeFrom] at h
  | cons x tail ih =>
      simp only [decodeFrom] at h
      split at h
      · simp at h
      · split at h
        · cases h; simp
        · simp only [Option.map_eq_some_iff] at h
          obtain ⟨⟨high, after⟩, hd, h⟩ := h
          cases h
          exact Nat.lt_trans (ih hd) (by simp)

theorem decode?_length {n : Nat} {b rest : Bytes} (h : decode? b = some (n, rest)) :
    rest.length < b.length :=
  decodeFrom_length h

end Varint

/-! ## Values and fields -/

namespace Wire

inductive Value where
  | number (n : Nat)
  | bytes (b : Bytes)
  | other
  deriving DecidableEq, Repr

structure Field where
  number : Nat
  value : Value
  deriving DecidableEq, Repr

/-! ## Writing -/

def Value.encode : Value → Bytes
  | .number n => Varint.encode n
  | .bytes b => Varint.encode b.length ++ b
  | .other => []

/-- The number in the key that tells the kind of a value. -/
def Value.kind : Value → Nat
  | .number _ => 0
  | .bytes _ => 2
  | .other => 3

def Field.encode (f : Field) : Bytes :=
  Varint.encode (8 * f.number + f.value.kind) ++ f.value.encode

def encode (fields : List Field) : Bytes :=
  fields.flatMap Field.encode

/-! ## Reading -/

/-- The key in front: the number of a field and the kind of its value. -/
def key? (b : Bytes) : Option ((Nat × Nat) × Bytes) := do
  let (key, rest) ← Varint.decode? b
  if key < 0x100000000 ∧ 8 ≤ key then some ((key / 8, key % 8), rest) else none

/-- A byte string of that size in front. -/
def take? (size : Nat) (b : Bytes) : Option (Bytes × Bytes) :=
  if size ≤ b.length then some (b.take size, b.drop size) else none

/-- What stands in a message: fields, and the bounds of groups. -/
inductive Event where
  | field (f : Field)
  | opening (group : Nat)
  | closing (group : Nat)
  deriving DecidableEq, Repr

/-- What follows the key of a field of that number, by the kind of its value. -/
def eventOf? (number kind : Nat) (b : Bytes) : Option (Event × Bytes) :=
  match kind with
  | 0 => (Varint.decode? b).map fun (n, rest) => (.field ⟨number, .number n⟩, rest)
  | 1 => (take? 8 b).map fun (_, rest) => (.field ⟨number, .other⟩, rest)
  | 2 => do
      let (size, rest) ← Varint.decode? b
      (take? size rest).map fun (content, rest) => (.field ⟨number, .bytes content⟩, rest)
  | 3 => some (.opening number, b)
  | 4 => some (.closing number, b)
  | 5 => (take? 4 b).map fun (_, rest) => (.field ⟨number, .other⟩, rest)
  | _ => none

def event? (b : Bytes) : Option (Event × Bytes) := do
  let ((number, kind), rest) ← key? b
  eventOf? number kind rest

theorem take?_length {size : Nat} {b content rest : Bytes}
    (h : take? size b = some (content, rest)) : rest.length ≤ b.length := by
  unfold take? at h
  split at h
  · cases h; simp
  · simp at h

theorem eventOf?_length {number kind : Nat} {b rest : Bytes} {e : Event}
    (h : eventOf? number kind b = some (e, rest)) : rest.length ≤ b.length := by
  unfold eventOf? at h
  split at h
  · obtain ⟨⟨n, after⟩, hd, h⟩ := Option.map_eq_some_iff.1 h
    cases h
    exact Nat.le_of_lt (Varint.decode?_length hd)
  · obtain ⟨⟨content, after⟩, ht, h⟩ := Option.map_eq_some_iff.1 h
    cases h
    exact take?_length ht
  · obtain ⟨⟨size, after⟩, hd, h⟩ := Option.bind_eq_some_iff.1 h
    obtain ⟨⟨content, after⟩, ht, h⟩ := Option.map_eq_some_iff.1 h
    cases h
    exact Nat.le_trans (take?_length ht) (Nat.le_of_lt (Varint.decode?_length hd))
  · cases h; simp
  · cases h; simp
  · obtain ⟨⟨content, after⟩, ht, h⟩ := Option.map_eq_some_iff.1 h
    cases h
    exact take?_length ht
  · simp at h

theorem event?_length {b rest : Bytes} {e : Event} (h : event? b = some (e, rest)) :
    rest.length < b.length := by
  obtain ⟨⟨⟨number, kind⟩, after⟩, hk, h⟩ := Option.bind_eq_some_iff.1 h
  obtain ⟨⟨key, after'⟩, hd, hk⟩ := Option.bind_eq_some_iff.1 hk
  dsimp only at hk
  split at hk
  · cases hk
    exact Nat.lt_of_le_of_lt (eventOf?_length h) (Varint.decode?_length hd)
  · simp at hk

def events? (b : Bytes) : Option (List Event) :=
  match b with
  | [] => some []
  | x :: tail =>
      match _h : event? (x :: tail) with
      | some (e, rest) => (events? rest).map (e :: ·)
      | none => none
termination_by b.length
decreasing_by exact event?_length _h

/-- The groups that are open, innermost first, and the fields outside of all groups. -/
structure Reading where
  groups : List Nat := []
  fields : List Field := []

/-- A group counts as one field; nothing may stand in `limit` or more groups. -/
def Reading.step (limit : Nat) (r : Reading) : Event → Option Reading
  | .field f =>
      match r.groups with
      | [] => some { r with fields := r.fields ++ [f] }
      | _ => if r.groups.length < limit then some r else none
  | .opening group =>
      match r.groups with
      | [] => some ⟨[group], r.fields ++ [⟨group, .other⟩]⟩
      | _ => if r.groups.length < limit then some { r with groups := group :: r.groups } else none
  | .closing group =>
      match r.groups with
      | innermost :: outer => if innermost = group then some { r with groups := outer } else none
      | [] => none

def fields? (limit : Nat) (b : Bytes) : Option (List Field) := do
  let r ← (← events? b).foldlM (Reading.step limit) {}
  if r.groups = [] then some r.fields else none

/-! ## Values -/

namespace Value

/-- The lowest 32 bits of a number. -/
def word? : Value → Option UInt32
  | .number n => some (UInt32.ofNat n)
  | _ => none

/-- The lowest 32 bits of a number, read as a signed number. -/
def int? : Value → Option Int32
  | .number n => some (Int32.ofNat (n % 0x100000000))
  | _ => none

def bool? : Value → Option Bool
  | .number n => some (n != 0)
  | _ => none

def bytes? : Value → Option Bytes
  | .bytes b => some b
  | _ => none

def ofWord (w : UInt32) : Value :=
  .number w.toNat

/-- Signed numbers are extended to 64 bits. -/
def ofInt (i : Int32) : Value :=
  .number (i.toInt % 0x10000000000000000).toNat

def ofBool (b : Bool) : Value :=
  .number b.toNat

/-- All numbers of a byte string that holds numbers only. -/
def unpack? (b : Bytes) : Option (List UInt32) :=
  match b with
  | [] => some []
  | x :: tail =>
      match _h : Varint.decode? (x :: tail) with
      | some (n, rest) => (unpack? rest).map (UInt32.ofNat n :: ·)
      | none => none
termination_by b.length
decreasing_by exact Varint.decode?_length _h

/-- A repeated number stands alone or packed with others. -/
def words? : Value → Option (List UInt32)
  | .number n => some [UInt32.ofNat n]
  | .bytes b => unpack? b
  | .other => none

def pack (words : List UInt32) : Value :=
  .bytes (words.flatMap fun w => Varint.encode w.toNat)

end Value

end Wire
end Reflash
