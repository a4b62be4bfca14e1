import Mathlib.Algebra.Group.Nat.Even
import Reflash.Wire.Field

/-!
# Wire.Field — messages are read as they were written

The fields of a message follow each other without any mark between them: that they are found again
rests on each number and each byte string leaving what follows it.

* `Varint.decode?_encode` — a number of 64 bits is read back, and what follows it is left;
* `Field.IsPlain`, `Wire.Plain` — the fields that can be written, and messages of such fields;
* `Wire.fields?_encode` — the fields of a message are read back, in their order;
* `Value.word?_ofWord`, `Value.int?_ofInt`, `Value.bool?_ofBool`, `Value.words?_pack` — and so are
  their values.
-/

namespace Reflash

/-! ## Numbers of variable size -/

namespace Varint

variable {n place : Nat}

theorem encode_of_lt (h : n < 128) : encode n = [UInt8.ofNat n] := by
  rw [encode, if_pos h]

theorem encode_of_le (h : 128 ≤ n) :
    encode n = UInt8.ofNat (n % 128 + 128) :: encode (n / 128) := by
  rw [encode, if_neg (Nat.not_lt.2 h)]

theorem toNat_last (h : n < 128) : (UInt8.ofNat n).toNat = n :=
  UInt8.toNat_ofNat_of_lt' (Nat.lt_trans h (by decide))

theorem toNat_marked (n : Nat) : (UInt8.ofNat (n % 128 + 128)).toNat = n % 128 + 128 :=
  UInt8.toNat_ofNat_of_lt' (by change n % 128 + 128 < 256; omega)

/-- The places that are left hold seven bits each, and the tenth one a single bit. -/
theorem decodeFrom_encode (hplace : place ≤ 9) (h : n < 2 ^ (64 - 7 * place)) (rest : Bytes) :
    decodeFrom place (encode n ++ rest) = some (n, rest) := by
  induction n using Nat.strongRecOn generalizing place with
  | ind n ih =>
      by_cases hlast : n < 128
      · have hbit : ¬ (place = 9 ∧ 2 ≤ UInt8.ofNat n) := by
          rintro ⟨rfl, htwo⟩
          rw [UInt8.le_iff_toNat_le, toNat_last hlast] at htwo
          exact absurd htwo (Nat.not_le.2 h)
        have hend : UInt8.ofNat n < 128 := by
          rw [UInt8.lt_iff_toNat_lt, toNat_last hlast]
          exact hlast
        rw [encode_of_lt hlast, List.singleton_append, decodeFrom, if_neg hbit, if_pos hend,
          toNat_last hlast]
      · have hmore : 128 ≤ n := Nat.not_lt.1 hlast
        -- In the tenth place, only zero and one are left.
        have hnine : place ≠ 9 := by
          rintro rfl
          omega
        have hmarked : ¬ UInt8.ofNat (n % 128 + 128) < 128 := by
          rw [UInt8.lt_iff_toNat_lt, toNat_marked]
          exact Nat.not_lt.2 (Nat.le_add_left _ _)
        have hhigh : n / 128 < 2 ^ (64 - 7 * (place + 1)) := by
          have hbits : 64 - 7 * place = 64 - 7 * (place + 1) + 7 := by omega
          rw [hbits, Nat.pow_add] at h
          exact Nat.div_lt_of_lt_mul (by rwa [Nat.mul_comm])
        have hrest := ih (n / 128) (by omega) (by omega : place + 1 ≤ 9) hhigh
        have hsum : (n % 128 + 128) % 128 + 128 * (n / 128) = n := by omega
        calc
          decodeFrom place (encode n ++ rest) =
              (decodeFrom (place + 1) (encode (n / 128) ++ rest)).map fun high =>
                ((UInt8.ofNat (n % 128 + 128)).toNat % 128 + 128 * high.1, high.2) := by
            rw [encode_of_le hmore, List.cons_append, decodeFrom, if_neg (fun hbit => hnine hbit.1),
              if_neg hmarked]
          _ = some ((n % 128 + 128) % 128 + 128 * (n / 128), rest) := by
            rw [hrest, toNat_marked]
            rfl
          _ = some (n, rest) := by rw [hsum]

theorem decode?_encode (h : n < 2 ^ 64) (rest : Bytes) :
    decode? (encode n ++ rest) = some (n, rest) :=
  decodeFrom_encode (Nat.zero_le 9) h rest

end Varint

/-! ## Fields and messages -/

namespace Wire

variable {number kind limit : Nat} {b rest : Bytes} {e : Event} {f : Field} {fields : List Field}

/-- Numbers have 64 bits; groups and words of fixed size are not written. -/
def Value.IsPlain : Value → Prop
  | .number n => n < 2 ^ 64
  | .bytes _ => True
  | .other => False

/-- Together with the kind of its value, the number of a field has 32 bits. -/
structure Field.IsPlain (f : Field) : Prop where
  pos : 0 < f.number
  lt : f.number < 2 ^ 29
  value : f.value.IsPlain

theorem Field.isPlain_bytes (hnumber : 0 < number ∧ number < 2 ^ 29) :
    Field.IsPlain ⟨number, .bytes b⟩ :=
  ⟨hnumber.1, hnumber.2, trivial⟩

def Plain (fields : List Field) : Prop :=
  ∀ f ∈ fields, f.IsPlain

theorem Plain.append {fields more : List Field} (h : Plain fields) (h' : Plain more) :
    Plain (fields ++ more) :=
  List.forall_mem_append.2 ⟨h, h'⟩

/-! ## Sizes -/

theorem encode_cons (f : Field) (fields : List Field) :
    encode (f :: fields) = f.encode ++ encode fields :=
  List.flatMap_cons

theorem length_le_encode (h : f ∈ fields) : f.encode.length ≤ (encode fields).length := by
  induction h with
  | head => simp [encode_cons]
  | tail _ _ ih => simp only [encode_cons, List.length_append]; omega

theorem length_bytes_le : b.length ≤ (Field.encode ⟨number, .bytes b⟩).length := by
  simp only [Field.encode, Value.encode, List.length_append]
  omega

/-! ## One field -/

theorem key?_encode (hpos : 0 < number) (hlt : number < 2 ^ 29) (hkind : kind < 8) (b : Bytes) :
    key? (Varint.encode (8 * number + kind) ++ b) = some ((number, kind), b) := by
  have hnumber : (8 * number + kind) / 8 = number := by omega
  have hrest : (8 * number + kind) % 8 = kind := by omega
  have hvalid : 8 * number + kind < 0x100000000 ∧ 8 ≤ 8 * number + kind := by omega
  rw [key?, Varint.decode?_encode (by omega)]
  simp only [Option.bind_eq_bind, Option.bind_some, if_pos hvalid, hnumber, hrest]

theorem take?_append (b rest : Bytes) : take? b.length (b ++ rest) = some (b, rest) := by
  rw [take?, if_pos (by simp), List.take_left, List.drop_left]

theorem event?_encode (h : f.IsPlain) (hlength : f.encode.length < 2 ^ 64) (rest : Bytes) :
    event? (f.encode ++ rest) = some (.field f, rest) := by
  obtain ⟨number, value⟩ := f
  obtain ⟨hpos, hlt, hvalue⟩ := h
  cases value with
  | number n =>
      have hkey := key?_encode hpos hlt (by decide : 0 < 8) (Varint.encode n ++ rest)
      have hnumber := Varint.decode?_encode hvalue rest
      simp only [event?, Field.encode, Value.encode, Value.kind, List.append_assoc, hkey,
        Option.bind_eq_bind, Option.bind_some, eventOf?, hnumber, Option.map_some]
  | bytes b =>
      have hkey := key?_encode hpos hlt (by decide : 2 < 8) (Varint.encode b.length ++ (b ++ rest))
      have hsize := Varint.decode?_encode (Nat.lt_of_le_of_lt length_bytes_le hlength) (b ++ rest)
      simp only [event?, Field.encode, Value.encode, Value.kind, List.append_assoc, hkey,
        Option.bind_eq_bind, Option.bind_some, eventOf?, hsize, take?_append, Option.map_some]
  | other => exact hvalue.elim

/-! ## Messages -/

theorem events?_of_event? (h : event? b = some (e, rest)) :
    events? b = (events? rest).map (e :: ·) := by
  cases b with
  | nil => cases h
  | cons x tail =>
      rw [events?]
      split
      next e' rest' h' =>
        obtain ⟨rfl, rfl⟩ := Prod.mk.inj (Option.some.inj (h'.symm.trans h))
        rfl
      next h' => cases h'.symm.trans h

theorem events?_encode (h : Plain fields) (hlength : (encode fields).length < 2 ^ 64) :
    events? (encode fields) = some (fields.map .field) := by
  induction fields with
  | nil => rw [encode, List.flatMap_nil, events?, List.map_nil]
  | cons f fields ih =>
      rw [encode_cons, List.length_append] at hlength
      have hfirst := event?_encode (h f List.mem_cons_self) (by omega) (encode fields)
      have hothers := ih (fun g hg => h g (List.mem_cons_of_mem f hg)) (by omega)
      rw [encode_cons, events?_of_event? hfirst, hothers, Option.map_some, List.map_cons]

/-- Outside of groups, fields are put one behind the other. -/
theorem foldlM_step_field (known fields : List Field) :
    (fields.map Event.field).foldlM (Reading.step limit) ⟨[], known⟩ =
      some ⟨[], known ++ fields⟩ := by
  induction fields generalizing known with
  | nil => simp
  | cons f fields ih => simp [Reading.step, ih]

theorem fields?_encode (h : Plain fields) (hlength : (encode fields).length < 2 ^ 64) :
    fields? limit (encode fields) = some fields := by
  rw [fields?, events?_encode h hlength]
  simp only [Option.bind_eq_bind, Option.bind_some, foldlM_step_field, List.nil_append, if_true]

/-! ## Values -/

namespace Value

@[simp] theorem word?_ofWord (w : UInt32) : (ofWord w).word? = some w := by
  rw [ofWord, word?, UInt32.ofNat_toNat]

/-- Of the 64 bits that a signed number is extended to, the lowest 32 are looked at. -/
@[simp] theorem int?_ofInt (i : Int32) : (ofInt i).int? = some i := by
  have hlow : (((i.toInt % 0x10000000000000000).toNat % 0x100000000 : Nat) : Int) =
      i.toInt % 0x100000000 := by
    omega
  have hsame : Int32.ofNat ((i.toInt % 0x10000000000000000).toNat % 0x100000000) = i := by
    rw [← Int32.toInt_inj, Int32.toInt_ofNat', hlow]
    calc
      (i.toInt % 0x100000000).bmod Int32.size = i.toInt.bmod Int32.size :=
        Int.emod_bmod i.toInt Int32.size
      _ = i.toInt := Int32.toInt_bmod_size i
  rw [ofInt, int?, hsame]

@[simp] theorem bool?_ofBool (b : Bool) : (ofBool b).bool? = some b := by
  cases b with
  | false => rfl
  | true => rfl

@[simp] theorem bytes?_bytes (b : Bytes) : (bytes b).bytes? = some b :=
  rfl

theorem unpack?_of_decode? {n : Nat} (h : Varint.decode? b = some (n, rest)) :
    unpack? b = (unpack? rest).map (UInt32.ofNat n :: ·) := by
  cases b with
  | nil => cases h
  | cons x tail =>
      rw [unpack?]
      split
      next n' rest' h' =>
        obtain ⟨rfl, rfl⟩ := Prod.mk.inj (Option.some.inj (h'.symm.trans h))
        rfl
      next h' => cases h'.symm.trans h

theorem toNat_lt (w : UInt32) : w.toNat < 2 ^ 64 :=
  Nat.lt_trans w.toNat_lt (by decide)

@[simp] theorem words?_pack (words : List UInt32) : (pack words).words? = some words := by
  rw [pack, words?]
  induction words with
  | nil => rw [List.flatMap_nil, unpack?]
  | cons w words ih =>
      have hfirst :=
        Varint.decode?_encode (toNat_lt w) (words.flatMap fun w => Varint.encode w.toNat)
      rw [List.flatMap_cons, unpack?_of_decode? hfirst, ih, Option.map_some, UInt32.ofNat_toNat]

theorem isPlain_ofWord (w : UInt32) : (ofWord w).IsPlain :=
  toNat_lt w

theorem isPlain_ofInt (i : Int32) : (ofInt i).IsPlain := by
  have h := Int.emod_lt_of_pos i.toInt (by decide : (0 : Int) < 0x10000000000000000)
  change (i.toInt % 0x10000000000000000).toNat < 2 ^ 64
  omega

theorem isPlain_ofBool (b : Bool) : (ofBool b).IsPlain :=
  Nat.lt_of_le_of_lt b.toNat_le (by decide)

end Value

end Wire
end Reflash
