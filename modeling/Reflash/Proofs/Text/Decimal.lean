import Mathlib.Data.Nat.Digits.Lemmas
import Reflash.Text.Decimal

/-!
# Decimal — what a numeral stands for

* `value_eq_ofDigits` — the value of a numeral, by its digits from the last one on;
* `value_eq_value_iff` — two numerals have one value exactly if they differ in leading zeros at
  most;
* `value_repr` — the numeral that a number is written with stands for it;
* `signedBelow_eq_ok_iff` — where no sign is written, it does not matter whether one is allowed.
-/

namespace Reflash
namespace Decimal

variable {c d : Char} {s t : List Char} {bound n : Nat}

/-! ## Digits -/

/-- What a digit counts. -/
def digit (c : Char) : Nat :=
  c.toNat - '0'.toNat

theorem isDigit_iff : IsDigit c ↔ 48 ≤ c.toNat ∧ c.toNat ≤ 57 :=
  Iff.rfl

theorem digit_lt (h : IsDigit c) : digit c < 10 := by
  have hrange := isDigit_iff.1 h
  change c.toNat - 48 < 10
  omega

theorem digit_inj (hc : IsDigit c) (hd : IsDigit d) (h : digit c = digit d) : c = d := by
  have hc' := isDigit_iff.1 hc
  have hd' := isDigit_iff.1 hd
  change c.toNat - 48 = d.toNat - 48 at h
  apply Char.toNat_inj.1
  omega

theorem map_digit_inj (hs : ∀ c ∈ s, IsDigit c) (ht : ∀ c ∈ t, IsDigit c)
    (h : s.map digit = t.map digit) : s = t := by
  induction s generalizing t with
  | nil => exact (List.map_eq_nil_iff.1 h.symm).symm
  | cons c s ih =>
      cases t with
      | nil => cases h
      | cons d t =>
          obtain ⟨hdigit, hrest⟩ := List.cons.inj h
          have hcd : c = d := digit_inj (hs c List.mem_cons_self) (ht d List.mem_cons_self) hdigit
          have hst : s = t := ih (fun x hx => hs x (List.mem_cons_of_mem _ hx))
            (fun x hx => ht x (List.mem_cons_of_mem _ hx)) hrest
          rw [hcd, hst]

/-! ## Values -/

theorem value_concat (s : List Char) (c : Char) : value (s ++ [c]) = 10 * value s + digit c := by
  simp [value, digit]

theorem value_eq_ofDigits (s : List Char) : value s = Nat.ofDigits 10 (s.map digit).reverse := by
  induction s using List.reverseRecOn with
  | nil => rfl
  | append_singleton s c ih =>
      rw [value_concat, ih, List.map_append, List.reverse_append]
      simp [Nat.ofDigits_cons, Nat.add_comm]

theorem below?_eq_some_iff :
    below? bound s = some n ↔ s ≠ [] ∧ (∀ c ∈ s, IsDigit c) ∧ value s < bound ∧ value s = n := by
  simp [below?, and_assoc]

theorem isDigit_of_mem_repr (hc : c ∈ n.repr.toList) : IsDigit c := by
  rw [Nat.toList_repr] at hc
  have hdigit : c.isDigit = true := Nat.isDigit_of_mem_toDigits (by decide) (by decide) hc
  have hrange : 48 ≤ c.val ∧ c.val ≤ 57 := by simpa [Char.isDigit] using hdigit
  exact hrange

theorem value_repr (n : Nat) : value n.repr.toList = n := by
  rw [Nat.toList_repr]
  exact Nat.ofDigitChars_toDigits (by decide) (by decide)

theorem repr_ne_nil (n : Nat) : n.repr.toList ≠ [] := by
  rw [Nat.toList_repr]
  exact Nat.toDigits_ne_nil

/-! ## Leading zeros -/

/-- A numeral without its leading zeros; of zero nothing remains. -/
def significant (s : List Char) : List Char :=
  s.dropWhile (· = '0')

theorem value_significant (s : List Char) : value (significant s) = value s := by
  induction s with
  | nil => rfl
  | cons c s ih =>
      by_cases hc : c = '0'
      · subst hc
        exact ih
      · simp [significant, hc]

theorem isDigit_of_mem_significant (hs : ∀ c ∈ s, IsDigit c) (hc : c ∈ significant s) :
    IsDigit c :=
  hs c (List.dropWhile_sublist _ |>.subset hc)

/-- The digits of a number are those of any of its numerals, from the last one up to the first that
is not zero. -/
theorem digits_value (hs : ∀ c ∈ s, IsDigit c) :
    Nat.digits 10 (value s) = ((significant s).map digit).reverse := by
  rw [← value_significant, value_eq_ofDigits]
  refine Nat.digits_ofDigits 10 (by decide) _ ?_ ?_
  · intro n hn
    rw [List.mem_reverse] at hn
    obtain ⟨c, hc, rfl⟩ := List.mem_map.1 hn
    exact digit_lt (isDigit_of_mem_significant hs hc)
  -- The most significant digit stands last, since the digits are counted from the right.
  · intro hne hzero
    have hne' : significant s ≠ [] := by simpa using hne
    have hhead : (significant s).head hne' ≠ '0' := by
      simpa [significant] using List.head_dropWhile_not (· = '0') hne'
    rw [List.getLast_reverse, List.head_map] at hzero
    have hdigit := isDigit_of_mem_significant hs (List.head_mem hne')
    exact hhead (digit_inj hdigit (by decide) hzero)

theorem value_eq_value_iff (hs : ∀ c ∈ s, IsDigit c) (ht : ∀ c ∈ t, IsDigit c) :
    value s = value t ↔ significant s = significant t := by
  constructor
  · intro h
    have hdigits : ((significant s).map digit).reverse = ((significant t).map digit).reverse := by
      rw [← digits_value hs, ← digits_value ht, h]
    exact map_digit_inj (fun _ => isDigit_of_mem_significant hs)
      (fun _ => isDigit_of_mem_significant ht) (List.reverse_injective hdigits)
  · intro h
    rw [← value_significant s, h, value_significant]

/-- Starts with a zero that could be left out. -/
def Padded (s : List Char) : Prop :=
  ∃ c rest, s = '0' :: c :: rest

instance (s : List Char) : Decidable (Padded s) :=
  match s with
  | [] => isFalse (by rintro ⟨c, rest, h⟩; cases h)
  | [c] => isFalse (by rintro ⟨d, rest, h⟩; cases h)
  | c :: d :: rest =>
      decidable_of_iff (c = '0')
        ⟨fun h => ⟨d, rest, by rw [h]⟩, by rintro ⟨e, rest, h⟩; cases h; rfl⟩

theorem significant_of_not_padded (hs : s ≠ []) (hpad : ¬ Padded s) :
    s = ['0'] ∧ significant s = [] ∨ significant s = s := by
  cases s with
  | nil => exact absurd rfl hs
  | cons c rest =>
      by_cases hc : c = '0'
      · subst hc
        cases rest with
        | nil => exact .inl ⟨rfl, rfl⟩
        | cons d rest => exact absurd ⟨d, rest, rfl⟩ hpad
      · right
        simp [significant, hc]

/-- Without padding there is one way to write a number. -/
theorem eq_of_significant_eq (hs : s ≠ []) (ht : t ≠ []) (hpads : ¬ Padded s) (hpadt : ¬ Padded t)
    (h : significant s = significant t) : s = t := by
  rcases significant_of_not_padded hs hpads with ⟨hzero, hnone⟩ | hall
  · rcases significant_of_not_padded ht hpadt with ⟨hzero', -⟩ | hall'
    · rw [hzero, hzero']
    · exact absurd (by rw [← hall', ← h, hnone]) ht
  · rcases significant_of_not_padded ht hpadt with ⟨-, hnone'⟩ | hall'
    · exact absurd (by rw [← hall, h, hnone']) hs
    · rw [← hall, h, hall']

/-! ## Signs -/

/-- The number that digits spell after others that spell `known`. -/
def valueFrom (known : Nat) (digits : List Char) : Nat :=
  digits.foldl (fun n c => 10 * n + digit c) known

theorem le_valueFrom (known : Nat) (s : List Char) : known ≤ valueFrom known s := by
  induction s generalizing known with
  | nil => exact le_rfl
  | cons c s ih =>
      have hnext : known ≤ 10 * known + digit c := by omega
      exact hnext.trans (ih _)

theorem readOn_eq_ok_iff {known : Nat} (h : known < bound) :
    readOn bound known s = .ok n ↔
      (∀ c ∈ s, IsDigit c) ∧ valueFrom known s < bound ∧ valueFrom known s = n := by
  induction s generalizing known with
  | nil => simp [readOn, valueFrom, h]
  | cons c s ih =>
      have hvalue : valueFrom known (c :: s) = valueFrom (10 * known + digit c) s := rfl
      rw [hvalue, List.forall_mem_cons]
      by_cases hc : IsDigit c
      · by_cases hnext : 10 * known + digit c < bound
        · have hread : readOn bound known (c :: s) = readOn bound (10 * known + digit c) s := by
            rw [readOn, if_neg (not_not.2 hc)]
            exact if_pos hnext
          rw [hread, ih hnext]
          simp [hc]
        -- Digits that follow only make the number greater.
        · have hread : readOn bound known (c :: s) = .error .overflow := by
            rw [readOn, if_neg (not_not.2 hc)]
            exact if_neg hnext
          have hle := le_valueFrom (10 * known + digit c) s
          have hbound : ¬ valueFrom (10 * known + digit c) s < bound := by omega
          simp [hread, hbound]
      · simp [readOn, hc]

theorem signedBelow_eq_ok_iff (hbound : 0 < bound) (hsign : '+' ∉ s) :
    signedBelow bound s = .ok n ↔ below? bound s = some n := by
  cases s with
  | nil => simp [signedBelow, below?]
  | cons c s =>
      have hc : c ≠ '+' := fun h => hsign (h ▸ List.mem_cons_self)
      have hread : signedBelow bound (c :: s) = readOn bound 0 (c :: s) := by
        simp [signedBelow, hc]
      rw [hread, readOn_eq_ok_iff hbound, below?_eq_some_iff]
      have hvalue : valueFrom 0 (c :: s) = value (c :: s) := rfl
      simp [hvalue]

end Decimal
end Reflash
