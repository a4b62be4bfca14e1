import Reflash.Proofs.Version.Equality

/-!
# Version.Semantic — how far versions are ordered by the precedence of semantic versioning

In that precedence cores come first, and a pre-release precedes its release.  Two pre-releases are
compared at the first identifiers that differ: numbers by what they count, words by the codes of
their characters, and a number precedes a word; if none differ, the shorter one precedes.

Numbers may have any size there, but one that 64 bits do not hold is compared as if it were a word.

* `Identifier.Precedes`, `Precedes` — the precedence, without regard to how it is computed;
* `Identifier.Misplaced`, `Misread` — where a large number makes a version come behind one that it
  precedes;
* `precedes_unless_misread` — versions are ordered by the precedence, those apart.
-/

namespace Reflash

open Std (LawfulEqCmp ReflCmp)

/-! ## Identifiers -/

namespace Identifier

variable {x y : List Char} {xs ys : List (List Char)}

/-- Letters, digits and the hyphen. -/
def IsPlain (c : Char) : Prop :=
  Decimal.IsDigit c ∨ 'A' ≤ c ∧ c ≤ 'Z' ∨ 'a' ≤ c ∧ c ≤ 'z' ∨ c = '-'

def IsNumeral (x : List Char) : Prop :=
  x ≠ [] ∧ ∀ c ∈ x, Decimal.IsDigit c

instance (c : Char) : Decidable (IsPlain c) :=
  inferInstanceAs (Decidable (_ ∨ _))

-- The characters of the text are gone through, and not all characters there are.
instance (x : List Char) : Decidable (IsNumeral x) :=
  have : Decidable (∀ c ∈ x, Decimal.IsDigit c) := List.decidableBAll _ x
  inferInstanceAs (Decidable (_ ∧ _))

structure WellFormed (x : List Char) : Prop where
  ne_nil : x ≠ []
  plain : ∀ c ∈ x, IsPlain c
  unpadded : IsNumeral x → ¬ Decimal.Padded x

instance (x : List Char) : Decidable (WellFormed x) :=
  have : Decidable (∀ c ∈ x, IsPlain c) := List.decidableBAll _ x
  decidable_of_iff (x ≠ [] ∧ (∀ c ∈ x, IsPlain c) ∧ (IsNumeral x → ¬ Decimal.Padded x))
    ⟨fun h => ⟨h.1, h.2.1, h.2.2⟩, fun h => ⟨h.ne_nil, h.plain, h.unpadded⟩⟩

/-- In the order of character codes, as words in a dictionary. -/
def Before (x y : List Char) : Prop :=
  List.Lex (fun c d => c.toNat < d.toNat) x y

inductive Precedes : List Char → List Char → Prop where
  | numbers {x y : List Char} (hx : IsNumeral x) (hy : IsNumeral y)
      (h : Decimal.value x < Decimal.value y) : Precedes x y
  | number_word {x y : List Char} (hx : IsNumeral x) (hy : ¬ IsNumeral y) : Precedes x y
  | words {x y : List Char} (hx : ¬ IsNumeral x) (hy : ¬ IsNumeral y) (h : Before x y) :
      Precedes x y

/-- A large number that precedes another identifier, but not as a word. -/
structure Misplaced (x y : List Char) : Prop where
  numeral : IsNumeral x
  large : 0x10000000000000000 ≤ Decimal.value x
  precedes : Precedes x y
  behind : Before y x

/-! ### Numbers and words -/

theorem isNumber_iff :
    PreIdentifier.IsNumber x ↔ IsNumeral x ∧ Decimal.value x < 0x10000000000000000 :=
  and_assoc.symm

theorem cmp_word_eq_lt_iff : (PreIdentifier.word x).cmp (.word y) = .lt ↔ Before x y := by
  rw [PreIdentifier.cmp, Before]
  induction x generalizing y with
  | nil =>
      cases y with
      | nil => simp
      | cons d y => exact ⟨fun _ => .nil, fun _ => rfl⟩
  | cons c x ih =>
      cases y with
      | nil => simp
      | cons d y =>
          rw [List.map_cons, List.map_cons, List.compare_cons_cons, Ordering.then_eq_lt, ih,
            List.cons_lex_cons_iff, compare_lt_iff_lt, compare_eq_iff_eq, Char.toNat_inj]

theorem before_or_before (hne : x ≠ y) : Before x y ∨ Before y x := by
  rw [← cmp_word_eq_lt_iff, ← cmp_word_eq_lt_iff]
  cases h : (PreIdentifier.word x).cmp (.word y) with
  | lt => exact .inl rfl
  | eq =>
      have hsame : PreIdentifier.word x = .word y := LawfulEqCmp.eq_of_compare h
      exact absurd (PreIdentifier.word.inj hsame) hne
  | gt =>
      right
      rw [PreIdentifier.cmp_swap, h]
      rfl

theorem not_before (h : Before x y) : ¬ Before y x := by
  rw [← cmp_word_eq_lt_iff] at h ⊢
  rw [PreIdentifier.cmp_swap, h]
  simp

theorem Misplaced.irrefl (x : List Char) : ¬ Misplaced x x :=
  fun h => not_before h.behind h.behind

theorem Precedes.irrefl (x : List Char) : ¬ Precedes x x := by
  intro h
  cases h with
  | numbers _ _ h => exact Nat.lt_irrefl _ h
  | number_word hx hnot => exact hnot hx
  | words _ _ h => exact not_before h h

theorem value_ne (hx : WellFormed x) (hy : WellFormed y) (hnx : IsNumeral x) (hny : IsNumeral y)
    (hne : x ≠ y) : Decimal.value x ≠ Decimal.value y := by
  intro hvalue
  have hsignificant := (Decimal.value_eq_value_iff hnx.2 hny.2).1 hvalue
  exact hne (Decimal.eq_of_significant_eq hx.ne_nil hy.ne_nil (hx.unpadded hnx) (hy.unpadded hny)
    hsignificant)

/-- One of two identifiers precedes the other. -/
theorem precedes_or_precedes (hx : WellFormed x) (hy : WellFormed y) (hne : x ≠ y) :
    Precedes x y ∨ Precedes y x := by
  by_cases hnx : IsNumeral x
  · by_cases hny : IsNumeral y
    · rcases Nat.lt_or_gt_of_ne (value_ne hx hy hnx hny hne) with hlt | hgt
      · exact .inl (.numbers hnx hny hlt)
      · exact .inr (.numbers hny hnx hgt)
    · exact .inl (.number_word hnx hny)
  · by_cases hny : IsNumeral y
    · exact .inr (.number_word hny hnx)
    · rcases before_or_before hne with hxy | hyx
      · exact .inl (.words hnx hny hxy)
      · exact .inr (.words hny hnx hyx)

theorem Precedes.not_numeral (h : Precedes x y) (hx : ¬ IsNumeral x) : ¬ IsNumeral y := by
  cases h with
  | numbers hnx _ _ => exact absurd hnx hx
  | number_word hnx _ => exact absurd hnx hx
  | words _ hy _ => exact hy

theorem Precedes.before (h : Precedes x y) (hx : ¬ IsNumeral x) : Before x y := by
  cases h with
  | numbers hnx _ _ => exact absurd hnx hx
  | number_word hnx _ => exact absurd hnx hx
  | words _ _ h => exact h

theorem Precedes.numeral_of_numeral (h : Precedes x y) (hy : IsNumeral y) : IsNumeral x := by
  by_contra hx
  exact h.not_numeral hx hy

theorem Precedes.value_lt (h : Precedes x y) (hy : IsNumeral y) :
    Decimal.value x < Decimal.value y := by
  cases h with
  | numbers _ _ h => exact h
  | number_word _ hny => exact absurd hy hny
  | words _ hny _ => exact absurd hy hny

/-! ### Numbers that 64 bits hold -/

theorem large_of_not_isNumber (hx : IsNumeral x) (h : ¬ PreIdentifier.IsNumber x) :
    0x10000000000000000 ≤ Decimal.value x := by
  by_contra hsmall
  exact h (isNumber_iff.2 ⟨hx, Nat.lt_of_not_ge hsmall⟩)

theorem not_misplaced_of_isNumber (h : PreIdentifier.IsNumber x) : ¬ Misplaced x y := by
  intro hplaced
  exact Nat.not_lt_of_ge hplaced.large (isNumber_iff.1 h).2

/-- Larger numbers come later, and so do words. -/
theorem precedes_of_isNumber (hx : PreIdentifier.IsNumber x) (hy : ¬ PreIdentifier.IsNumber y) :
    Precedes x y := by
  obtain ⟨hnx, hsmall⟩ := isNumber_iff.1 hx
  by_cases hny : IsNumeral y
  · exact .numbers hnx hny (lt_of_lt_of_le hsmall (large_of_not_isNumber hny hy))
  · exact .number_word hnx hny

theorem not_precedes_isNumber (hx : ¬ PreIdentifier.IsNumber x) (hy : PreIdentifier.IsNumber y) :
    ¬ Precedes x y := by
  intro h
  obtain ⟨hny, hsmall⟩ := isNumber_iff.1 hy
  exact hx (isNumber_iff.2 ⟨h.numeral_of_numeral hny, (h.value_lt hny).trans hsmall⟩)

/-! ### How two identifiers compare -/

/-- What 64 bits do not hold as a number is compared as a word. -/
theorem before_iff_of_not_isNumber (hx : WellFormed x) (hy : WellFormed y) (hne : x ≠ y)
    (hwx : ¬ PreIdentifier.IsNumber x) (hwy : ¬ PreIdentifier.IsNumber y) :
    Before x y ↔ Precedes x y ∧ ¬ Misplaced x y ∨ Misplaced y x := by
  constructor
  · intro hxy
    rcases precedes_or_precedes hx hy hne with hprecedes | hprecedes
    · exact .inl ⟨hprecedes, fun h => not_before hxy h.behind⟩
    -- A word stands before all that it precedes, so that here a number is in the wrong place.
    · right
      have hny : IsNumeral y := by
        by_contra hny
        exact not_before hxy (hprecedes.before hny)
      exact ⟨hny, large_of_not_isNumber hny hwy, hprecedes, hxy⟩
  · rintro (⟨hprecedes, hplaced⟩ | h)
    · rcases before_or_before hne with hxy | hyx
      · exact hxy
      · have hnx : IsNumeral x := by
          by_contra hnx
          exact not_before hyx (hprecedes.before hnx)
        exact absurd ⟨hnx, large_of_not_isNumber hnx hwx, hprecedes, hyx⟩ hplaced
    · exact h.behind

theorem cmp_ofChars_eq_lt_iff (hx : WellFormed x) (hy : WellFormed y) (hne : x ≠ y) :
    (PreIdentifier.ofChars x).cmp (PreIdentifier.ofChars y) = .lt ↔
      Precedes x y ∧ ¬ Misplaced x y ∨ Misplaced y x := by
  by_cases hnx : PreIdentifier.IsNumber x
  · rw [PreIdentifier.ofChars_of_isNumber hnx]
    have hplaced : ¬ Misplaced x y := not_misplaced_of_isNumber hnx
    by_cases hny : PreIdentifier.IsNumber y
    · rw [PreIdentifier.ofChars_of_isNumber hny, PreIdentifier.cmp, compare_lt_iff_lt]
      have hplaced' : ¬ Misplaced y x := not_misplaced_of_isNumber hny
      have hnumbers : Decimal.value x < Decimal.value y ↔ Precedes x y :=
        ⟨.numbers (isNumber_iff.1 hnx).1 (isNumber_iff.1 hny).1,
          fun h => h.value_lt (isNumber_iff.1 hny).1⟩
      simp [hnumbers, hplaced, hplaced']
    · rw [PreIdentifier.ofChars_of_not_isNumber hny]
      exact ⟨fun _ => .inl ⟨precedes_of_isNumber hnx hny, hplaced⟩, fun _ => rfl⟩
  · rw [PreIdentifier.ofChars_of_not_isNumber hnx]
    by_cases hny : PreIdentifier.IsNumber y
    · rw [PreIdentifier.ofChars_of_isNumber hny]
      have hplaced' : ¬ Misplaced y x := not_misplaced_of_isNumber hny
      have hnot : ¬ Precedes x y := not_precedes_isNumber hnx hny
      simp [PreIdentifier.cmp, hnot, hplaced']
    · rw [PreIdentifier.ofChars_of_not_isNumber hny, cmp_word_eq_lt_iff]
      exact before_iff_of_not_isNumber hx hy hne hnx hny

theorem cmp_ofChars_eq_eq_iff (hx : WellFormed x) (hy : WellFormed y) :
    (PreIdentifier.ofChars x).cmp (PreIdentifier.ofChars y) = .eq ↔ x = y := by
  rw [LawfulEqCmp.compare_eq_iff_eq, PreIdentifier.ofChars_eq_ofChars_iff]
  constructor
  · intro hsame
    refine hsame.eq_of_not_padded (fun hnx => hx.unpadded (isNumber_iff.1 hnx).1) fun hny => ?_
    exact hy.unpadded (isNumber_iff.1 hny).1
  · exact .inl

/-! ### How lists of identifiers compare -/

/-- The first identifiers that differ are in the wrong order. -/
inductive FirstMisplaced : List (List Char) → List (List Char) → Prop where
  | here {x y : List Char} {xs ys : List (List Char)} (h : Misplaced x y) :
      FirstMisplaced (x :: xs) (y :: ys)
  | later {x : List Char} {xs ys : List (List Char)} (h : FirstMisplaced xs ys) :
      FirstMisplaced (x :: xs) (x :: ys)

theorem FirstMisplaced.lex (h : FirstMisplaced xs ys) : List.Lex Precedes xs ys := by
  induction h with
  | here h => exact .rel h.precedes
  | later _ ih => exact .cons ih

theorem FirstMisplaced.exists_large (h : FirstMisplaced xs ys) :
    ∃ x ∈ xs, IsNumeral x ∧ 0x10000000000000000 ≤ Decimal.value x := by
  induction h with
  | here h => exact ⟨_, List.mem_cons_self, h.numeral, h.large⟩
  | later _ ih =>
      obtain ⟨x, hx, hlarge⟩ := ih
      exact ⟨x, List.mem_cons_of_mem _ hx, hlarge⟩

theorem firstMisplaced_cons_self : FirstMisplaced (x :: xs) (x :: ys) ↔ FirstMisplaced xs ys := by
  constructor
  · intro h
    cases h with
    | here h => exact absurd h (Misplaced.irrefl x)
    | later h => exact h
  · exact .later

theorem firstMisplaced_cons_of_ne (hne : x ≠ y) :
    FirstMisplaced (x :: xs) (y :: ys) ↔ Misplaced x y := by
  constructor
  · intro h
    cases h with
    | here h => exact h
    | later _ => exact absurd rfl hne
  · exact .here

theorem lex_cons_self : List.Lex Precedes (x :: xs) (x :: ys) ↔ List.Lex Precedes xs ys := by
  simp [List.cons_lex_cons_iff, Precedes.irrefl]

theorem lex_cons_of_ne (hne : x ≠ y) :
    List.Lex Precedes (x :: xs) (y :: ys) ↔ Precedes x y := by
  simp [List.cons_lex_cons_iff, hne]

theorem cmpList_eq_lt_iff (hxs : ∀ x ∈ xs, WellFormed x) (hys : ∀ y ∈ ys, WellFormed y) :
    PreIdentifier.cmpList (xs.map PreIdentifier.ofChars) (ys.map PreIdentifier.ofChars) = .lt ↔
      List.Lex Precedes xs ys ∧ ¬ FirstMisplaced xs ys ∨ FirstMisplaced ys xs := by
  induction xs generalizing ys with
  | nil =>
      cases ys with
      | nil =>
          have hnot : ¬ FirstMisplaced [] [] := fun h => by cases h
          simp [PreIdentifier.cmpList, hnot, List.not_lex_nil]
      | cons y ys =>
          have hnot : ¬ FirstMisplaced [] (y :: ys) := fun h => by cases h
          exact ⟨fun _ => .inl ⟨.nil, hnot⟩, fun _ => rfl⟩
  | cons x xs ih =>
      cases ys with
      | nil =>
          have hnot : ¬ FirstMisplaced [] (x :: xs) := fun h => by cases h
          simp [PreIdentifier.cmpList, hnot, List.not_lex_nil]
      | cons y ys =>
          rw [List.forall_mem_cons] at hxs hys
          rw [List.map_cons, List.map_cons, PreIdentifier.cmpList, Ordering.then_eq_lt,
            cmp_ofChars_eq_eq_iff hxs.1 hys.1, ih hxs.2 hys.2]
          by_cases hne : x = y
          · subst hne
            have hself : (PreIdentifier.ofChars x).cmp (PreIdentifier.ofChars x) = .eq :=
              ReflCmp.compare_self
            rw [lex_cons_self, firstMisplaced_cons_self, firstMisplaced_cons_self, hself]
            simp
          · rw [lex_cons_of_ne hne, firstMisplaced_cons_of_ne hne,
              firstMisplaced_cons_of_ne (Ne.symm hne), cmp_ofChars_eq_lt_iff hxs.1 hys.1 hne]
            simp [hne]

end Identifier

/-! ## Versions -/

namespace Version

open Identifier (FirstMisplaced WellFormed IsNumeral)

variable {a b : Version} {p q : Option String}

def identifiers (pre : String) : List (List Char) :=
  pre.toList.splitOn '.'

inductive PrePrecedes : Option String → Option String → Prop where
  | release (s : String) : PrePrecedes (some s) none
  | preReleases {s t : String} (h : List.Lex Identifier.Precedes (identifiers s) (identifiers t)) :
      PrePrecedes (some s) (some t)

/-- The precedence of semantic versioning. -/
def Precedes (a b : Version) : Prop :=
  a.rank < b.rank ∨ a.rank = b.rank ∧ PrePrecedes a.pre b.pre

inductive PreMisread : Option String → Option String → Prop where
  | preReleases {s t : String} (h : FirstMisplaced (identifiers s) (identifiers t)) :
      PreMisread (some s) (some t)

/-- A version that comes behind another one because of a large number, although it precedes it. -/
structure Misread (a b : Version) : Prop where
  rank_eq : a.rank = b.rank
  pre : PreMisread a.pre b.pre

def WellFormedPre (p : Option String) : Prop :=
  ∀ s ∈ p, ∀ x ∈ identifiers s, WellFormed x

/-- A complete version whose pre-release, if it has one, is as semantic versioning has it. -/
structure IsSemantic (v : Version) : Prop where
  complete : v.complete = true
  wellFormed : WellFormedPre v.pre

/-- All numbers in the pre-release are numbers of 64 bits. -/
def HasSmallNumbers (v : Version) : Prop :=
  ∀ s ∈ v.pre, ∀ x ∈ identifiers s, IsNumeral x → Decimal.value x < 0x10000000000000000

theorem prePrecedes_some {s t : String} : PrePrecedes (some s) (some t) ↔
    List.Lex Identifier.Precedes (identifiers s) (identifiers t) :=
  ⟨fun h => by cases h with | preReleases h => exact h, .preReleases⟩

theorem preMisread_some {s t : String} :
    PreMisread (some s) (some t) ↔ FirstMisplaced (identifiers s) (identifiers t) :=
  ⟨fun h => by cases h with | preReleases h => exact h, .preReleases⟩

theorem not_none_prePrecedes : ¬ PrePrecedes none q :=
  fun h => by cases h

theorem not_none_preMisread : ¬ PreMisread none q :=
  fun h => by cases h

theorem not_preMisread_none : ¬ PreMisread p none :=
  fun h => by cases h

theorem cmpPre_eq_lt_iff (hp : WellFormedPre p) (hq : WellFormedPre q) :
    cmpPre p q = .lt ↔ PrePrecedes p q ∧ ¬ PreMisread p q ∨ PreMisread q p := by
  cases p with
  | none => cases q <;> simp [cmpPre, not_none_prePrecedes, not_preMisread_none]
  | some s =>
      cases q with
      | none => simp [cmpPre, not_none_preMisread, not_preMisread_none, PrePrecedes.release s]
      | some t =>
          rw [prePrecedes_some, preMisread_some, preMisread_some]
          exact Identifier.cmpList_eq_lt_iff (hp s rfl) (hq t rfl)

theorem PreMisread.precedes (h : PreMisread p q) : PrePrecedes p q := by
  cases h with
  | preReleases h => exact .preReleases h.lex

theorem PreMisread.exists_large (h : PreMisread p q) :
    ∃ s ∈ p, ∃ x ∈ identifiers s, IsNumeral x ∧ 0x10000000000000000 ≤ Decimal.value x := by
  cases h with
  | preReleases h => exact ⟨_, rfl, h.exists_large⟩

theorem Misread.precedes (h : Misread a b) : a.Precedes b :=
  .inr ⟨h.rank_eq, h.pre.precedes⟩

theorem HasSmallNumbers.not_misread (h : a.HasSmallNumbers) : ¬ Misread a b := by
  intro hmisread
  obtain ⟨s, hs, x, hx, hnumeral, hlarge⟩ := hmisread.pre.exists_large
  exact Nat.not_lt_of_ge hlarge (h s hs x hx hnumeral)

theorem lt_iff_precedes (ha : a.IsSemantic) (hb : b.IsSemantic) :
    a < b ↔ a.Precedes b ∧ ¬ Misread a b ∨ Misread b a := by
  rw [lt_iff, cmpPre_eq_lt_iff ha.wellFormed hb.wellFormed]
  rcases lt_trichotomy a.rank b.rank with hlt | heq | hgt
  · have hmisread : ¬ Misread a b := fun h => hlt.ne h.rank_eq
    simp [Precedes, hlt, hmisread]
  · have hmisread : Misread a b ↔ PreMisread a.pre b.pre := ⟨fun h => h.pre, fun h => ⟨heq, h⟩⟩
    have hmisread' : Misread b a ↔ PreMisread b.pre a.pre :=
      ⟨fun h => h.pre, fun h => ⟨heq.symm, h⟩⟩
    simp [Precedes, heq, hmisread, hmisread', ha.complete, hb.complete]
  · have hmisread : ¬ Misread b a := fun h => hgt.ne h.rank_eq
    simp [Precedes, hgt.not_gt, hgt.ne', hmisread]

/-- Misreading turns the order of two versions round, and never makes them equal. -/
theorem cmp_eq_iff_not_precedes (ha : a.IsSemantic) (hb : b.IsSemantic) :
    a.cmp b = .eq ↔ ¬ a.Precedes b ∧ ¬ b.Precedes a := by
  rw [cmp_eq_eq_iff_not_lt, lt_iff_precedes ha hb, lt_iff_precedes hb ha]
  constructor
  · rintro ⟨hab, hba⟩
    have hmisread : ¬ Misread a b := fun h => hba (.inr h)
    have hmisread' : ¬ Misread b a := fun h => hab (.inr h)
    exact ⟨fun h => hab (.inl ⟨h, hmisread⟩), fun h => hba (.inl ⟨h, hmisread'⟩)⟩
  · rintro ⟨hab, hba⟩
    constructor
    · rintro (⟨h, -⟩ | h)
      · exact hab h
      · exact hba h.precedes
    · rintro (⟨h, -⟩ | h)
      · exact hba h
      · exact hab h.precedes

/-- Complete versions whose pre-releases are those of semantic versioning are ordered by its
precedence, except where the first identifiers that differ are a number which 64 bits do not hold
and an identifier that it precedes, but not as a word: these are the other way round.  Versions with
smaller numbers are always ordered by the precedence, and as equal compare only those of which
neither precedes the other. -/
theorem precedes_unless_misread (a b : Version) (ha : a.IsSemantic) (hb : b.IsSemantic) :
    (a < b ↔ a.Precedes b ∧ ¬ Misread a b ∨ Misread b a) ∧
      (a.cmp b = .eq ↔ ¬ a.Precedes b ∧ ¬ b.Precedes a) ∧
      (Misread a b → a.Precedes b ∧ b < a) ∧
      (a.HasSmallNumbers → b.HasSmallNumbers → (a < b ↔ a.Precedes b)) := by
  refine ⟨lt_iff_precedes ha hb, cmp_eq_iff_not_precedes ha hb, ?_, ?_⟩
  · intro h
    exact ⟨h.precedes, (lt_iff_precedes hb ha).2 (.inr h)⟩
  · intro hsmall hsmall'
    rw [lt_iff_precedes ha hb]
    simp [hsmall.not_misread, hsmall'.not_misread]

/-- `99999999999999999999` precedes `100000000000000000000`, and comes behind it. -/
theorem precedes_unless_misread_trial :
    ∃ a b, parse "1.0.0-99999999999999999999" = .ok a ∧
      parse "1.0.0-100000000000000000000" = .ok b ∧
      a.IsSemantic ∧ b.IsSemantic ∧ Misread a b ∧ a.Precedes b ∧ b < a := by
  let release : Version := { major := 1, minor := 0, patch := 0, complete := true }
  let a : Version := { release with pre := some "99999999999999999999" }
  let b : Version := { release with pre := some "100000000000000000000" }
  have hwellFormed : ∀ x ∈ identifiers "99999999999999999999", Identifier.WellFormed x := by decide
  have hwellFormed' : ∀ x ∈ identifiers "100000000000000000000", Identifier.WellFormed x := by
    decide
  have ha : a.IsSemantic := ⟨rfl, fun s hs => by cases hs; exact hwellFormed⟩
  have hb : b.IsSemantic := ⟨rfl, fun s hs => by cases hs; exact hwellFormed'⟩
  have hmisplaced :
      Identifier.Misplaced "99999999999999999999".toList "100000000000000000000".toList :=
    ⟨by decide, by decide, .numbers (by decide) (by decide) (by decide), .rel (by decide)⟩
  have hmisread : Misread a b := ⟨rfl, .preReleases (.here hmisplaced)⟩
  obtain ⟨hprecedes, hbehind⟩ := (precedes_unless_misread a b ha hb).2.2.1 hmisread
  exact ⟨a, b, by decide, by decide, ha, hb, hmisread, hprecedes, hbehind⟩

end Version
end Reflash
