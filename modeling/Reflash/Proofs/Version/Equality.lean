import Mathlib.Data.List.Forall2
import Reflash.Proofs.Text.Decimal
import Reflash.Proofs.Version.Precedence

/-!
# Version.Equality — versions that are level, and versions that compare as equal

Pre-releases are level if they are the same text, but they are compared by what their identifiers
stand for.  The two come apart where a number is written with zeros in front.

* `PreIdentifier.ofChars_eq_ofChars_iff` — when two identifiers stand for the same;
* `Respelled` — two pre-releases that write the same identifiers differently;
* `cmp_eq_unless_respelled` — versions compare as equal exactly if they are level, those apart.
-/

namespace Reflash

/-! ## Identifiers -/

namespace PreIdentifier

variable {s t : List Char}

/-- An identifier that is compared as a number. -/
def IsNumber (s : List Char) : Prop :=
  s ≠ [] ∧ (∀ c ∈ s, Decimal.IsDigit c) ∧ Decimal.value s < 0x10000000000000000

/-- The same text, or a number with another run of zeros in front. -/
def SameIdentifier (s t : List Char) : Prop :=
  s = t ∨ IsNumber s ∧ IsNumber t ∧ Decimal.significant s = Decimal.significant t

theorem ofChars_of_isNumber (h : IsNumber s) : ofChars s = .number (Decimal.value s) := by
  have hread : Decimal.below? 0x10000000000000000 s = some (Decimal.value s) :=
    Decimal.below?_eq_some_iff.2 ⟨h.1, h.2.1, h.2.2, rfl⟩
  rw [ofChars, hread]

theorem ofChars_of_not_isNumber (h : ¬ IsNumber s) : ofChars s = .word s := by
  have hread : Decimal.below? 0x10000000000000000 s = none := by
    rw [Option.eq_none_iff_forall_ne_some]
    intro n hn
    obtain ⟨hne, hdigits, hbound, -⟩ := Decimal.below?_eq_some_iff.1 hn
    exact h ⟨hne, hdigits, hbound⟩
  rw [ofChars, hread]

theorem ofChars_eq_ofChars_iff : ofChars s = ofChars t ↔ SameIdentifier s t := by
  constructor
  · intro h
    by_cases hs : IsNumber s
    · by_cases ht : IsNumber t
      · rw [ofChars_of_isNumber hs, ofChars_of_isNumber ht] at h
        have hvalue : Decimal.value s = Decimal.value t := by simpa using h
        exact .inr ⟨hs, ht, (Decimal.value_eq_value_iff hs.2.1 ht.2.1).1 hvalue⟩
      · rw [ofChars_of_isNumber hs, ofChars_of_not_isNumber ht] at h
        cases h
    · by_cases ht : IsNumber t
      · rw [ofChars_of_not_isNumber hs, ofChars_of_isNumber ht] at h
        cases h
      · rw [ofChars_of_not_isNumber hs, ofChars_of_not_isNumber ht] at h
        exact .inl (by simpa using h)
  · rintro (rfl | ⟨hs, ht, h⟩)
    · rfl
    · rw [ofChars_of_isNumber hs, ofChars_of_isNumber ht,
        (Decimal.value_eq_value_iff hs.2.1 ht.2.1).2 h]

theorem ofText_eq_ofText_iff {s t : String} :
    ofText s = ofText t ↔
      List.Forall₂ SameIdentifier (s.toList.splitOn '.') (t.toList.splitOn '.') := by
  rw [ofText, ofText, ← List.forall₂_eq_eq_eq, List.forall₂_map_left_iff,
    List.forall₂_map_right_iff]
  simp only [ofChars_eq_ofChars_iff]

theorem SameIdentifier.eq_of_not_padded (h : SameIdentifier s t)
    (hs : IsNumber s → ¬ Decimal.Padded s) (ht : IsNumber t → ¬ Decimal.Padded t) : s = t := by
  rcases h with h | ⟨hnum, hnum', h⟩
  · exact h
  · exact Decimal.eq_of_significant_eq hnum.1 hnum'.1 (hs hnum) (ht hnum') h

theorem eq_of_not_padded {xs ys : List (List Char)} (h : List.Forall₂ SameIdentifier xs ys)
    (hx : ∀ x ∈ xs, IsNumber x → ¬ Decimal.Padded x)
    (hy : ∀ y ∈ ys, IsNumber y → ¬ Decimal.Padded y) : xs = ys := by
  induction h with
  | nil => rfl
  | cons hsame _ ih =>
      have hhead := hsame.eq_of_not_padded (hx _ List.mem_cons_self) (hy _ List.mem_cons_self)
      have htail := ih (fun x hmem => hx x (List.mem_cons_of_mem _ hmem))
        (fun y hmem => hy y (List.mem_cons_of_mem _ hmem))
      rw [hhead, htail]

end PreIdentifier

/-! ## Versions -/

namespace Version

open PreIdentifier

variable {a b : Version}

/-- Two different texts of the same pre-release, both known. -/
structure Respelled (a b : Version) : Prop where
  triple : a.triple = b.triple
  complete : a.complete = true ∧ b.complete = true
  spelled : ∃ s t, a.pre = some s ∧ b.pre = some t ∧ s ≠ t ∧
    List.Forall₂ SameIdentifier (s.toList.splitOn '.') (t.toList.splitOn '.')

/-- No number in the pre-release has zeros in front. -/
def PlainPre (v : Version) : Prop :=
  ∀ s, v.pre = some s → ∀ x ∈ s.toList.splitOn '.', IsNumber x → ¬ Decimal.Padded x

theorem cmp_eq_eq_iff :
    a.cmp b = .eq ↔ a.triple = b.triple ∧
      (a.complete = true ∧ b.complete = true → a.pre.map ofText = b.pre.map ofText) := by
  rw [cmp_eq_then, Ordering.then_eq_eq, cmpCore_eq_eq_iff, rank_eq_iff]
  refine and_congr Iff.rfl ?_
  by_cases h : a.complete = true ∧ b.complete = true
  · simp [h.1, h.2, cmpPre_eq_eq_iff]
  · have hand : (a.complete && b.complete) = false := by simpa using h
    simp [hand, h]

theorem cmp_eq_of_level (h : a.Level b) : a.cmp b = .eq := by
  refine cmp_eq_eq_iff.2 ⟨h.1, fun hcomplete => ?_⟩
  rw [h.2 hcomplete]

theorem Respelled.cmp_eq (h : Respelled a b) : a.cmp b = .eq := by
  obtain ⟨s, t, hs, ht, -, hsame⟩ := h.spelled
  refine cmp_eq_eq_iff.2 ⟨h.triple, fun _ => ?_⟩
  rw [hs, ht, Option.map_some, Option.map_some, ofText_eq_ofText_iff.2 hsame]

theorem Respelled.not_level (h : Respelled a b) : ¬ a.Level b := by
  intro hlevel
  obtain ⟨s, t, hs, ht, hne, -⟩ := h.spelled
  have hpre : a.pre = b.pre := hlevel.2 h.complete
  rw [hs, ht] at hpre
  exact hne (Option.some.inj hpre)

theorem respelled_of_cmp_eq (h : a.cmp b = .eq) (hlevel : ¬ a.Level b) : Respelled a b := by
  obtain ⟨htriple, hpre⟩ := cmp_eq_eq_iff.1 h
  have hcomplete : a.complete = true ∧ b.complete = true := by
    by_contra hnot
    exact hlevel ⟨htriple, fun hcomplete => absurd hcomplete hnot⟩
  have hne : a.pre ≠ b.pre := fun hsame => hlevel ⟨htriple, fun _ => hsame⟩
  have hmap : a.pre.map ofText = b.pre.map ofText := hpre hcomplete
  -- A release has no identifiers, so that both have a pre-release.
  refine ⟨htriple, hcomplete, ?_⟩
  cases hs : a.pre with
  | none =>
      cases ht : b.pre with
      | none => exact absurd (hs.trans ht.symm) hne
      | some t => simp [hs, ht] at hmap
  | some s =>
      cases ht : b.pre with
      | none => simp [hs, ht] at hmap
      | some t =>
          rw [hs, ht, Option.map_some, Option.map_some, Option.some.injEq] at hmap
          have hst : s ≠ t := fun heq => hne (by rw [hs, ht, heq])
          exact ⟨s, t, rfl, rfl, hst, ofText_eq_ofText_iff.1 hmap⟩

/-- Respelling takes a zero in front of a number. -/
theorem not_respelled_of_plain (ha : a.PlainPre) (hb : b.PlainPre) : ¬ Respelled a b := by
  intro h
  obtain ⟨s, t, hs, ht, hne, hsame⟩ := h.spelled
  have hparts : s.toList.splitOn '.' = t.toList.splitOn '.' :=
    eq_of_not_padded hsame (ha s hs) (hb t ht)
  have hlist : s.toList = t.toList := by
    calc s.toList = ['.'].intercalate (s.toList.splitOn '.') := (List.intercalate_splitOn '.').symm
      _ = ['.'].intercalate (t.toList.splitOn '.') := by rw [hparts]
      _ = t.toList := List.intercalate_splitOn '.'
  exact hne (String.toList_injective hlist)

/-- Two versions compare as equal exactly if they are level, or else the same pre-release is spelled
in two ways; these versions are neither level, nor does one precede the other.  Where numbers have
no zeros in front, there are none. -/
theorem cmp_eq_unless_respelled (a b : Version) :
    (a.cmp b = .eq ↔ a.Level b ∨ Respelled a b) ∧
      (Respelled a b ↔ ¬ a < b ∧ ¬ a.Level b ∧ ¬ b < a) ∧
      (a.PlainPre → b.PlainPre → (a.Level b ↔ a.cmp b = .eq)) := by
  have heq : a.cmp b = .eq ↔ a.Level b ∨ Respelled a b := by
    constructor
    · intro h
      by_cases hlevel : a.Level b
      · exact .inl hlevel
      · exact .inr (respelled_of_cmp_eq h hlevel)
    · rintro (h | h)
      · exact cmp_eq_of_level h
      · exact h.cmp_eq
  refine ⟨heq, ?_, ?_⟩
  · constructor
    · intro h
      obtain ⟨hlt, hgt⟩ := cmp_eq_eq_iff_not_lt.1 h.cmp_eq
      exact ⟨hlt, h.not_level, hgt⟩
    · rintro ⟨hlt, hlevel, hgt⟩
      exact respelled_of_cmp_eq (cmp_eq_eq_iff_not_lt.2 ⟨hlt, hgt⟩) hlevel
  · intro ha hb
    rw [heq]
    exact ⟨.inl, fun h => h.resolve_right (not_respelled_of_plain ha hb)⟩

/-- `1.0.0-01` and `1.0.0-1` compare as equal and are not level. -/
theorem cmp_eq_unless_respelled_trial :
    ∃ a b, parse "1.0.0-01" = .ok a ∧ parse "1.0.0-1" = .ok b ∧
      a.cmp b = .eq ∧ ¬ a.Level b ∧ Respelled a b := by
  let release : Version := { major := 1, minor := 0, patch := 0, complete := true }
  let a : Version := { release with pre := some "01" }
  let b : Version := { release with pre := some "1" }
  have hcmp : a.cmp b = .eq := by decide
  have hlevel : ¬ a.Level b := by decide
  have hlaws := cmp_eq_unless_respelled a b
  exact ⟨a, b, by decide, by decide, hcmp, hlevel, (hlaws.1.1 hcmp).resolve_left hlevel⟩

end Version
end Reflash
