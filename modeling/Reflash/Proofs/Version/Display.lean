import Reflash.Proofs.Version.Equality
import Reflash.Proofs.Version.Grammar

/-!
# Version.Display — what becomes of a version that is shown and read again

Numbers are shown without zeros in front, and a mark is not shown without anything behind it.  A
version with an empty pre-release is therefore shown as its release, and reads as another version.

* `Spelling.canonical` — the way in which a version is shown;
* `shown` — the version that is seen;
* `survives_unless_pre_empty` — what is shown is always read again, as the version that is seen,
  which is level with the version itself, and ordered like it, exactly if the pre-release is not
  empty.
-/

namespace Reflash
namespace Version

variable {s : String} {v : Version}

/-! ## How a version is shown -/

namespace Numeral

theorem value_lt (n : Numeral) : n.value < 0x100000000 :=
  n.bounded

def ofNat (n : Nat) (h : n < 0x100000000) : Numeral where
  digits := n.repr.toList
  ne_nil := Decimal.repr_ne_nil n
  isDigit _ := Decimal.isDigit_of_mem_repr
  bounded := by rwa [Decimal.value_repr]

theorem value_ofNat (n : Nat) (h : n < 0x100000000) : (ofNat n h).value = n :=
  Decimal.value_repr n

end Numeral

/-- Nothing where a text is empty. -/
def nonEmpty (t : Option String) : Option String :=
  t.filter (· ≠ "")

/-- The version as it is seen. -/
def shown (v : Version) : Version :=
  { v with pre := nonEmpty v.pre, build := nonEmpty v.build }

/-- The spelling that shows what another one spells. -/
def Spelling.canonical (x : Spelling) : Spelling where
  major := .ofNat x.major.value x.major.value_lt
  minor := .ofNat x.minor.value x.minor.value_lt
  patch := .ofNat x.patch.value x.patch.value_lt
  pre := x.pre.filter (· ≠ [])
  build := x.build.filter (· ≠ [])
  plus_notMem t ht := x.plus_notMem t (Option.mem_filter_iff.1 ht).1

theorem nonEmpty_map_ofList (t : Option (List Char)) :
    nonEmpty (t.map String.ofList) = (t.filter (· ≠ [])).map String.ofList := by
  cases t with
  | none => rfl
  | some chars =>
      by_cases h : chars = []
      · simp [nonEmpty, Option.filter_some, h]
      · simp [nonEmpty, Option.filter_some, h]

theorem toList_suffix {mark : String} {c : Char} (hmark : mark.toList = [c])
    (t : Option (List Char)) :
    (suffix mark (t.map String.ofList)).toList = tail c (t.filter (· ≠ [])) := by
  cases t with
  | none => rfl
  | some chars =>
      by_cases h : chars = []
      · simp [suffix, tail, Option.filter_some, h]
      · simp [suffix, tail, Option.filter_some, h, hmark]

theorem toList_text (v : Version) :
    v.text.toList =
      'v' :: (v.major.repr.toList ++ '.' :: v.minor.repr.toList ++ '.' :: v.patch.repr.toList ++
        (suffix "-" v.pre).toList ++ (suffix "+" v.build).toList) := by
  have hself : ∀ t : String, toString t = t := fun _ => rfl
  simp [text, hself]

namespace Spelling

theorem version_canonical (x : Spelling) : x.canonical.version = x.version.shown := by
  simp only [version, canonical, shown, nonEmpty_map_ofList, Numeral.value_ofNat]

theorem text_version (x : Spelling) : x.version.text = "v" ++ x.canonical.text := by
  apply String.toList_injective
  calc x.version.text.toList
      = 'v' :: (x.canonical.numbers ++ tail '-' x.canonical.pre ++ tail '+' x.canonical.build) := by
        rw [toList_text, version, toList_suffix (c := '-') rfl, toList_suffix (c := '+') rfl]
        rfl
    _ = ("v" ++ x.canonical.text).toList := by simp [text, release]

end Spelling

/-! ## What is read again -/

theorem parse_shown (h : parse s = .ok v) : ∃ t, v.text = "v" ++ t ∧ parse t = .ok v.shown := by
  obtain ⟨x, -, rfl⟩ := exists_spelling_of_parse h
  refine ⟨x.canonical.text, x.text_version, ?_⟩
  rw [x.canonical.parse_text, x.version_canonical]

theorem nonEmpty_eq_self_iff {t : Option String} : nonEmpty t = t ↔ t ≠ some "" := by
  cases t with
  | none => simp [nonEmpty]
  | some text => simp [nonEmpty, Option.filter_some]

/-- A version that was read from a text has the pre-release that the text spells. -/
theorem pre_eq_empty_iff (h : parse s = .ok v) :
    v.pre = some "" ↔ ∃ x : Spelling, x.text = s ∧ x.pre = some [] := by
  obtain ⟨x, rfl, rfl⟩ := exists_spelling_of_parse h
  constructor
  · intro hpre
    obtain ⟨chars, hchars, hempty⟩ := Option.map_eq_some_iff.1 hpre
    have hnil : chars = [] := by simpa using hempty
    exact ⟨x, rfl, by rw [hchars, hnil]⟩
  · rintro ⟨y, hy, hpre⟩
    have hyx : y = x := Spelling.text_injective hy
    rw [Spelling.version, ← hyx, hpre]
    rfl

theorem shown_level_iff (hcomplete : v.complete = true) : v.shown.Level v ↔ v.pre ≠ some "" := by
  rw [← nonEmpty_eq_self_iff]
  constructor
  · intro hlevel
    exact hlevel.2 ⟨hcomplete, hcomplete⟩
  · intro hpre
    exact ⟨rfl, fun _ => hpre⟩

/-- The release that is seen in place of an empty pre-release comes later. -/
theorem lt_shown_of_pre_empty (hcomplete : v.complete = true) (hpre : v.pre = some "") :
    v < v.shown := by
  have hshown : v.shown.pre = none := by
    change nonEmpty v.pre = none
    rw [hpre]
    rfl
  have hprecedes : cmpPre v.pre v.shown.pre = .lt := by
    rw [hpre, hshown]
    rfl
  exact lt_iff.2 (.inr ⟨rfl, ⟨hcomplete, hcomplete⟩, hprecedes⟩)

theorem cmp_shown_of_pre_nonempty (hpre : v.pre ≠ some "") (x : Version) :
    v.shown.cmp x = v.cmp x := by
  have hsame : v.shown = { v with build := nonEmpty v.build } := by
    rw [shown, nonEmpty_eq_self_iff.2 hpre]
  rw [hsame]
  rfl

theorem cmp_shown_iff (hcomplete : v.complete = true) :
    (∀ x : Version, v.shown.cmp x = v.cmp x ∧ x.cmp v.shown = x.cmp v) ↔ v.pre ≠ some "" := by
  constructor
  · intro hall hpre
    have hlt : v.cmp v.shown = .lt := lt_shown_of_pre_empty hcomplete hpre
    have hself : v.shown.cmp v.shown = .eq := cmp_self v.shown
    rw [(hall v.shown).1, hlt] at hself
    cases hself
  · intro hpre x
    have hfirst := cmp_shown_of_pre_nonempty hpre x
    exact ⟨hfirst, by rw [cmp_swap x v.shown, hfirst, ← cmp_swap x v]⟩

/-- A version that was read and is shown can be read again, with its `v` and without it, and gives
the version that is seen, with the same numbers and complete as well.  This one is level with the
version that was shown, and compares with all others in the same way, exactly if the pre-release is
not empty, as it is where a hyphen follows the core and nothing follows the hyphen but a build
text. -/
theorem survives_unless_pre_empty (s : String) (v : Version) (h : parse s = .ok v) :
    (∃ t, v.text = "v" ++ t ∧ parse t = .ok v.shown) ∧
      parseTagged v.text = .ok v.shown ∧
      v.shown.triple = v.triple ∧ v.shown.complete = v.complete ∧
      (v.shown.Level v ↔ v.pre ≠ some "") ∧
      ((∀ x : Version, v.shown.cmp x = v.cmp x ∧ x.cmp v.shown = x.cmp v) ↔ v.pre ≠ some "") ∧
      (v.pre = some "" ↔ ∃ x : Spelling, x.text = s ∧ x.pre = some []) := by
  have hcomplete := complete_of_parse h
  have hparse := parse_shown h
  refine ⟨hparse, parseTagged_eq_ok_iff.2 hparse, rfl, rfl, ?_⟩
  exact ⟨shown_level_iff hcomplete, cmp_shown_iff hcomplete, pre_eq_empty_iff h⟩

/-- `1.0.0-` is shown as `v1.0.0`, which is read as another version. -/
theorem survives_unless_pre_empty_trial :
    ∃ v w, parse "1.0.0-" = .ok v ∧ v.text = "v1.0.0" ∧ parseTagged v.text = .ok w ∧
      ¬ w.Level v := by
  let v : Version := { major := 1, minor := 0, patch := 0, pre := some "", complete := true }
  have hparse : parse "1.0.0-" = .ok v := by decide
  obtain ⟨-, htagged, -, -, hlevel, -⟩ := survives_unless_pre_empty "1.0.0-" v hparse
  exact ⟨v, v.shown, hparse, by decide, htagged, fun h => hlevel.1 h rfl⟩

end Version
end Reflash
