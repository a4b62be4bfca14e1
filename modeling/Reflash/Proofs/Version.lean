import Mathlib.Data.Prod.Lex
import Reflash.Proofs.Result
import Reflash.Version.Order
import Reflash.Version.Text

/-!
# Version — what the comparison and the texts of versions say

* `Version.rank` — major, minor and patch number in lexicographic order, whatever else a version
  has;
* `core_lt_core_iff` — comparing cores is comparing ranks;
* `complete_of_parse` — a version that was read from a text is complete;
* `Level.eq_build` — two complete versions that are level differ at most in their build texts.
-/

namespace Reflash
namespace Version

variable {a b v : Version} {s : String}

/-! ## Ranks -/

def rank (v : Version) : ℕ ×ₗ ℕ ×ₗ ℕ :=
  toLex (v.major, toLex (v.minor, v.patch))

theorem rank_eq_iff : a.rank = b.rank ↔ a.triple = b.triple := by
  simp [rank, triple]

theorem rank_lt_iff :
    a.rank < b.rank ↔
      a.major < b.major ∨
        a.major = b.major ∧ (a.minor < b.minor ∨ a.minor = b.minor ∧ a.patch < b.patch) := by
  simp [rank, Prod.Lex.toLex_lt_toLex]

theorem cmpCore_eq_lt_iff : cmpCore a b = .lt ↔ a.rank < b.rank := by
  simp [cmpCore, rank_lt_iff, Ordering.then_eq_lt, compare_lt_iff_lt]

/-- Cores have no pre-releases, so that completeness does not matter to them. -/
theorem core_lt_core_iff : a.core < b.core ↔ a.rank < b.rank := by
  rw [← cmpCore_eq_lt_iff]
  change cmp a.core b.core = .lt ↔ _
  have hcore : cmpCore a.core b.core = cmpCore a b := rfl
  rw [cmp, hcore]
  cases cmpCore a b with
  | lt => simp
  | gt => simp
  | eq => simp [core, cmpPre]

theorem Level.refl (v : Version) : v.Level v :=
  ⟨rfl, fun _ => rfl⟩

theorem Level.rank_eq (h : a.Level b) : a.rank = b.rank :=
  rank_eq_iff.2 h.1

/-! ## Texts -/

theorem complete_of_parse (h : parse s = .ok v) : v.complete = true := by
  dsimp only [parse] at h
  split at h
  · obtain ⟨major, -, h⟩ := Result.bind_eq_ok.1 h
    obtain ⟨minor, -, h⟩ := Result.bind_eq_ok.1 h
    obtain ⟨patch, -, h⟩ := Result.bind_eq_ok.1 h
    obtain rfl := Result.pure_eq_ok.1 h
    rfl
  · cases h

theorem complete_of_parseTagged (h : parseTagged s = .ok v) : v.complete = true := by
  rw [parseTagged] at h
  split at h
  · exact complete_of_parse h
  · cases h

theorem Level.pre_eq (h : a.Level b) (ha : a.complete = true) (hb : b.complete = true) :
    a.pre = b.pre :=
  h.2 ⟨ha, hb⟩

theorem Level.eq_build (h : a.Level b) (ha : a.complete = true) (hb : b.complete = true) :
    { b with build := a.build } = a := by
  have hpre := h.pre_eq ha hb
  obtain ⟨hnumbers, -⟩ := h
  simp only [triple, Prod.mk.injEq] at hnumbers
  obtain ⟨hmajor, hminor, hpatch⟩ := hnumbers
  cases a
  simp_all

end Version
end Reflash
