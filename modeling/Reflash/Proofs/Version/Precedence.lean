import Mathlib.Order.Defs.Unbundled
import Reflash.Proofs.Version

/-!
# Version.Precedence — how far comparing versions orders them

Identifiers, texts of pre-releases and cores are each compared by a total preorder.  Putting them
together for versions, of which some are incomplete, gives less: being compared as equal is no
longer transitive, but preceding still is.

* `cmpPre_eq_eq_iff` — pre-releases compare as equal if their identifiers are the same;
* `cmp_eq_then`, `cmp_of_complete`, `cmp_of_incomplete` — the comparison by its parts;
* `lt_iff` — to precede is to have the smaller rank, or the earlier pre-release where both are
  known;
* `partially_ordered` — preceding is a strict partial order of all versions, and a total one of
  those of one kind, complete or incomplete.
-/

namespace Reflash

open Std (OrientedCmp TransCmp LawfulEqCmp OrientedOrd TransOrd LawfulEqOrd ReflCmp)

/-! ## Identifiers -/

namespace PreIdentifier

theorem cmp_swap (a b : PreIdentifier) : a.cmp b = (b.cmp a).swap := by
  cases a with
  | number m =>
      cases b with
      | number n => exact OrientedOrd.eq_swap
      | word t => rfl
  | word s =>
      cases b with
      | number n => rfl
      | word t => exact OrientedOrd.eq_swap

instance : TransCmp PreIdentifier.cmp where
  eq_swap := cmp_swap _ _
  isLE_trans {a b c} hab hbc := by
    -- A word is never followed by a number, so that a chain changes its kind once at most.
    cases a with
    | number m =>
        cases c with
        | number n =>
            cases b with
            | number k => exact TransOrd.isLE_trans hab hbc
            | word t => simp [cmp] at hbc
        | word u => rfl
    | word s =>
        cases b with
        | number k => simp [cmp] at hab
        | word t =>
            cases c with
            | number n => simp [cmp] at hbc
            | word u => exact TransOrd.isLE_trans hab hbc

instance : LawfulEqCmp PreIdentifier.cmp where
  compare_self {a} := by
    cases a with
    | number n => exact ReflCmp.compare_self
    | word s => exact ReflCmp.compare_self
  eq_of_compare {a b} h := by
    cases a with
    | number m =>
        cases b with
        | number n => exact congrArg number (LawfulEqOrd.eq_of_compare h)
        | word t => simp [cmp] at h
    | word s =>
        cases b with
        | number n => simp [cmp] at h
        | word t =>
            have hcodes : s.map Char.toNat = t.map Char.toNat := LawfulEqOrd.eq_of_compare h
            have hinj : Function.Injective Char.toNat := fun _ _ => Char.toNat_inj.1
            exact congrArg word (List.map_injective_iff.2 hinj hcodes)

theorem cmpList_eq_compareLex (as bs : List PreIdentifier) :
    cmpList as bs = List.compareLex cmp as bs := by
  induction as generalizing bs with
  | nil =>
      cases bs with
      | nil => rfl
      | cons b bs => rfl
  | cons a as ih =>
      cases bs with
      | nil => rfl
      | cons b bs => rw [cmpList, ih, List.compareLex_cons_cons]

instance : TransCmp cmpList := by
  rw [funext₂ cmpList_eq_compareLex]
  infer_instance

instance : LawfulEqCmp cmpList := by
  rw [funext₂ cmpList_eq_compareLex]
  infer_instance

end PreIdentifier

namespace Version

variable {a b c : Version}

/-! ## Cores and pre-releases -/

instance : TransCmp cmpCore :=
  inferInstanceAs (TransCmp
    (compareLex (compareOn major) (compareLex (compareOn minor) (compareOn patch))))

theorem cmpCore_eq_eq_iff : cmpCore a b = .eq ↔ a.rank = b.rank := by
  simp [cmpCore, rank, Ordering.then_eq_eq]

theorem cmpCore_eq_gt_iff : cmpCore a b = .gt ↔ b.rank < a.rank := by
  rw [OrientedCmp.gt_iff_lt, cmpCore_eq_lt_iff]

instance : TransCmp cmpPre where
  eq_swap {p q} := by
    cases p with
    | none => cases q <;> rfl
    | some s =>
        cases q with
        | none => rfl
        | some t => exact (inferInstance : TransCmp PreIdentifier.cmpList).eq_swap
  isLE_trans {p q r} hpq hqr := by
    -- A release is followed by releases only.
    cases r with
    | none => cases p <;> rfl
    | some u =>
        cases q with
        | none => simp [cmpPre] at hqr
        | some t =>
            cases p with
            | none => simp [cmpPre] at hpq
            | some s => exact (inferInstance : TransCmp PreIdentifier.cmpList).isLE_trans hpq hqr

theorem cmpPre_eq_eq_iff {p q : Option String} :
    cmpPre p q = .eq ↔ p.map PreIdentifier.ofText = q.map PreIdentifier.ofText := by
  cases p with
  | none => cases q <;> simp [cmpPre]
  | some s =>
      cases q with
      | none => simp [cmpPre]
      | some t => simp [cmpPre, LawfulEqCmp.compare_eq_iff_eq]

/-! ## Versions -/

theorem cmp_eq_then (a b : Version) :
    a.cmp b =
      (cmpCore a b).then (if a.complete && b.complete then cmpPre a.pre b.pre else .eq) := by
  rw [cmp]
  cases cmpCore a b <;> rfl

theorem cmp_of_complete (ha : a.complete = true) (hb : b.complete = true) :
    a.cmp b = (cmpCore a b).then (cmpPre a.pre b.pre) := by
  simp [cmp_eq_then, ha, hb]

theorem cmp_of_incomplete (h : a.complete = false ∨ b.complete = false) :
    a.cmp b = cmpCore a b := by
  rcases h with h | h
  · simp [cmp_eq_then, h]
  · simp [cmp_eq_then, h]

theorem cmp_swap (a b : Version) : a.cmp b = (b.cmp a).swap := by
  have hpre : cmpPre a.pre b.pre = (cmpPre b.pre a.pre).swap := OrientedCmp.eq_swap
  have hcore : cmpCore a b = (cmpCore b a).swap := OrientedCmp.eq_swap
  rw [cmp_eq_then, cmp_eq_then, Ordering.swap_then, hpre, hcore, Bool.and_comm]
  split <;> rfl

theorem cmp_self (a : Version) : a.cmp a = .eq := by
  have hswap := cmp_swap a a
  cases hself : a.cmp a with
  | eq => rfl
  | lt => simp [hself] at hswap
  | gt => simp [hself] at hswap

theorem cmp_eq_gt_iff : a.cmp b = .gt ↔ b < a := by
  rw [cmp_swap, Ordering.swap_eq_gt]
  exact Iff.rfl

theorem not_le_iff : ¬ a ≤ b ↔ b < a :=
  not_not.trans cmp_eq_gt_iff

theorem not_lt_iff : ¬ a < b ↔ b ≤ a := by
  rw [← not_le_iff, not_not]

/-- One version precedes the other, unless they compare as equal. -/
theorem lt_or_eq_or_gt (a b : Version) : a < b ∨ a.cmp b = .eq ∨ b < a := by
  cases h : a.cmp b with
  | lt => exact .inl h
  | eq => exact .inr (.inl rfl)
  | gt => exact .inr (.inr (cmp_eq_gt_iff.1 h))

theorem cmp_eq_eq_iff_not_lt : a.cmp b = .eq ↔ ¬ a < b ∧ ¬ b < a := by
  rw [← @cmp_eq_gt_iff a b]
  change _ ↔ ¬ a.cmp b = .lt ∧ _
  cases a.cmp b <;> simp

theorem lt_iff :
    a < b ↔ a.rank < b.rank ∨
      a.rank = b.rank ∧ (a.complete = true ∧ b.complete = true) ∧ cmpPre a.pre b.pre = .lt := by
  change a.cmp b = .lt ↔ _
  rw [cmp_eq_then, Ordering.then_eq_lt, cmpCore_eq_lt_iff, cmpCore_eq_eq_iff]
  refine or_congr Iff.rfl (and_congr Iff.rfl ?_)
  split <;> simp_all

theorem rank_le_of_le (h : a ≤ b) : a.rank ≤ b.rank := by
  by_contra hrank
  have hlt : b < a := lt_iff.2 (.inl (lt_of_not_ge hrank))
  exact not_lt_iff.2 h hlt

/-- Against an incomplete version only the ranks count. -/
theorem le_iff_of_incomplete (h : a.complete = false ∨ b.complete = false) :
    a ≤ b ↔ a.rank ≤ b.rank := by
  change a.cmp b ≠ .gt ↔ _
  rw [cmp_of_incomplete h, ne_eq, cmpCore_eq_gt_iff, not_lt]

theorem lt_iff_of_incomplete (h : a.complete = false ∨ b.complete = false) :
    a < b ↔ a.rank < b.rank := by
  change a.cmp b = .lt ↔ _
  rw [cmp_of_incomplete h, cmpCore_eq_lt_iff]

/-- Preceding is transitive for any mixture of complete and incomplete versions. -/
theorem lt_trans (hab : a < b) (hbc : b < c) : a < c := by
  rw [lt_iff] at hab hbc ⊢
  -- Where the ranks agree all along, all three versions are complete.
  rcases hab with hab | ⟨hab, ⟨ha, hb⟩, hpre⟩
  · left
    rcases hbc with hbc | ⟨hbc, -⟩
    · exact hab.trans hbc
    · exact hab.trans_eq hbc
  · rcases hbc with hbc | ⟨hbc, ⟨-, hc⟩, hpre'⟩
    · exact .inl (hab.trans_lt hbc)
    · exact .inr ⟨hab.trans hbc, ⟨ha, hc⟩, TransCmp.lt_trans hpre hpre'⟩

instance : IsStrictOrder Version (· < ·) where
  irrefl a h := by
    have hself : a.cmp a = .lt := h
    simp [cmp_self] at hself
  trans _ _ _ := lt_trans

/-! ## Versions of one kind -/

/-- The versions that are complete, or those that are not. -/
def OfKind (complete : Bool) : Type :=
  { v : Version // v.complete = complete }

variable {known : Bool}

def OfKind.cmp (a b : OfKind known) : Ordering :=
  a.1.cmp b.1

instance : TransCmp fun a b : Version => cmpPre a.pre b.pre where
  eq_swap := OrientedCmp.eq_swap
  isLE_trans := TransCmp.isLE_trans

instance : TransCmp (@OfKind.cmp known) where
  eq_swap := cmp_swap _ _
  isLE_trans {a b c} hab hbc := by
    rw [OfKind.cmp] at hab hbc ⊢
    cases known with
    | false =>
        rw [cmp_of_incomplete (.inl a.2)] at hab ⊢
        rw [cmp_of_incomplete (.inl b.2)] at hbc
        exact TransCmp.isLE_trans hab hbc
    | true =>
        have htrans : TransCmp (compareLex cmpCore fun a b : Version => cmpPre a.pre b.pre) :=
          inferInstance
        rw [cmp_of_complete a.2 b.2] at hab
        rw [cmp_of_complete b.2 c.2] at hbc
        rw [cmp_of_complete a.2 c.2]
        exact htrans.isLE_trans hab hbc

theorem le_iff_isLE : a ≤ b ↔ (a.cmp b).isLE :=
  Ordering.ne_gt_iff_isLE

theorem equivalence_cmp_eq (known : Bool) :
    Equivalence fun a b : OfKind known => a.1.cmp b.1 = .eq where
  refl a := cmp_self a.1
  symm hab := @OrientedCmp.eq_symm _ OfKind.cmp _ _ _ hab
  trans hab hbc := @TransCmp.eq_trans _ OfKind.cmp _ _ _ _ hab hbc

instance : IsPreorder (OfKind known) fun a b => a.1 ≤ b.1 where
  refl a := le_iff_isLE.2 (by rw [cmp_self]; rfl)
  trans a b c hab hbc := by
    rw [le_iff_isLE] at hab hbc ⊢
    exact @TransCmp.isLE_trans _ OfKind.cmp _ _ _ _ hab hbc

theorem le_total (a b : Version) : a ≤ b ∨ b ≤ a := by
  by_cases h : a.cmp b = .gt
  · right
    have hlt : b.cmp a = .lt := cmp_eq_gt_iff.1 h
    simp [le_iff_isLE, hlt]
  · exact .inl h

/-- Two versions always compare, and the other way round with the opposite outcome.  Preceding is a
strict partial order of all versions, though two versions may compare as equal with a third and not
with each other; among complete versions, and among incomplete ones, comparing as equal is an
equivalence, and the order is total.  Build texts count in no way, neither here nor for being
level. -/
theorem partially_ordered :
    (∀ a b : Version, a < b ∨ a.cmp b = .eq ∨ b < a) ∧
      (∀ a b : Version, a.cmp b = (b.cmp a).swap) ∧
      IsStrictOrder Version (· < ·) ∧
      (∃ a b c : Version, a.cmp b = .eq ∧ b.cmp c = .eq ∧ a < c) ∧
      (∀ known : Bool,
        Equivalence (fun a b : OfKind known => a.1.cmp b.1 = .eq) ∧
          IsPreorder (OfKind known) (fun a b => a.1 ≤ b.1) ∧
          Std.Total fun a b : OfKind known => a.1 ≤ b.1) ∧
      ∀ (a b : Version) (build build' : Option String),
        ({ a with build := build }.cmp { b with build := build' } = a.cmp b) ∧
          (Level { a with build := build } { b with build := build' } ↔ a.Level b) := by
  refine ⟨lt_or_eq_or_gt, cmp_swap, inferInstance, ?_, ?_, fun a b build build' => ⟨rfl, Iff.rfl⟩⟩
  -- A candidate and its release both compare as equal with the incomplete version of their core.
  · let release : Version := { major := 1, minor := 0, patch := 0, complete := true }
    refine ⟨{ release with pre := some "rc.1" }, { release with complete := false }, release, ?_⟩
    decide
  · intro known
    exact ⟨equivalence_cmp_eq known, inferInstance, ⟨fun a b => le_total a.1 b.1⟩⟩

end Version
end Reflash
