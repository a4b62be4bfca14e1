import Mathlib.Data.List.Induction
import Reflash.Crypto.Keys
import Reflash.Proofs.Version.Precedence

/-!
# Version.Selection — which entry is in force

While the entries that have started are gone through, one of them is kept: the next one takes its
place only if it starts later.  Being level with a third version says nothing about two others, but
preceding is transitive, and that suffices: no entry that was passed over starts later than the one
that is kept.

* `leader?` — the entry that is kept of entries that have all started;
* `Leads` — no entry of the list starts later;
* `LeadsFirst` — moreover, all entries in front start earlier;
* `selects_first_of_greatest` — what the entry in force is, and that the order of the entries
  matters only among starts that compare as equal.
-/

namespace Reflash
namespace Version

open Std (TransCmp)

variable {α : Type} {start : α → Version} {entries entries' started started' : List α}
variable {version a b c : Version} {e x : α} {known : Bool}

/-! ## The entry that is kept -/

def leader? (start : α → Version) (started : List α) : Option α :=
  started.foldl (later start) none

theorem leader?_concat (start : α → Version) (started : List α) (x : α) :
    leader? start (started ++ [x]) = later start (leader? start started) x :=
  List.foldl_concat (later start) none x started

theorem leader?_eq_none_iff : leader? start started = none ↔ started = [] := by
  induction started using List.reverseRecOn with
  | nil => exact ⟨fun _ => rfl, fun _ => rfl⟩
  | append_singleton started x _ =>
      rw [leader?_concat]
      cases leader? start started with
      | none => simp [later]
      | some b =>
          by_cases h : start b < start x
          · simp [later, h]
          · simp [later, h]

/-- What holds of a first entry, and is kept both when the next entry starts later and when it does
not, holds of the entry that is kept in the end. -/
theorem leader?_induction {P : List α → α → Prop} (hfirst : ∀ x, P [x] x)
    (hlater : ∀ started b x, P started b → start b < start x → P (started ++ [x]) x)
    (hkept : ∀ started b x, P started b → ¬ start b < start x → P (started ++ [x]) b)
    (h : leader? start started = some e) : P started e := by
  induction started using List.reverseRecOn generalizing e with
  | nil => cases h
  | append_singleton started x ih =>
      rw [leader?_concat] at h
      cases hbest : leader? start started with
      | none =>
          have hnil : started = [] := leader?_eq_none_iff.1 hbest
          have hx : x = e := by simpa [hbest, later] using h
          subst hnil hx
          exact hfirst x
      | some b =>
          have hb : P started b := ih hbest
          by_cases hlt : start b < start x
          · have hx : x = e := by simpa [hbest, later, hlt] using h
            subst hx
            exact hlater started b x hb hlt
          · have hbe : b = e := by simpa [hbest, later, hlt] using h
            subst hbe
            exact hkept started b x hb hlt

/-! ## No entry starts later -/

structure Leads (start : α → Version) (started : List α) (e : α) : Prop where
  mem : e ∈ started
  unsurpassed : ∀ x ∈ started, ¬ start e < start x

theorem Leads.concat_later (h : Leads start started e) (hlt : start e < start x) :
    Leads start (started ++ [x]) x where
  mem := List.mem_append_right _ List.mem_cons_self
  unsurpassed y hy hxy := by
    rcases List.mem_append.1 hy with hold | hnew
    -- What starts after the new entry would start after the one that led so far.
    · exact h.unsurpassed y hold (lt_trans hlt hxy)
    · have hyx : y = x := List.mem_singleton.1 hnew
      subst hyx
      exact irrefl (start y) hxy

theorem Leads.concat_kept (h : Leads start started e) (hnot : ¬ start e < start x) :
    Leads start (started ++ [x]) e where
  mem := List.mem_append_left _ h.mem
  unsurpassed y hy := by
    rcases List.mem_append.1 hy with hold | hnew
    · exact h.unsurpassed y hold
    · have hyx : y = x := List.mem_singleton.1 hnew
      subst hyx
      exact hnot

theorem leads_of_leader? (h : leader? start started = some e) : Leads start started e := by
  refine leader?_induction (P := Leads start) ?_ ?_ ?_ h
  · intro x
    refine ⟨List.mem_cons_self, fun y hy => ?_⟩
    rw [List.mem_singleton.1 hy]
    exact irrefl (start x)
  · exact fun _ _ _ hb hlt => hb.concat_later hlt
  · exact fun _ _ _ hb hnot => hb.concat_kept hnot

/-- Entries that lead the same entries start at versions that compare as equal. -/
theorem Leads.cmp_eq (h : Leads start started e) (h' : Leads start started' x)
    (hperm : started.Perm started') : (start e).cmp (start x) = .eq := by
  have hx : x ∈ started := hperm.mem_iff.2 h'.mem
  have he : e ∈ started' := hperm.mem_iff.1 h.mem
  exact cmp_eq_eq_iff_not_lt.2 ⟨h.unsurpassed x hx, h'.unsurpassed e he⟩

theorem rel_leader?_of_perm (hperm : started.Perm started') :
    Option.Rel (fun e x => (start e).cmp (start x) = .eq) (leader? start started)
      (leader? start started') := by
  cases hleader : leader? start started with
  | none =>
      have hnil : started = [] := leader?_eq_none_iff.1 hleader
      have hnil' : started' = [] := by
        subst hnil
        exact hperm.nil_eq.symm
      rw [leader?_eq_none_iff.2 hnil']
      exact .none
  | some e =>
      cases hleader' : leader? start started' with
      | none =>
          have hnil' : started' = [] := leader?_eq_none_iff.1 hleader'
          have he : e ∈ started := (leads_of_leader? hleader).mem
          exact absurd (hperm.mem_iff.1 he) (by simp [hnil'])
      | some x =>
          exact .some ((leads_of_leader? hleader).cmp_eq (leads_of_leader? hleader') hperm)

/-! ## The first of the greatest -/

theorem lt_of_le_of_lt_of_kind (ha : a.complete = known) (hb : b.complete = known)
    (hc : c.complete = known) (hab : a ≤ b) (hbc : b < c) : a < c := by
  let a' : OfKind known := ⟨a, ha⟩
  let b' : OfKind known := ⟨b, hb⟩
  let c' : OfKind known := ⟨c, hc⟩
  have hle : (a'.cmp b').isLE := le_iff_isLE.1 hab
  have hlt : b'.cmp c' = .lt := hbc
  have hac : a'.cmp c' = .lt := @TransCmp.lt_of_isLE_of_lt _ OfKind.cmp _ _ _ _ hle hlt
  exact hac

/-- The entries in front start earlier, those behind not later. -/
def LeadsFirst (start : α → Version) (started : List α) (e : α) : Prop :=
  ∃ before after, started = before ++ e :: after ∧
    (∀ x ∈ before, start x < start e) ∧ ∀ x ∈ after, start x ≤ start e

theorem LeadsFirst.concat_later (h : LeadsFirst start started e) (hlt : start e < start x)
    (hkind : ∀ y ∈ started ++ [x], (start y).complete = known) :
    LeadsFirst start (started ++ [x]) x := by
  obtain ⟨before, after, rfl, hbefore, hafter⟩ := h
  have hearlier : ∀ y ∈ before ++ e :: after, start y < start x := by
    intro y hy
    rcases List.mem_append.1 hy with hfront | hrest
    · exact lt_trans (hbefore y hfront) hlt
    · rcases List.mem_cons.1 hrest with rfl | hback
      · exact hlt
      -- Only here the kind counts: an entry behind may be level with the one that led so far.
      · exact lt_of_le_of_lt_of_kind (hkind y (by simp [hback])) (hkind e (by simp))
          (hkind x (by simp)) (hafter y hback) hlt
  exact ⟨before ++ e :: after, [], rfl, hearlier, fun y hy => absurd hy List.not_mem_nil⟩

theorem LeadsFirst.concat_kept (h : LeadsFirst start started e) (hnot : ¬ start e < start x) :
    LeadsFirst start (started ++ [x]) e := by
  obtain ⟨before, after, rfl, hbefore, hafter⟩ := h
  refine ⟨before, after ++ [x], by simp, hbefore, fun y hy => ?_⟩
  rcases List.mem_append.1 hy with hold | hnew
  · exact hafter y hold
  · rw [List.mem_singleton.1 hnew]
    exact not_lt_iff.1 hnot

theorem leadsFirst_of_leader? (hkind : ∀ y ∈ started, (start y).complete = known)
    (h : leader? start started = some e) : LeadsFirst start started e := by
  let P (started : List α) (e : α) : Prop :=
    (∀ y ∈ started, (start y).complete = known) → LeadsFirst start started e
  refine leader?_induction (P := P) ?_ ?_ ?_ h hkind
  · intro x _
    exact ⟨[], [], rfl, fun y hy => absurd hy List.not_mem_nil,
      fun y hy => absurd hy List.not_mem_nil⟩
  · intro started b x hb hlt hkind
    have hled := hb fun y hy => hkind y (List.mem_append_left _ hy)
    exact hled.concat_later hlt hkind
  · intro started b x hb hnot hkind
    have hled := hb fun y hy => hkind y (List.mem_append_left _ hy)
    exact hled.concat_kept hnot

/-! ## The entry in force -/

theorem selectByStart_eq_leader? (start : α → Version) (entries : List α) (version : Version) :
    selectByStart start entries version =
      leader? start (entries.filter fun e => decide (start e ≤ version)) :=
  rfl

theorem selectByStart_eq_none_iff :
    selectByStart start entries version = none ↔ ∀ x ∈ entries, ¬ start x ≤ version := by
  rw [selectByStart_eq_leader?, leader?_eq_none_iff, List.filter_eq_nil_iff]
  simp only [decide_eq_true_eq]

theorem greatest_of_selectByStart (h : selectByStart start entries version = some e) :
    e ∈ entries ∧ start e ≤ version ∧
      ∀ x ∈ entries, start x ≤ version → ¬ start e < start x := by
  have hleads := leads_of_leader? h
  have hmem := List.mem_filter.1 hleads.mem
  refine ⟨hmem.1, of_decide_eq_true hmem.2, fun x hx hstarted => ?_⟩
  exact hleads.unsurpassed x (List.mem_filter.2 ⟨hx, decide_eq_true hstarted⟩)

theorem first_of_selectByStart (hkind : ∀ x ∈ entries, (start x).complete = known)
    (h : selectByStart start entries version = some e) :
    ∃ before after, entries = before ++ e :: after ∧
      ∀ x ∈ before, start x ≤ version → start x < start e := by
  have hfirst := leadsFirst_of_leader? (fun x hx => hkind x (List.mem_of_mem_filter hx)) h
  obtain ⟨before, after, hsplit, hbefore, -⟩ := hfirst
  obtain ⟨front, rest, rfl, rfl, hrest⟩ := List.filter_eq_append_iff.1 hsplit
  obtain ⟨skipped, back, rfl, hskipped, -, -⟩ := List.filter_eq_cons_iff.1 hrest
  refine ⟨front ++ skipped, back, by simp, fun x hx hstarted => ?_⟩
  rcases List.mem_append.1 hx with hfront | hskip
  · exact hbefore x (List.mem_filter.2 ⟨hfront, decide_eq_true hstarted⟩)
  -- Those between have not started.
  · exact absurd (decide_eq_true hstarted) (hskipped x hskip)

/-- No entry is in force exactly if none has started.  Otherwise it is one that has started, and of
those that have, none starts later; if the starts are of one kind, it is the first of these.  The
order of the entries matters only among starts that compare as equal. -/
theorem selects_first_of_greatest {α : Type} (start : α → Version) (entries : List α)
    (version : Version) :
    (selectByStart start entries version = none ↔ ∀ x ∈ entries, ¬ start x ≤ version) ∧
      (∀ e, selectByStart start entries version = some e →
        e ∈ entries ∧ start e ≤ version ∧
          ∀ x ∈ entries, start x ≤ version → ¬ start e < start x) ∧
      (∀ known e, (∀ x ∈ entries, (start x).complete = known) →
        selectByStart start entries version = some e →
          ∃ before after, entries = before ++ e :: after ∧
            ∀ x ∈ before, start x ≤ version → start x < start e) ∧
      ∀ entries', entries.Perm entries' →
        Option.Rel (fun e x => (start e).cmp (start x) = .eq)
          (selectByStart start entries version) (selectByStart start entries' version) := by
  refine ⟨selectByStart_eq_none_iff, fun e => greatest_of_selectByStart, ?_, ?_⟩
  · exact fun known e hkind h => first_of_selectByStart hkind h
  · exact fun entries' hperm => rel_leader?_of_perm (hperm.filter _)

/-- Of two sets of keys from 1.8.0 on, the first is in force at 1.9.0, although another one starts
in front of it. -/
theorem selects_first_of_greatest_trial :
    ∃ older first second : KeySet, ∃ version, first ≠ second ∧
      KeySet.select [older, first, second] version = some first ∧
      ∃ before after, [older, first, second] = before ++ first :: after ∧
        ∀ x ∈ before, x.start ≤ version → x.start < first.start := by
  let key : SigningKey := { name := "second", isOfficial := false, key := ⟨1, 2⟩ }
  let older : KeySet := { start := { major := 0, minor := 1, patch := 0 }, keys := [] }
  let first : KeySet := { start := { major := 1, minor := 8, patch := 0 }, keys := [] }
  let second : KeySet := { start := { major := 1, minor := 8, patch := 0 }, keys := [key] }
  let version : Version := { major := 1, minor := 9, patch := 0, complete := true }
  have hselect : KeySet.select [older, first, second] version = some first := by decide
  have hkind : ∀ x ∈ [older, first, second], x.start.complete = false := by decide
  have hlaws := selects_first_of_greatest KeySet.start [older, first, second] version
  exact ⟨older, first, second, version, by decide, hselect, hlaws.2.2.1 false first hkind hselect⟩

end Version
end Reflash
