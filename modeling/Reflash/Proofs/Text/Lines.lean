import Mathlib.Data.List.Infix
import Reflash.Text.Lines

/-!
# Lines — how texts are cut

* `Text.HasLines` — what the lines of a text are;
* `Text.lines_eq_iff` — these lines are the ones that a text is cut into;
* `Text.PartedAtPair` — what it is to be divided at the first of all pairs;
* `Text.cutPair?_eq_some_iff`, `Text.exists_cutPair?_iff` — where a text is divided, and when it can
  be.
-/

namespace Reflash
namespace Text

/-! ## Lines -/

/-- A line without the carriage return that may stand right before its line feed. -/
def withoutReturn (l : List Char) : List Char :=
  if l.getLast? = some '\r' then l.dropLast else l

/-- Every line but the last has a line feed behind it.  The last one may do without if it is not
empty, and then keeps its carriage return. -/
inductive HasLines : List Char → List (List Char) → Prop
  | nil : HasLines [] []
  | last {l : List Char} (hne : l ≠ []) (hl : '\n' ∉ l) : HasLines l [l]
  | line {l s : List Char} {ls : List (List Char)} (hl : '\n' ∉ l) (hrest : HasLines s ls) :
      HasLines (l ++ '\n' :: s) (withoutReturn l :: ls)

variable {c d : Char} {s l before after : List Char} {ls : List (List Char)}

theorem withoutReturn_of_getLast? (h : l.getLast? ≠ some '\r') : withoutReturn l = l :=
  if_neg h

theorem withoutReturn_cons (hne : l ≠ []) : withoutReturn (c :: l) = c :: withoutReturn l := by
  obtain ⟨d, rest, rfl⟩ := List.exists_cons_of_ne_nil hne
  rw [withoutReturn, withoutReturn, List.getLast?_cons_cons, List.dropLast_cons_cons]
  split <;> rfl

/-- A character that no line ends with stands at the start of the first line. -/
theorem lines_cons (hfeed : c ≠ '\n') (hreturn : c = '\r' → s.head? ≠ some '\n')
    (h : lines s = l :: ls) :
    lines (c :: s) = (c :: l) :: ls := by
  rw [lines.eq_4 _ _ hfeed, h]
  intro rest hc hs
  exact hreturn hc (by rw [hs, List.head?_cons])

theorem lines_of_notMem (hne : l ≠ []) (hl : '\n' ∉ l) : lines l = [l] := by
  induction l with
  | nil => exact absurd rfl hne
  | cons c rest ih =>
      obtain ⟨hfeed, hrest⟩ := List.ne_and_not_mem_of_not_mem_cons hl
      cases rest with
      | nil =>
          rw [lines.eq_4 _ _ (Ne.symm hfeed) (by simp)]
          rfl
      | cons d rest =>
          refine lines_cons (Ne.symm hfeed) (fun _ => ?_) (ih (List.cons_ne_nil _ _) hrest)
          intro hhead
          obtain rfl := Option.some.inj hhead
          exact hrest List.mem_cons_self

theorem lines_append (hl : '\n' ∉ l) : lines (l ++ '\n' :: s) = withoutReturn l :: lines s := by
  induction l with
  | nil => rfl
  | cons c rest ih =>
      obtain ⟨hfeed, hrest⟩ := List.ne_and_not_mem_of_not_mem_cons hl
      -- Only the last character before the line feed can belong to the line end.
      by_cases hne : rest = []
      · subst hne
        by_cases hreturn : c = '\r'
        · subst hreturn
          rfl
        · have hkept : withoutReturn [c] = [c] := withoutReturn_of_getLast? (by simpa using hreturn)
          rw [hkept]
          exact lines_cons (Ne.symm hfeed) (fun hc => absurd hc hreturn) rfl
      · rw [withoutReturn_cons hne, List.cons_append]
        refine lines_cons (Ne.symm hfeed) (fun _ => ?_) (ih hrest)
        rw [List.head?_append_of_ne_nil _ hne]
        intro hhead
        exact hrest (List.mem_of_mem_head? hhead)

theorem HasLines.lines_eq (h : HasLines s ls) : lines s = ls := by
  induction h with
  | nil => rfl
  | last hne hl => exact lines_of_notMem hne hl
  | line hl _ ih => rw [lines_append hl, ih]

/-- The induction is on the length: what stands behind the first line feed is shorter. -/
theorem hasLines_lines (s : List Char) : HasLines s (lines s) := by
  by_cases hfeed : '\n' ∈ s
  · obtain ⟨l, rest, rfl, hl⟩ := List.eq_append_cons_of_mem hfeed
    rw [lines_append hl]
    exact .line hl (hasLines_lines rest)
  · by_cases hne : s = []
    · subst hne
      exact .nil
    · rw [lines_of_notMem hne hfeed]
      exact .last hne hfeed
termination_by s.length
decreasing_by
  subst_vars
  simp only [List.length_append, List.length_cons]
  omega

theorem lines_eq_iff : lines s = ls ↔ HasLines s ls := by
  constructor
  · rintro rfl
    exact hasLines_lines s
  · exact HasLines.lines_eq

/-! ## Pairs -/

/-- The text is divided at two consecutive `c`, and there are no two before these. -/
structure PartedAtPair (c : Char) (s before after : List Char) : Prop where
  parts : s = before ++ c :: c :: after
  first : ∀ before' after', s = before' ++ c :: c :: after' → before.length ≤ before'.length

theorem PartedAtPair.cons (h : PartedAtPair c s before after)
    (hhead : ¬ (d = c ∧ s.head? = some c)) :
    PartedAtPair c (d :: s) (d :: before) after where
  parts := by rw [h.parts, List.cons_append]
  first before' after' hparts := by
    cases before' with
    | nil =>
        obtain ⟨rfl, rfl⟩ := List.cons.inj hparts
        exact absurd ⟨rfl, rfl⟩ hhead
    | cons e rest =>
        obtain ⟨-, hrest⟩ := List.cons.inj hparts
        exact Nat.succ_le_succ (h.first rest after' hrest)

theorem PartedAtPair.unique {before' after' : List Char} (h : PartedAtPair c s before after)
    (h' : PartedAtPair c s before' after') : before = before' ∧ after = after' := by
  have hlength : before.length = before'.length :=
    Nat.le_antisymm (h.first _ _ h'.parts) (h'.first _ _ h.parts)
  obtain ⟨hbefore, hrest⟩ := List.append_inj (h.parts.symm.trans h'.parts) hlength
  exact ⟨hbefore, (List.cons.inj (List.cons.inj hrest).2).2⟩

theorem partedAtPair_of_cutPair? (h : cutPair? c s = some (before, after)) :
    PartedAtPair c s before after := by
  induction s generalizing before with
  | nil => cases h
  | cons x rest ih =>
      cases rest with
      | nil => cases h
      | cons y rest =>
          rw [cutPair?] at h
          split at h
          case isTrue hpair =>
            obtain ⟨rfl, rfl⟩ := hpair
            cases h
            exact ⟨rfl, fun _ _ _ => Nat.zero_le _⟩
          case isFalse hpair =>
            obtain ⟨⟨before', after'⟩, hcut, hparts⟩ := Option.map_eq_some_iff.1 h
            cases hparts
            exact (ih hcut).cons (by simpa using hpair)

/-- Wherever there is a pair, the text is divided at one. -/
theorem isSome_cutPair? (s : List Char) (h : [c, c] <:+: s) : (cutPair? c s).isSome := by
  induction s with
  | nil => simp at h
  | cons x rest ih =>
      cases rest with
      | nil => simpa using h.length_le
      | cons y rest =>
          rw [cutPair?]
          split
          case isTrue => rfl
          case isFalse hpair =>
            rw [Option.isSome_map]
            apply ih
            rcases List.infix_cons_iff.1 h with hstart | hlater
            · simp only [List.cons_prefix_cons, List.nil_prefix, and_true] at hstart
              exact absurd ⟨hstart.1.symm, hstart.2.symm⟩ hpair
            · exact hlater

theorem PartedAtPair.occurs (h : PartedAtPair c s before after) : [c, c] <:+: s :=
  ⟨before, after, by
    rw [h.parts, List.append_assoc, List.cons_append, List.cons_append, List.nil_append]⟩

theorem cutPair?_eq_some_iff :
    cutPair? c s = some (before, after) ↔ PartedAtPair c s before after := by
  constructor
  · exact partedAtPair_of_cutPair?
  · intro h
    obtain ⟨⟨before', after'⟩, hcut⟩ := Option.isSome_iff_exists.1 (isSome_cutPair? s h.occurs)
    obtain ⟨rfl, rfl⟩ := h.unique (partedAtPair_of_cutPair? hcut)
    exact hcut

theorem exists_cutPair?_iff : (∃ parts, cutPair? c s = some parts) ↔ [c, c] <:+: s := by
  constructor
  · rintro ⟨⟨before, after⟩, hcut⟩
    exact (partedAtPair_of_cutPair? hcut).occurs
  · intro h
    exact Option.isSome_iff_exists.1 (isSome_cutPair? s h)

/-- A text without pairs that does not end with the character is not divided, whatever stands
behind. -/
theorem partedAtPair_append (hpair : ¬ [c, c] <:+: before) (hlast : before.getLast? ≠ some c)
    (after : List Char) : PartedAtPair c (before ++ c :: c :: after) before after where
  parts := rfl
  first before' after' hparts := by
    by_contra hshort
    rw [not_le] at hshort
    obtain ⟨middle, rfl⟩ : before' <+: before :=
      List.prefix_of_prefix_length_le (hparts ▸ List.prefix_append before' _)
        (List.prefix_append before _) hshort.le
    rw [List.append_assoc] at hparts
    have hrest := List.append_cancel_left hparts
    -- An earlier pair would start with the last character of the text, or lie in it.
    match middle with
    | [] => simp at hshort
    | [x] =>
        obtain ⟨rfl, -⟩ := List.cons.inj hrest
        exact hlast (by simp)
    | x :: y :: middle =>
        obtain ⟨rfl, hrest⟩ := List.cons.inj hrest
        obtain ⟨rfl, -⟩ := List.cons.inj hrest
        exact hpair ⟨before', middle, by simp⟩

end Text
end Reflash
