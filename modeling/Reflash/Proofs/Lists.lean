import Mathlib.Data.List.Forall2
import Mathlib.Data.List.TakeWhile

/-!
# Lists — the last item, the only result, items side by side, and items between marks

* `Lists.exists_split_reverse` — the first item of its kind from behind is the last one;
* `Lists.takeWhile_eq_iff` — the longest start of one kind;
* `Lists.findSome?_eq_some_iff` — a search that all successful items agree on;
* `Lists.exists_of_mem_left`, `Lists.exists_of_mem_right`, `Lists.exists_forall₂` — partners in two
  related lists;
* `Lists.mem_of_mem_splitOn` — what is found between two marks stood in the list.
-/

namespace Reflash
namespace Lists

variable {α β : Type} {R : α → β → Prop} {items : List α} {results : List β} {a : α} {b : β}

theorem exists_split_reverse {P : α → Prop} :
    (∃ after before, items.reverse = after ++ a :: before ∧ ∀ x ∈ after, P x) ↔
      ∃ before after, items = before ++ a :: after ∧ ∀ x ∈ after, P x := by
  constructor
  · rintro ⟨after, before, hreverse, hafter⟩
    refine ⟨before.reverse, after.reverse, ?_, ?_⟩
    · calc
        items = items.reverse.reverse := items.reverse_reverse.symm
        _ = before.reverse ++ a :: after.reverse := by simp [hreverse]
    · intro x hx
      exact hafter x (List.mem_reverse.1 hx)
  · rintro ⟨before, after, rfl, hafter⟩
    refine ⟨after.reverse, before.reverse, by simp, ?_⟩
    intro x hx
    exact hafter x (List.mem_reverse.1 hx)

theorem takeWhile_eq_iff {p : α → Bool} {start : List α} :
    items.takeWhile p = start ↔
      ∃ rest, items = start ++ rest ∧ (∀ x ∈ start, p x) ∧ ∀ x ∈ rest.head?, p x = false := by
  constructor
  · rintro rfl
    refine ⟨items.dropWhile p, List.takeWhile_append_dropWhile.symm,
      fun x => List.mem_takeWhile_imp, ?_⟩
    intro x hx
    have hnot := List.head?_dropWhile_not p items
    rwa [Option.mem_def.1 hx] at hnot
  · rintro ⟨rest, rfl, hstart, hrest⟩
    have hnone : rest.takeWhile p = [] := by
      cases rest with
      | nil => rfl
      | cons x rest => exact List.takeWhile_cons_of_neg (by simp [hrest x rfl])
    rw [List.takeWhile_append_of_pos hstart, hnone, List.append_nil]

theorem findSome?_eq_some_iff {f : α → Option β}
    (hagree : ∀ x ∈ items, ∀ y ∈ items, ∀ p q, f x = some p → f y = some q → p = q) :
    items.findSome? f = some b ↔ ∃ x ∈ items, f x = some b := by
  refine ⟨List.exists_of_findSome?_eq_some, ?_⟩
  rintro ⟨x, hx, hb⟩
  have hfound : (items.findSome? f).isSome :=
    List.findSome?_isSome_iff.2 ⟨x, hx, Option.isSome_iff_exists.2 ⟨b, hb⟩⟩
  obtain ⟨result, hresult⟩ := Option.isSome_iff_exists.1 hfound
  obtain ⟨y, hy, hq⟩ := List.exists_of_findSome?_eq_some hresult
  rw [hresult, hagree x hx y hy b result hb hq]

theorem exists_of_mem_left (h : List.Forall₂ R items results) (ha : a ∈ items) :
    ∃ b ∈ results, R a b := by
  induction h with
  | nil => exact absurd ha List.not_mem_nil
  | cons hfirst _ ih =>
      rcases List.mem_cons.1 ha with rfl | hrest
      · exact ⟨_, List.mem_cons_self, hfirst⟩
      · obtain ⟨b, hb, hR⟩ := ih hrest
        exact ⟨b, List.mem_cons_of_mem _ hb, hR⟩

theorem exists_of_mem_right (h : List.Forall₂ R items results) (hb : b ∈ results) :
    ∃ a ∈ items, R a b :=
  exists_of_mem_left h.flip hb

/-- Items that have a partner each, side by side with their partners. -/
theorem exists_forall₂ (h : ∀ a ∈ items, ∃ b, R a b) : ∃ results, List.Forall₂ R items results := by
  induction items with
  | nil => exact ⟨[], .nil⟩
  | cons a rest ih =>
      obtain ⟨hfirst, hrest⟩ := List.forall_mem_cons.1 h
      obtain ⟨b, hb⟩ := hfirst
      obtain ⟨results, hresults⟩ := ih hrest
      exact ⟨b :: results, .cons hb hresults⟩

theorem mem_intersperse (mark : α) (ha : a ∈ items) : a ∈ items.intersperse mark := by
  obtain ⟨i, hi⟩ := List.mem_iff_getElem?.1 ha
  exact List.mem_iff_getElem?.2 ⟨2 * i, List.getElem?_intersperse_two_mul.trans hi⟩

theorem mem_of_mem_splitOn [BEq α] [LawfulBEq α] {mark : α} {part : List α}
    (hpart : part ∈ items.splitOn mark) (ha : a ∈ part) : a ∈ items := by
  have hjoin : [mark].intercalate (items.splitOn mark) = items := List.intercalate_splitOn mark
  rw [← hjoin]
  exact List.mem_flatten.2 ⟨part, mem_intersperse [mark] hpart, ha⟩

end Lists
end Reflash
