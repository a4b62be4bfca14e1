import Mathlib.Data.List.Forall2

/-!
# Result — computations that succeed or fail

Equations that take a computation with failures apart: as one function after the other, and over a
list.
-/

namespace Reflash
namespace Result

variable {α β ε : Type} {a : α} {b : β} {e : ε} {x : Except ε α} {f : α → Except ε β}

theorem ok_bind : (Except.ok a >>= f) = f a :=
  rfl

theorem error_bind : (Except.error e >>= f) = .error e :=
  rfl

theorem bind_eq_ok : x >>= f = .ok b ↔ ∃ a, x = .ok a ∧ f a = .ok b := by
  cases x with
  | ok a =>
      rw [ok_bind]
      constructor
      · intro h
        exact ⟨a, rfl, h⟩
      · rintro ⟨a', ha, h⟩
        cases ha
        exact h
  | error e =>
      rw [error_bind]
      constructor
      · intro h
        cases h
      · rintro ⟨a, ha, -⟩
        cases ha

theorem bind_eq_error : x >>= f = .error e ↔ x = .error e ∨ ∃ a, x = .ok a ∧ f a = .error e := by
  cases x with
  | ok a => simp [ok_bind]
  | error e' => simp [error_bind]

theorem pure_eq_ok {a' : α} : (pure a : Except ε α) = .ok a' ↔ a = a' := by
  constructor
  · intro h
    cases h
    rfl
  · rintro rfl
    rfl

/-- A check that may end the computation, in front of the rest. -/
theorem unless_eq_ok {p : Prop} [Decidable p] {rest : Unit → Except ε α} :
    (if p then (do let u ← throw e; rest u) else rest ()) = .ok a ↔ ¬ p ∧ rest () = .ok a := by
  by_cases h : p
  · have hthrow : (do let u ← throw e; rest u : Except ε α) = .error e := rfl
    simp [h, hthrow]
  · simp [h]

/-- Over a list, all items succeed, and the results are in the items' order. -/
theorem mapM_eq_ok {items : List α} {results : List β} :
    items.mapM f = .ok results ↔ List.Forall₂ (fun a b => f a = .ok b) items results := by
  induction items generalizing results with
  | nil =>
      rw [List.mapM_nil, pure_eq_ok, List.forall₂_nil_left_iff, eq_comm]
  | cons a items ih =>
      rw [List.mapM_cons, bind_eq_ok, List.forall₂_cons_left_iff]
      constructor
      · rintro ⟨b, hb, hrest⟩
        obtain ⟨others, hothers, hpure⟩ := bind_eq_ok.1 hrest
        exact ⟨b, others, hb, ih.1 hothers, (pure_eq_ok.1 hpure).symm⟩
      · rintro ⟨b, others, hb, hothers, rfl⟩
        exact ⟨b, hb, bind_eq_ok.2 ⟨others, ih.2 hothers, pure_eq_ok.2 rfl⟩⟩

/-- What is there succeeds. -/
theorem option_mapM_eq_ok {o : Option α} {p : Option β} :
    o.mapM f = .ok p ↔ Option.Rel (fun a b => f a = .ok b) o p := by
  cases o with
  | none =>
      constructor
      · intro h
        cases h
        exact .none
      · rintro ⟨⟩
        rfl
  | some a =>
      rw [Option.mapM_some, ← bind_pure_comp, bind_eq_ok]
      constructor
      · rintro ⟨b, hb, hpure⟩
        obtain rfl := pure_eq_ok.1 hpure
        exact .some hb
      · rintro ⟨hb⟩
        exact ⟨_, hb, pure_eq_ok.2 rfl⟩

theorem mapM_congr {g : α → Except ε β} {items : List α} (h : ∀ a ∈ items, f a = g a) :
    items.mapM f = items.mapM g := by
  induction items with
  | nil => rfl
  | cons a items ih =>
      rw [List.mapM_cons, List.mapM_cons, h a List.mem_cons_self,
        ih fun b hb => h b (List.mem_cons_of_mem a hb)]

end Result
end Reflash
