import Reflash.Dialogue

/-!
# Dialogue.Course — what a dialogue may come to

`Dialogue.run` follows a dialogue in one place.  Here is the same thing without a place:

* `Dialogue.Course d record a` — asked in some surroundings, `d` ends with `a` after the exchanges
  of `record`;
* `Dialogue.course_run` — every run takes a course, so what holds for all courses holds in all
  surroundings.

The equations below take a course apart along the text of a dialogue: a course of `d >>= f` is one
of `d` and then one of what `f` makes of its result.  The second group does the same for dialogues
that may fail.
-/

namespace Reflash
namespace Dialogue

variable {Q R : Type} {Answer : Q → Type} {Reply : R → Type} {α β ε ε' σ : Type}

inductive Course : Dialogue Answer α → List (Exchange Answer) → α → Prop where
  | done (a : α) : Course (.done a) [] a
  | ask (q : Q) (answer : Answer q) {next : Answer q → Dialogue Answer α}
      {record : List (Exchange Answer)} {a : α} :
      Course (next answer) record a → Course (.ask q next) (⟨q, answer⟩ :: record) a

theorem course_run (w : Surroundings Answer σ) (d : Dialogue Answer α) (s : σ) :
    Course d (d.run w s).record (d.run w s).result := by
  induction d generalizing s with
  | done a =>
      exact Course.done a
  | ask q next ih =>
      exact Course.ask q (w s q).1 (ih (w s q).1 (w s q).2)

/-- The record of a run holds what the surroundings answered. -/
theorem answer_of_mem_record {w : Surroundings Answer σ} {d : Dialogue Answer α} {s : σ}
    {x : Exchange Answer} (hx : x ∈ (d.run w s).record) : ∃ s, (w s x.1).1 = x.2 := by
  induction d generalizing s with
  | done a =>
      cases hx
  | ask q next ih =>
      rcases List.mem_cons.1 hx with rfl | hx
      · exact ⟨s, rfl⟩
      · exact ih (w s q).1 hx

/-! ## Taking courses apart -/

section

variable {record : List (Exchange Answer)} {a b : α}

@[simp] theorem course_done :
    Course (.done a : Dialogue Answer α) record b ↔ record = [] ∧ b = a := by
  constructor
  · intro h
    cases h
    exact ⟨rfl, rfl⟩
  · rintro ⟨rfl, rfl⟩
    exact Course.done b

@[simp] theorem course_ask {q : Q} {next : Answer q → Dialogue Answer α} :
    Course (.ask q next) record a ↔
      ∃ answer rest, record = ⟨q, answer⟩ :: rest ∧ Course (next answer) rest a := by
  constructor
  · intro h
    cases h with
    | ask _ answer hrest =>
        exact ⟨answer, _, rfl, hrest⟩
  · rintro ⟨answer, rest, rfl, hrest⟩
    exact Course.ask q answer hrest

theorem course_bind {d : Dialogue Answer β} {f : β → Dialogue Answer α} :
    Course (d >>= f) record a ↔
      ∃ first b rest, record = first ++ rest ∧ Course d first b ∧ Course (f b) rest a := by
  induction d generalizing record with
  | done b =>
      rw [done_bind]
      constructor
      · intro h
        exact ⟨[], b, record, rfl, Course.done b, h⟩
      · rintro ⟨first, b', rest, rfl, hfirst, hrest⟩
        obtain ⟨rfl, rfl⟩ := course_done.1 hfirst
        exact hrest
  | ask q next ih =>
      simp only [ask_bind, course_ask, ih]
      constructor
      · rintro ⟨answer, _, rfl, first, b, rest, rfl, hfirst, hrest⟩
        exact ⟨⟨q, answer⟩ :: first, b, rest, rfl, ⟨answer, first, rfl, hfirst⟩, hrest⟩
      · rintro ⟨_, b, rest, rfl, ⟨answer, first, rfl, hfirst⟩, hrest⟩
        exact ⟨answer, first ++ rest, rfl, first, b, rest, rfl, hfirst, hrest⟩

@[simp] theorem course_map {f : β → α} {d : Dialogue Answer β} :
    Course (f <$> d) record a ↔ ∃ b, Course d record b ∧ a = f b := by
  rw [← bind_pure_comp, course_bind]
  constructor
  · rintro ⟨first, b, rest, rfl, hfirst, hrest⟩
    obtain ⟨rfl, rfl⟩ := course_done.1 hrest
    exact ⟨b, by simpa using hfirst, rfl⟩
  · rintro ⟨b, hb, rfl⟩
    exact ⟨record, b, [], by simp, hb, course_done.2 ⟨rfl, rfl⟩⟩

@[simp] theorem course_query {q : Q} {answer : Answer q} :
    Course (query q : Dialogue Answer (Answer q)) record answer ↔ record = [⟨q, answer⟩] := by
  simp only [query, course_ask, course_done]
  constructor
  · rintro ⟨_, _, rfl, rfl, rfl⟩
    rfl
  · rintro rfl
    exact ⟨answer, [], rfl, rfl, rfl⟩

end

/-! ## Dialogues that may fail -/

@[simp] theorem mapError_ok {f : ε' → ε} {a : α} : (.ok a : Except ε' α).mapError f = .ok a :=
  rfl

@[simp] theorem mapError_error {f : ε' → ε} {e : ε'} :
    (.error e : Except ε' α).mapError f = .error (f e) :=
  rfl

@[simp] theorem map_ok {f : β → α} {b : β} : (.ok b : Except ε β).map f = .ok (f b) :=
  rfl

@[simp] theorem map_error {f : β → α} {e : ε} : (.error e : Except ε β).map f = .error e :=
  rfl

@[simp] theorem mapError_eq_ok {x : Except ε' α} {f : ε' → ε} {a : α} :
    x.mapError f = .ok a ↔ x = .ok a := by
  cases x <;> simp

@[simp] theorem mapError_eq_error {x : Except ε' α} {f : ε' → ε} {e : ε} :
    x.mapError f = .error e ↔ ∃ cause, x = .error cause ∧ e = f cause := by
  cases x <;> simp [eq_comm]

@[simp] theorem map_eq_ok {x : Except ε β} {f : β → α} {a : α} :
    x.map f = .ok a ↔ ∃ b, x = .ok b ∧ a = f b := by
  cases x <;> simp [eq_comm]

@[simp] theorem map_eq_error {x : Except ε β} {f : β → α} {e : ε} :
    x.map f = .error e ↔ x = .error e := by
  cases x <;> simp

section

variable {record : List (Exchange Answer)} {result : Except ε α}

@[simp] theorem course_pure {a : α} :
    Course (pure a : ExceptT ε (Dialogue Answer) α).run record result ↔
      record = [] ∧ result = .ok a :=
  course_done

@[simp] theorem course_throw {e : ε} :
    Course (throw e : ExceptT ε (Dialogue Answer) α).run record result ↔
      record = [] ∧ result = .error e :=
  course_done

@[simp] theorem course_mk_pure {x : Except ε α} :
    Course (ExceptT.mk (pure x) : ExceptT ε (Dialogue Answer) α).run record result ↔
      record = [] ∧ result = x :=
  course_done

/-- The first part fails, and then so does the whole; or the second part goes on. -/
theorem course_seq {m : ExceptT ε (Dialogue Answer) β} {f : β → ExceptT ε (Dialogue Answer) α} :
    Course (m >>= f).run record result ↔
      (∃ e, Course m.run record (.error e) ∧ result = .error e) ∨
        ∃ first b rest, record = first ++ rest ∧ Course m.run first (.ok b) ∧
          Course (f b).run rest result := by
  rw [ExceptT.run_bind, course_bind]
  constructor
  · rintro ⟨first, x, rest, rfl, hfirst, hrest⟩
    cases x with
    | ok b =>
        exact .inr ⟨first, b, rest, rfl, hfirst, hrest⟩
    | error e =>
        obtain ⟨rfl, rfl⟩ := course_done.1 hrest
        exact .inl ⟨e, by simpa using hfirst, rfl⟩
  · rintro (⟨e, hfirst, rfl⟩ | ⟨first, b, rest, rfl, hfirst, hrest⟩)
    · exact ⟨record, .error e, [], by simp, hfirst, course_done.2 ⟨rfl, rfl⟩⟩
    · exact ⟨first, .ok b, rest, rfl, hfirst, hrest⟩

theorem course_seq_ok {m : ExceptT ε (Dialogue Answer) β} {f : β → ExceptT ε (Dialogue Answer) α}
    {a : α} :
    Course (m >>= f).run record (.ok a) ↔
      ∃ first b rest, record = first ++ rest ∧ Course m.run first (.ok b) ∧
        Course (f b).run rest (.ok a) := by
  rw [course_seq]
  refine or_iff_right ?_
  rintro ⟨e, -, he⟩
  cases he

@[simp] theorem course_mapped {m : ExceptT ε (Dialogue Answer) β} {f : β → α} :
    Course (f <$> m).run record result ↔ ∃ x, Course m.run record x ∧ result = x.map f := by
  rw [ExceptT.run_map, course_map]

@[simp] theorem course_lift {d : Dialogue Answer α} :
    Course (ExceptT.lift d : ExceptT ε (Dialogue Answer) α).run record result ↔
      ∃ a, Course d record a ∧ result = .ok a := by
  rw [ExceptT.run_lift, course_map]

/-- A part that cannot fail is gone through. -/
theorem course_lift_seq {d : Dialogue Answer β} {f : β → ExceptT ε (Dialogue Answer) α} :
    Course (ExceptT.lift d >>= f).run record result ↔
      ∃ first b rest, record = first ++ rest ∧ Course d first b ∧ Course (f b).run rest result := by
  rw [ExceptT.run_bind_lift]
  exact course_bind

@[simp] theorem course_adapt {m : ExceptT ε' (Dialogue Answer) α} {f : ε' → ε} :
    Course (ExceptT.adapt f m).run record result ↔
      ∃ x, Course m.run record x ∧ result = x.mapError f := by
  rw [ExceptT.run_adapt, course_map]

end

end Dialogue
end Reflash
