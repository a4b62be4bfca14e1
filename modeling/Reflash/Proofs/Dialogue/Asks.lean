import Reflash.Proofs.Dialogue.Course

/-!
# Dialogue.Asks — what a dialogue asks, and what it leads to

* `Dialogue.Asks p d` — whatever the answers are, `d` asks only questions of one kind;
* `Dialogue.LeadsTo expects d a` — if every answer is one that is expected, `d` ends with `a`.

Both speak of all courses, and both go along the text of a dialogue.
-/

namespace Reflash
namespace Dialogue

variable {Q : Type} {Answer : Q → Type} {α β ε ε' : Type} {p : Q → Prop}
  {expects : Exchange Answer → Prop}

def Asks (p : Q → Prop) (d : Dialogue Answer α) : Prop :=
  ∀ ⦃record : List (Exchange Answer)⦄ ⦃a : α⦄, Course d record a → ∀ x ∈ record, p x.1

def LeadsTo (expects : Exchange Answer → Prop) (d : Dialogue Answer α) (a : α) : Prop :=
  ∀ ⦃record : List (Exchange Answer)⦄ ⦃b : α⦄, Course d record b → (∀ x ∈ record, expects x) → b = a

/-! ## What is asked -/

namespace Asks

theorem mono {p' : Q → Prop} {d : Dialogue Answer α} (h : Asks p d) (hp : ∀ q, p q → p' q) :
    Asks p' d :=
  fun _ _ hcourse x hx => hp x.1 (h hcourse x hx)

theorem done (a : α) : Asks p (.done a : Dialogue Answer α) := by
  intro record b h x hx
  rw [(course_done.1 h).1] at hx
  cases hx

theorem query {q : Q} (hq : p q) : Asks p (query q : Dialogue Answer (Answer q)) := by
  intro record a h x hx
  obtain rfl := course_query.1 h
  obtain rfl := List.mem_singleton.1 hx
  exact hq

theorem bind {d : Dialogue Answer β} {f : β → Dialogue Answer α} (hd : Asks p d)
    (hf : ∀ b, Asks p (f b)) : Asks p (d >>= f) := by
  intro record a h x hx
  obtain ⟨first, b, rest, rfl, hfirst, hrest⟩ := course_bind.1 h
  rcases List.mem_append.1 hx with hx | hx
  · exact hd hfirst x hx
  · exact hf b hrest x hx

theorem map {d : Dialogue Answer β} {f : β → α} (hd : Asks p d) : Asks p (f <$> d) := by
  rw [← bind_pure_comp]
  exact hd.bind fun b => .done (f b)

theorem seq {m : ExceptT ε (Dialogue Answer) β} {f : β → ExceptT ε (Dialogue Answer) α}
    (hm : Asks p m.run) (hf : ∀ b, Asks p (f b).run) : Asks p (m >>= f).run := by
  rw [ExceptT.run_bind]
  refine hm.bind fun x => ?_
  cases x with
  | ok b => exact hf b
  | error e => exact .done _

theorem adapt {m : ExceptT ε' (Dialogue Answer) α} {f : ε' → ε} (hm : Asks p m.run) :
    Asks p (ExceptT.adapt f m).run := by
  rw [ExceptT.run_adapt]
  exact hm.map

end Asks

/-! ## What comes of it -/

namespace LeadsTo

theorem pure (a : α) : LeadsTo expects (Pure.pure a : ExceptT ε (Dialogue Answer) α).run (.ok a) :=
  fun _ _ h _ => (course_pure.1 h).2

theorem ofExcept (x : Except ε α) :
    LeadsTo expects (ExceptT.mk (Pure.pure x) : ExceptT ε (Dialogue Answer) α).run x :=
  fun _ _ h _ => (course_mk_pure.1 h).2

/-- The result of a question is read off its answer. -/
theorem asking {q : Q} {f : Answer q → α} {a : α}
    (h : ∀ answer, expects ⟨q, answer⟩ → f answer = a) :
    LeadsTo expects (f <$> Dialogue.query q : Dialogue Answer α) a := by
  intro record b hcourse hexpected
  obtain ⟨answer, hanswer, rfl⟩ := course_map.1 hcourse
  obtain rfl := course_query.1 hanswer
  exact h answer (hexpected _ (List.mem_singleton.2 rfl))

theorem query {q : Q} {a : Answer q} (h : ∀ answer, expects ⟨q, answer⟩ → answer = a) :
    LeadsTo expects (Dialogue.query q : Dialogue Answer (Answer q)) a := by
  intro record answer hcourse hexpected
  obtain rfl := course_query.1 hcourse
  exact h answer (hexpected _ (List.mem_singleton.2 rfl))

variable {m : ExceptT ε (Dialogue Answer) β} {f : β → ExceptT ε (Dialogue Answer) α} {b : β}
  {e : ε}

theorem seq {x : Except ε α} (hm : LeadsTo expects m.run (.ok b))
    (hf : LeadsTo expects (f b).run x) :
    LeadsTo expects (m >>= f).run x := by
  intro record result h hexpected
  rcases course_seq.1 h with ⟨e, hfailed, -⟩ | ⟨first, b', rest, rfl, hfirst, hrest⟩
  · cases hm hfailed hexpected
  · cases hm hfirst fun x hx => hexpected x (List.mem_append_left _ hx)
    exact hf hrest fun x hx => hexpected x (List.mem_append_right _ hx)

theorem stop (hm : LeadsTo expects m.run (.error e)) :
    LeadsTo expects (m >>= f).run (.error e) := by
  intro record result h hexpected
  rcases course_seq.1 h with ⟨e', hfailed, rfl⟩ | ⟨first, b', rest, rfl, hfirst, -⟩
  · cases hm hfailed hexpected
    rfl
  · cases hm hfirst fun x hx => hexpected x (List.mem_append_left _ hx)

/-- One part after the other leads to one result after the other. -/
theorem andThen {x : Except ε β} {y : β → Except ε α} (hm : LeadsTo expects m.run x)
    (hf : ∀ b, x = .ok b → LeadsTo expects (f b).run (y b)) :
    LeadsTo expects (m >>= f).run (x >>= y) := by
  cases x with
  | ok b => exact hm.seq (hf b rfl)
  | error e => exact hm.stop

theorem mapped {g : β → α} (hm : LeadsTo expects m.run (.ok b)) :
    LeadsTo expects (g <$> m).run (.ok (g b)) := by
  rw [← bind_pure_comp]
  exact hm.seq (.pure (g b))

end LeadsTo

end Dialogue
end Reflash
