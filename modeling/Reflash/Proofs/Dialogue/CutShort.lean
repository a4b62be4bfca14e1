import Reflash.Proofs.Dialogue.Course

/-!
# Dialogue.CutShort — dialogues that differ only in where they stop

A dialogue is another one *cut short* if it asks the same questions in the same order, but may give
up where the other one goes on.  What it still asks after giving up is restricted to last questions.

* `Dialogue.Ends` — only last questions are asked, and then there is an error for which to stop;
* `Dialogue.CutShort` — the same dialogue, up to the places where it ends early;
* `CutShort.bind` — the one rule that passes it along sequences, with its cases for dialogues that
  may fail;
* `CutShort.run` — in the same surroundings, the records agree up to the end.
-/

namespace Reflash
namespace Dialogue

variable {Q : Type} {Answer : Q → Type} {α β ε ε' σ : Type}
  {last : Q → Prop} {stops : ε → Prop} {stops' : ε' → Prop}

inductive Ends (last : Q → Prop) (stops : ε → Prop) : Dialogue Answer (Except ε α) → Prop where
  | failed {e : ε} (h : stops e) : Ends last stops (.done (.error e))
  | ask {q : Q} {next : Answer q → Dialogue Answer (Except ε α)} (hlast : last q)
      (h : ∀ answer, Ends last stops (next answer)) : Ends last stops (.ask q next)

inductive CutShort (last : Q → Prop) (stops : ε → Prop) :
    Dialogue Answer (Except ε α) → Dialogue Answer (Except ε α) → Prop where
  | same (d : Dialogue Answer (Except ε α)) : CutShort last stops d d
  | ask (q : Q) {next next' : Answer q → Dialogue Answer (Except ε α)}
      (h : ∀ answer, CutShort last stops (next answer) (next' answer)) :
      CutShort last stops (.ask q next) (.ask q next')
  | cut {d d' : Dialogue Answer (Except ε α)} (h : Ends last stops d) : CutShort last stops d d'

/-! ## Sequences -/

theorem Ends.bind {d : Dialogue Answer (Except ε α)}
    {f : Except ε α → Dialogue Answer (Except ε' β)} (h : Ends last stops d)
    (hf : ∀ e, stops e → Ends last stops' (f (.error e))) : Ends last stops' (d >>= f) := by
  induction h with
  | failed he => exact hf _ he
  | ask hlast _ ih => exact .ask hlast ih

/-- What follows has to end as well after an error for which the first part may stop early. -/
theorem CutShort.bind {d d' : Dialogue Answer (Except ε α)}
    {f f' : Except ε α → Dialogue Answer (Except ε' β)} (h : CutShort last stops d d')
    (hf : ∀ x, CutShort last stops' (f x) (f' x))
    (hstop : ∀ e, stops e → Ends last stops' (f (.error e))) :
    CutShort last stops' (d >>= f) (d' >>= f') := by
  induction h with
  | same d =>
      -- The first parts are the same dialogue, up to whose end nothing is cut.
      induction d with
      | done x => exact hf x
      | ask q next ih => exact .ask q ih
  | ask q _ ih => exact .ask q ih
  | cut h => exact .cut (h.bind hstop)

namespace CutShort

theorem seq {m m' : ExceptT ε (Dialogue Answer) α} {f f' : α → ExceptT ε (Dialogue Answer) β}
    (h : CutShort last stops m.run m'.run) (hf : ∀ a, CutShort last stops (f a).run (f' a).run) :
    CutShort last stops (m >>= f).run (m' >>= f').run := by
  rw [ExceptT.run_bind, ExceptT.run_bind]
  refine h.bind ?_ fun e he => .failed he
  -- What follows depends on the result; after an error there is nothing that could differ.
  intro x
  cases x with
  | ok a => exact hf a
  | error e => exact .same _

theorem map {m m' : ExceptT ε (Dialogue Answer) α} {f : α → β}
    (h : CutShort last stops m.run m'.run) :
    CutShort last stops (f <$> m).run (f <$> m').run := by
  rw [← bind_pure_comp, ← bind_pure_comp]
  exact h.seq fun a => .same _

theorem adapt {m m' : ExceptT ε (Dialogue Answer) α} {f : ε → ε'}
    (h : CutShort last stops m.run m'.run) (hf : ∀ e, stops e → stops' (f e)) :
    CutShort last stops' (ExceptT.adapt f m).run (ExceptT.adapt f m').run := by
  rw [ExceptT.run_adapt, ExceptT.run_adapt, ← bind_pure_comp, ← bind_pure_comp]
  exact h.bind (fun x => .same _) fun e he => .failed (hf e he)

end CutShort

/-! ## Runs -/

theorem Ends.run {d : Dialogue Answer (Except ε α)} (h : Ends last stops d)
    (w : Surroundings Answer σ) (s : σ) :
    (∃ e, (d.run w s).result = .error e ∧ stops e) ∧ ∀ x ∈ (d.run w s).record, last x.1 := by
  induction h generalizing s with
  | @failed e he => exact ⟨⟨e, rfl, he⟩, nofun⟩
  | @ask q next hlast _ ih =>
      obtain ⟨hfails, hrest⟩ := ih (w s q).1 (w s q).2
      refine ⟨hfails, ?_⟩
      intro x hx
      rcases List.mem_cons.1 hx with rfl | hx
      · exact hlast
      · exact hrest x hx

/-- Both dialogues run in the same way, or one of them stops and the other goes on from there. -/
theorem CutShort.run {d d' : Dialogue Answer (Except ε α)} (h : CutShort last stops d d')
    (w : Surroundings Answer σ) (s : σ) :
    d.run w s = d'.run w s ∨
      ∃ e common ends rest, (d.run w s).result = .error e ∧ stops e ∧
        (d.run w s).record = common ++ ends ∧ (d'.run w s).record = common ++ rest ∧
        ∀ x ∈ ends, last x.1 := by
  -- By induction on the relation: a question in common gets the same answer in both runs.
  induction h generalizing s with
  | same d => exact .inl rfl
  | ask q _ ih =>
      rcases ih (w s q).1 (w s q).2 with heq |
        ⟨e, common, ends, rest, he, hstops, hrecord, hrecord', hlast⟩
      · exact .inl (by simp only [Dialogue.run, heq])
      · refine .inr ⟨e, ⟨q, (w s q).1⟩ :: common, ends, rest, he, hstops, ?_, ?_, hlast⟩
        · exact congrArg (List.cons _) hrecord
        · exact congrArg (List.cons _) hrecord'
  | cut h =>
      obtain ⟨⟨e, he, hstops⟩, hlast⟩ := h.run w s
      exact .inr ⟨e, [], _, _, he, hstops, rfl, rfl, hlast⟩

end Dialogue
end Reflash
