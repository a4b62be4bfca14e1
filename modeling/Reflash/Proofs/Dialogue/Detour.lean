import Reflash.Proofs.Dialogue.Asks

/-!
# Dialogue.Detour — dialogues that differ by questions on the side

One dialogue may ask more than another one, and still come to the same, as long as what it asks on
the side is answered as expected and does not change how the surroundings answer anything else.

* `Dialogue.Indifferent` — surroundings to which questions on the side make no difference;
* `Dialogue.Detour` — in such surroundings the first dialogue runs like the second one, questions on
  the side apart;
* `Detour.same`, `Detour.around`, `Detour.bind` — a dialogue by itself, a part that is nothing but
  questions on the side, and sequences.
-/

namespace Reflash
namespace Dialogue

variable {Q : Type} {Answer : Q → Type} {α β γ ε ε' σ : Type}

/-- Related states differ by nothing but what was asked on the side. -/
structure Indifferent (side : Q → Bool) (related : σ → σ → Prop) (w : Surroundings Answer σ) :
    Prop where
  answers : ∀ {s s' : σ} (q : Q), related s s' → side q = false → (w s q).1 = (w s' q).1
  keeps : ∀ {s s' : σ} (q : Q), related s s' → side q = false → related (w s q).2 (w s' q).2
  overlooks : ∀ {s s' : σ} (q : Q), related s s' → side q → related (w s q).2 s'

/-- What is left of a record without the questions on the side. -/
def mainRecord (side : Q → Bool) (record : List (Exchange Answer)) : List (Exchange Answer) :=
  record.filter fun x => !side x.1

structure Alike (side : Q → Bool) (related : σ → σ → Prop) (same : α → β → Prop)
    (o : Outcome Answer σ α) (o' : Outcome Answer σ β) : Prop where
  result : same o.result o'.result
  record : mainRecord side o.record = o'.record
  state : related o.state o'.state

def Detour (side : Q → Bool) (related : σ → σ → Prop) (w : Surroundings Answer σ)
    (expects : Exchange Answer → Prop) (same : α → β → Prop) (d : Dialogue Answer α)
    (d' : Dialogue Answer β) : Prop :=
  ∀ ⦃s s' : σ⦄, related s s' → (∀ x ∈ (d.run w s).record, side x.1 → expects x) →
    Alike side related same (d.run w s) (d'.run w s')

/-- The same success, or failures that are as good as the same. -/
inductive Agree (same : ε → ε → Prop) : Except ε α → Except ε α → Prop where
  | ok (a : α) : Agree same (.ok a) (.ok a)
  | error {e e' : ε} (h : same e e') : Agree same (.error e) (.error e')

theorem Agree.refl {same : ε → ε → Prop} (h : ∀ e, same e e) (x : Except ε α) : Agree same x x := by
  cases x with
  | ok a => exact .ok a
  | error e => exact .error (h e)

section

variable {side : Q → Bool} {related : σ → σ → Prop} {w : Surroundings Answer σ}
  {expects : Exchange Answer → Prop} {record rest : List (Exchange Answer)}

@[simp] theorem mainRecord_append :
    mainRecord side (record ++ rest) = mainRecord side record ++ mainRecord side rest :=
  List.filter_append record rest

theorem mainRecord_cons_of_main {x : Exchange Answer} (h : side x.1 = false) :
    mainRecord side (x :: record) = x :: mainRecord side record :=
  List.filter_cons_of_pos (by simp [h])

theorem mainRecord_eq_nil (h : ∀ x ∈ record, side x.1) : mainRecord side record = [] :=
  List.filter_eq_nil_iff.2 fun x hx => by simp [h x hx]

/-- Questions on the side may be asked at any time. -/
theorem Indifferent.overlooks_run (hw : Indifferent side related w) {d : Dialogue Answer α}
    {s s' : σ} (hs : related s s') (hd : ∀ x ∈ (d.run w s).record, side x.1) :
    related (d.run w s).state s' := by
  induction d generalizing s with
  | done a => exact hs
  | ask q next ih =>
      have hq : side q := hd ⟨q, (w s q).1⟩ List.mem_cons_self
      exact ih (w s q).1 (hw.overlooks q hs hq) fun x hx => hd x (List.mem_cons_of_mem _ hx)

namespace Detour

/-! ## Rules -/

theorem same (hw : Indifferent side related w) {same : α → α → Prop} (hsame : ∀ a, same a a)
    {d : Dialogue Answer α} (hd : Asks (fun q => side q = false) d) :
    Detour side related w expects same d d := by
  intro s s' hs hexpected
  induction d generalizing s s' with
  | done a => exact ⟨hsame a, rfl, hs⟩
  | ask q next ih =>
      have hq : side q = false :=
        hd (course_run w (.ask q next) s) ⟨q, (w s q).1⟩ List.mem_cons_self
      have hanswer := hw.answers q hs hq
      have hrest := ih (w s q).1 (fun _ _ h x hx => hd (.ask q _ h) x (List.mem_cons_of_mem _ hx))
        (hw.keeps q hs hq) fun x hx => hexpected x (List.mem_cons_of_mem _ hx)
      simp only [run]
      rw [hanswer] at hrest ⊢
      exact ⟨hrest.result, by rw [mainRecord_cons_of_main hq, hrest.record], hrest.state⟩

theorem done {same : α → β → Prop} {a : α} {b : β} (h : same a b) :
    Detour side related w expects same (.done a) (.done b) :=
  fun _ _ hs _ => ⟨h, rfl, hs⟩

/-- A part that only asks questions on the side, and then the rest. -/
theorem around (hw : Indifferent side related w) {same : α → γ → Prop} {d : Dialogue Answer β}
    {b : β} {f : β → Dialogue Answer α} {d' : Dialogue Answer γ} (hd : Asks (fun q => side q) d)
    (hleads : LeadsTo expects d b) (hf : Detour side related w expects same (f b) d') :
    Detour side related w expects same (d >>= f) d' := by
  intro s s' hs hexpected
  rw [run_bind] at hexpected ⊢
  have hcourse := course_run w d s
  have hside := hd hcourse
  obtain hb : (d.run w s).result = b :=
    hleads hcourse fun x hx => hexpected x (List.mem_append_left _ hx) (hside x hx)
  have hrest := hf (hw.overlooks_run hs hside) fun x hx =>
    hexpected x (List.mem_append_right _ (by rwa [hb]))
  simp only [hb]
  exact ⟨hrest.result, by simp [mainRecord_eq_nil hside, hrest.record], hrest.state⟩

theorem aside (hw : Indifferent side related w) {same : α → β → Prop} {d : Dialogue Answer α}
    {a : α} {b : β} (hd : Asks (fun q => side q) d) (hleads : LeadsTo expects d a) (h : same a b) :
    Detour side related w expects same d (.done b) := by
  rw [← bind_done d]
  exact around hw hd hleads (done h)

theorem bind {δ : Type} {same : α → β → Prop} {same' : γ → δ → Prop} {d : Dialogue Answer α}
    {d' : Dialogue Answer β} {f : α → Dialogue Answer γ} {f' : β → Dialogue Answer δ}
    (hd : Detour side related w expects same d d')
    (hf : ∀ a b, same a b → Detour side related w expects same' (f a) (f' b)) :
    Detour side related w expects same' (d >>= f) (d' >>= f') := by
  intro s s' hs hexpected
  rw [run_bind] at hexpected ⊢
  rw [run_bind]
  have hfirst := hd hs fun x hx => hexpected x (List.mem_append_left _ hx)
  have hrest := hf _ _ hfirst.result hfirst.state fun x hx =>
    hexpected x (List.mem_append_right _ hx)
  exact ⟨hrest.result, by simp [hfirst.record, hrest.record], hrest.state⟩

/-! ## Dialogues that may fail -/

section

variable {same : ε → ε → Prop} {same' : ε' → ε' → Prop}

theorem seq {m m' : ExceptT ε (Dialogue Answer) α} {f f' : α → ExceptT ε (Dialogue Answer) β}
    (hm : Detour side related w expects (Agree same) m.run m'.run)
    (hf : ∀ a, Detour side related w expects (Agree same) (f a).run (f' a).run) :
    Detour side related w expects (Agree same) (m >>= f).run (m' >>= f').run := by
  rw [ExceptT.run_bind, ExceptT.run_bind]
  refine hm.bind fun x x' hx => ?_
  cases hx with
  | ok a => exact hf a
  | error he => exact .done (.error he)

theorem aroundSeq (hw : Indifferent side related w) {m : ExceptT ε (Dialogue Answer) β} {b : β}
    {f : β → ExceptT ε (Dialogue Answer) α} {m' : ExceptT ε (Dialogue Answer) α}
    (hm : Asks (fun q => side q) m.run) (hleads : LeadsTo expects m.run (.ok b))
    (hf : Detour side related w expects (Agree same) (f b).run m'.run) :
    Detour side related w expects (Agree same) (m >>= f).run m'.run := by
  rw [ExceptT.run_bind]
  exact around hw hm hleads hf

theorem adapt {m m' : ExceptT ε (Dialogue Answer) α} {f : ε → ε'}
    (hm : Detour side related w expects (Agree same) m.run m'.run)
    (hf : ∀ e e', same e e' → same' (f e) (f e')) :
    Detour side related w expects (Agree same')
      (ExceptT.adapt f m).run (ExceptT.adapt f m').run := by
  rw [ExceptT.run_adapt, ExceptT.run_adapt, ← bind_pure_comp, ← bind_pure_comp]
  refine hm.bind fun x x' hx => ?_
  cases hx with
  | ok a => exact .done (.ok a)
  | error he => exact .done (.error (hf _ _ he))

end

end Detour
end

end Dialogue
end Reflash
