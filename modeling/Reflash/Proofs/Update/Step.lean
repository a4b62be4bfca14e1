import Reflash.Proofs.Dialogue.Course
import Reflash.Proofs.Update.Record

/-!
# Update.Step — what every part of a step keeps to

A part of an update that runs within one step

* asks only questions of some kind, for example those that have their place in the step,
* ends with the refusal when the operator refuses something, and
* fails with errors of the step, with a warning, or with what the operator's refusal said.

`WithinStep` says all three, and the rules below pass it from the pieces of a part to the part.
-/

namespace Reflash
namespace Update

open Dialogue

variable {α β : Type} {p : Question → Prop} {step : UpdateStep}

/-- A refused confirmation is the last exchange, and its error is the result. -/
def Heeds (record : Record) (result : Except UpdateError α) : Prop :=
  ∀ before c e after, record = before ++ refused c e :: after → after = [] ∧ result = .error e

/-- Warnings are raised before anything is done to the device, or right before flashing. -/
def MayWarn (step : UpdateStep) : Prop :=
  step = .versionCheck ∨ step = .imageValidation

instance (step : UpdateStep) : Decidable (MayWarn step) :=
  inferInstanceAs (Decidable (_ ∨ _))

/-- Where an error that ends a step comes from. -/
inductive Cause (step : UpdateStep) (record : Record) (e : UpdateError) : Prop where
  | own (h : e.step? = some step)
  | warning (w : Warning) (h : e = .warning w) (hstep : MayWarn step)
  | refusal (c : Confirmation) (h : refused c e ∈ record)

theorem Cause.mono {record record' : Record} {e : UpdateError} (h : Cause step record e)
    (hsub : record ⊆ record') : Cause step record' e := by
  cases h with
  | own h => exact .own h
  | warning w h hstep => exact .warning w h hstep
  | refusal c h => exact .refusal c (hsub h)

/-- A refusal may say anything; all other failures of a step are its own or warnings. -/
theorem Cause.step?_ne {record : Record} {e : UpdateError} (h : Cause step record e)
    (hstep : step ≠ .finalizationWait) :
    e.step? ≠ some .finalizationWait ∨ ∃ c, refused c e ∈ record := by
  cases h with
  | own h =>
      refine .inl ?_
      rw [h]
      simpa using hstep
  | warning w h _ =>
      refine .inl ?_
      simp [h, UpdateError.step?]
  | refusal c h => exact .inr ⟨c, h⟩

structure WithinStep (p : Question → Prop) (step : UpdateStep) (m : StepM α) : Prop where
  asks : ∀ {record result}, Course m.run record result → ∀ x ∈ record, p x.1
  heeds : ∀ {record result}, Course m.run record result → Heeds record result
  blames : ∀ {record e}, Course m.run record (.error e) → Cause step record e

/-! ## Refusals in parts of a record -/

/-- An exchange of a joined record is one of the first part or one of the second. -/
theorem append_eq_split {first rest before after : Record} {x : Exchange Question.Answer}
    (h : first ++ rest = before ++ x :: after) :
    (∃ tail, first = before ++ x :: tail ∧ after = tail ++ rest) ∨
      ∃ tail, before = first ++ tail ∧ rest = tail ++ x :: after := by
  rcases List.append_eq_append_iff.1 h with ⟨tail, rfl, hrest⟩ | ⟨tail, rfl, htail⟩
  · exact .inr ⟨tail, rfl, hrest⟩
  · cases tail with
    | nil =>
        exact .inr ⟨[], by simp, by simpa using htail.symm⟩
    | cons y tail =>
        obtain ⟨rfl, rfl⟩ := List.cons_eq_cons.1 htail
        exact .inl ⟨tail, rfl, rfl⟩

/-- What is asked only once has one place. -/
theorem split_unique {f : Question → Bool} {before before' after after' : Record}
    {x y : Exchange Question.Answer} (h : before ++ x :: after = before' ++ y :: after')
    (honce : timesAsked f (before ++ x :: after) ≤ 1) (hx : f x.1) (hy : f y.1) :
    before = before' ∧ x = y ∧ after = after' := by
  -- If one of the two places came before the other, there would be two such exchanges.
  rcases append_eq_split h with ⟨tail, rfl, -⟩ | ⟨tail, rfl, hrest⟩
  · simp [hx, hy] at honce
    omega
  · cases tail with
    | nil =>
        obtain ⟨rfl, rfl⟩ := List.cons_eq_cons.1 hrest
        exact ⟨by simp, rfl, rfl⟩
    | cons z tail =>
        obtain ⟨rfl, rfl⟩ := List.cons_eq_cons.1 hrest
        simp [hx, hy] at honce
        omega

theorem heeds_of_quiet {record : Record} {result : Except UpdateError α}
    (h : ∀ x ∈ record, x.1.isConfirm = false) : Heeds record result := by
  rintro before c e after rfl
  have hquiet := h (refused c e) (by simp)
  simp [refused, Question.isConfirm] at hquiet

theorem not_mem_of_heeds_ok {record : Record} {a : α}
    (h : Heeds record (.ok a : Except UpdateError α)) (c : Confirmation) (e : UpdateError) :
    refused c e ∉ record := by
  intro hmem
  obtain ⟨before, after, rfl⟩ := List.append_of_mem hmem
  cases (h before c e after rfl).2

/-! ## Single questions -/

theorem course_tell {n : Notice} {record : Record} {result : Except UpdateError Unit} :
    Course (tell n).run record result ↔ record = [told n] ∧ result = .ok () := by
  constructor
  · intro h
    obtain ⟨answer, hanswer, rfl⟩ := course_lift.1 h
    exact ⟨course_query.1 hanswer, rfl⟩
  · rintro ⟨rfl, rfl⟩
    exact course_lift.2 ⟨(), course_query.2 rfl, rfl⟩

theorem course_ask_seq {q : Question} {f : q.Answer → StepM α} {record : Record}
    {result : Except UpdateError α} :
    Course (ask q >>= f).run record result ↔
      ∃ answer rest, record = ⟨q, answer⟩ :: rest ∧ Course (f answer).run rest result := by
  rw [ask, course_lift_seq]
  simp only [course_query]
  constructor
  · rintro ⟨_, answer, rest, rfl, rfl, hrest⟩
    exact ⟨answer, rest, rfl, hrest⟩
  · rintro ⟨answer, rest, rfl, hrest⟩
    exact ⟨[⟨q, answer⟩], answer, rest, rfl, rfl, hrest⟩

theorem course_tell_seq {n : Notice} {f : Unit → StepM α} {record : Record}
    {result : Except UpdateError α} :
    Course (tell n >>= f).run record result ↔
      ∃ rest, record = told n :: rest ∧ Course (f ()).run rest result := by
  rw [tell, course_ask_seq]
  constructor
  · rintro ⟨answer, rest, rfl, hrest⟩
    exact ⟨rest, rfl, hrest⟩
  · rintro ⟨rest, rfl, hrest⟩
    exact ⟨(), rest, rfl, hrest⟩

theorem course_confirm {c : Confirmation} {record : Record} {result : Except UpdateError Unit} :
    Course (confirm c).run record result ↔ record = [⟨.confirm c, result⟩] :=
  course_query

theorem course_ofExcept {x : Except UpdateError α} {record : Record}
    {result : Except UpdateError α} :
    Course (ExceptT.mk (pure x) : StepM α).run record result ↔ record = [] ∧ result = x :=
  course_mk_pure

/-! ## What is done in any case -/

theorem course_thenAlways {ε : Type} {m : ExceptT ε (Dialogue Question.Answer) α}
    {last : Dialogue Question.Answer Unit} {record : Record} {result : Except ε α} :
    Course (thenAlways m last).run record result ↔
      ∃ first rest, record = first ++ rest ∧ Course m.run first result ∧ Course last rest () := by
  rw [thenAlways, ExceptT.run_mk, course_bind]
  constructor
  · rintro ⟨first, x, _, rfl, hfirst, hlast⟩
    obtain ⟨rest, u, _, rfl, hrest, hresult⟩ := course_bind.1 hlast
    obtain ⟨rfl, rfl⟩ := course_done.1 hresult
    exact ⟨first, rest, by simp, hfirst, hrest⟩
  · rintro ⟨first, rest, rfl, hfirst, hrest⟩
    exact ⟨first, result, rest, rfl, hfirst,
      course_bind.2 ⟨rest, (), [], by simp, hrest, course_done.2 ⟨rfl, rfl⟩⟩⟩

theorem course_onFailure {ε : Type} {m : ExceptT ε (Dialogue Question.Answer) α}
    {last : Dialogue Question.Answer Unit} {record : Record} {result : Except ε α} :
    Course (onFailure m last).run record result ↔
      (∃ a, result = .ok a ∧ Course m.run record (.ok a)) ∨
        ∃ e first rest, result = .error e ∧ record = first ++ rest ∧
          Course m.run first (.error e) ∧ Course last rest () := by
  rw [onFailure, ExceptT.run_mk, course_bind]
  constructor
  · rintro ⟨first, x, rest, rfl, hfirst, hrest⟩
    cases x with
    | ok a =>
        obtain ⟨rfl, rfl⟩ := course_done.1 hrest
        exact .inl ⟨a, rfl, by simpa using hfirst⟩
    | error e =>
        obtain ⟨closing, u, _, rfl, hclosing, hresult⟩ := course_bind.1 hrest
        obtain ⟨rfl, rfl⟩ := course_done.1 hresult
        exact .inr ⟨e, first, closing, rfl, by simp, hfirst, hclosing⟩
  · rintro (⟨a, rfl, ha⟩ | ⟨e, first, rest, rfl, rfl, hfirst, hrest⟩)
    · exact ⟨record, .ok a, [], by simp, ha, course_done.2 ⟨rfl, rfl⟩⟩
    · exact ⟨first, .error e, rest, rfl, hfirst,
        course_bind.2 ⟨rest, (), [], by simp, hrest, course_done.2 ⟨rfl, rfl⟩⟩⟩

/-- Letting go: whatever the answer is. -/
theorem course_ignored {q : Question} {record : Record} {u : Unit} :
    Course (do let _ ← query q) record u ↔ ∃ answer, record = [⟨q, answer⟩] := by
  rw [course_bind]
  constructor
  · rintro ⟨first, answer, rest, rfl, hfirst, hrest⟩
    obtain ⟨rfl, -⟩ := course_done.1 hrest
    exact ⟨answer, by simpa using course_query.1 hfirst⟩
  · rintro ⟨answer, rfl⟩
    exact ⟨_, answer, [], rfl, course_query.2 rfl, course_done.2 ⟨rfl, rfl⟩⟩

theorem course_closeDevice {role : DeviceRole} {record : Record} {u : Unit} :
    Course (closeDevice role) record u ↔ ∃ answer, record = [⟨.device role .close, answer⟩] :=
  course_ignored

theorem course_closeBootloader {role : BootloaderRole} {record : Record} {u : Unit} :
    Course (closeBootloader role) record u ↔
      ∃ answer, record = [⟨.bootloader role .close, answer⟩] :=
  course_ignored

theorem course_inStep {m : StepM α} {record : Record} {result : Except UpdateFailure α} :
    Course (inStep step m).run record result ↔
      ∃ rest x, record = told (.enter step) :: rest ∧ Course m.run rest x ∧
        result = x.mapError (UpdateFailure.mk step) := by
  rw [inStep, course_adapt]
  constructor
  · rintro ⟨x, hx, rfl⟩
    obtain ⟨rest, rfl, hrest⟩ := course_tell_seq.1 hx
    exact ⟨rest, x, rfl, hrest, rfl⟩
  · rintro ⟨rest, x, rfl, hrest, rfl⟩
    exact ⟨x, course_tell_seq.2 ⟨rest, rfl, hrest⟩, rfl⟩

/-! ## Rules -/

namespace WithinStep

/-- A part without confirmations. -/
theorem quiet {m : StepM α}
    (hasks : ∀ {record result}, Course m.run record result →
      ∀ x ∈ record, p x.1 ∧ x.1.isConfirm = false)
    (hfails : ∀ {record e}, Course m.run record (.error e) → e.step? = some step) :
    WithinStep p step m where
  asks := fun h x hx => (hasks h x hx).1
  heeds := fun h => heeds_of_quiet fun x hx => (hasks h x hx).2
  blames := fun h => .own (hfails h)

theorem pure (a : α) : WithinStep p step (pure a : StepM α) := by
  refine quiet ?_ ?_
  · rintro record result h
    obtain ⟨rfl, rfl⟩ := course_pure.1 h
    simp
  · rintro record e h
    cases (course_pure.1 h).2

theorem ofExcept {x : Except UpdateError α} (hx : ∀ e, x = .error e → e.step? = some step) :
    WithinStep p step (ExceptT.mk (Pure.pure x) : StepM α) := by
  refine quiet ?_ ?_
  · rintro record result h
    obtain ⟨rfl, rfl⟩ := course_mk_pure.1 h
    simp
  · rintro record e h
    exact hx e (course_mk_pure.1 h).2.symm

/-- Failures of something else, wrapped as failures of the step. -/
theorem ofMapError {ε : Type} {x : Except ε α} {wrap : ε → UpdateError}
    (hwrap : ∀ e, (wrap e).step? = some step) :
    WithinStep p step (ExceptT.mk (Pure.pure (x.mapError wrap)) : StepM α) := by
  refine ofExcept ?_
  intro e he
  obtain ⟨cause, -, rfl⟩ := mapError_eq_error.1 he
  exact hwrap cause

theorem throw {e : UpdateError} (he : e.step? = some step) :
    WithinStep p step (throw e : StepM α) :=
  ofExcept (x := .error e) (by rintro _ ⟨⟩; exact he)

theorem throwWarning (w : Warning) (hstep : MayWarn step) :
    WithinStep p step (MonadExcept.throw (UpdateError.warning w) : StepM α) where
  asks := fun h x hx => by simp [(course_throw.1 h).1] at hx
  heeds := fun h => heeds_of_quiet fun x hx => by simp [(course_throw.1 h).1] at hx
  blames := fun h => .warning w (by simpa using (course_throw.1 h).2) hstep

/-- A single question that is no confirmation. -/
theorem asking {q : Question} {f : q.Answer → Except UpdateError α} (hq : p q)
    (hquiet : q.isConfirm = false) (hf : ∀ answer e, f answer = .error e → e.step? = some step) :
    WithinStep p step (ExceptT.mk (f <$> query q) : StepM α) := by
  refine quiet ?_ ?_
  · rintro record result h
    obtain ⟨answer, hanswer, rfl⟩ := course_map.1 h
    obtain rfl := course_query.1 hanswer
    simpa using ⟨hq, hquiet⟩
  · rintro record e h
    obtain ⟨answer, -, he⟩ := course_map.1 h
    exact hf answer e he.symm

/-- A conversation without confirmations; its failures are wrapped. -/
theorem attempt {ε : Type} {wrap : ε → UpdateError} {d : Dialogue Question.Answer (Except ε α)}
    (hasks : ∀ {record answer}, Course d record answer →
      ∀ x ∈ record, p x.1 ∧ x.1.isConfirm = false)
    (hwrap : ∀ e, (wrap e).step? = some step) : WithinStep p step (attempt wrap d) := by
  refine quiet ?_ ?_
  · rintro record result h
    obtain ⟨answer, hanswer, rfl⟩ := course_map.1 h
    exact hasks hanswer
  · rintro record e h
    obtain ⟨answer, -, he⟩ := course_map.1 h
    obtain ⟨cause, -, rfl⟩ := mapError_eq_error.1 he.symm
    exact hwrap cause

theorem ask {q : Question} (hq : p q) (hquiet : q.isConfirm = false) :
    WithinStep p step (ask q) :=
  asking (f := .ok) hq hquiet (by simp)

theorem tell {n : Notice} (hn : p (.tell n)) : WithinStep p step (tell n) :=
  ask hn rfl

theorem confirm {c : Confirmation} (hc : p (.confirm c)) :
    WithinStep p step (confirm c) where
  asks := by
    intro record result h x hx
    obtain rfl := course_query.1 h
    obtain rfl := List.mem_singleton.1 hx
    exact hc
  heeds := by
    intro record result h before c' e after hsplit
    obtain rfl := course_query.1 h
    rcases List.append_eq_singleton_iff.1 hsplit.symm with ⟨-, hx⟩ | ⟨-, hx⟩
    · obtain ⟨hq, rfl⟩ := List.cons_eq_cons.1 hx
      cases hq
      exact ⟨rfl, rfl⟩
    · cases hx
  blames := by
    intro record e h
    obtain rfl := course_query.1 h
    exact .refusal c (by simp [refused])

theorem seq {m : StepM β} {f : β → StepM α} (hm : WithinStep p step m)
    (hf : ∀ b, WithinStep p step (f b)) : WithinStep p step (m >>= f) where
  asks := by
    intro record result h x hx
    rcases course_seq.1 h with ⟨e, hfirst, rfl⟩ | ⟨first, b, rest, rfl, hfirst, hrest⟩
    · exact hm.asks hfirst x hx
    · rcases List.mem_append.1 hx with hx | hx
      · exact hm.asks hfirst x hx
      · exact (hf b).asks hrest x hx
  heeds := by
    intro record result h before c e after hsplit
    rcases course_seq.1 h with ⟨e', hfirst, rfl⟩ | ⟨first, b, rest, rfl, hfirst, hrest⟩
    · obtain ⟨rfl, he⟩ := hm.heeds hfirst before c e after hsplit
      exact ⟨rfl, by cases he; rfl⟩
    · rcases append_eq_split hsplit with ⟨tail, rfl, rfl⟩ | ⟨tail, rfl, rfl⟩
      -- A part that succeeded was not refused anything.
      · cases (hm.heeds hfirst before c e tail rfl).2
      · exact (hf b).heeds hrest tail c e after rfl
  blames := by
    intro record e h
    rcases course_seq.1 h with ⟨e', hfirst, he⟩ | ⟨first, b, rest, rfl, hfirst, hrest⟩
    · cases he
      exact hm.blames hfirst
    · exact ((hf b).blames hrest).mono (List.subset_append_right _ _)

/-- What is done at the end in any case does not change why a part without confirmations failed. -/
theorem always {m : StepM α} {last : Dialogue Question.Answer Unit} (hm : WithinStep p step m)
    (hquiet : ∀ q, p q → q.isConfirm = false)
    (hlast : ∀ {record u}, Course last record u → ∀ x ∈ record, p x.1) :
    WithinStep p step (thenAlways m last) := by
  have asks : ∀ {record result}, Course (thenAlways m last).run record result →
      ∀ x ∈ record, p x.1 := by
    intro record result h x hx
    obtain ⟨first, rest, rfl, hfirst, hrest⟩ := course_thenAlways.1 h
    rcases List.mem_append.1 hx with hx | hx
    · exact hm.asks hfirst x hx
    · exact hlast hrest x hx
  -- The last exchanges may follow a failure, but they could not follow a refusal.
  refine ⟨asks, fun h => heeds_of_quiet fun x hx => hquiet _ (asks h x hx), ?_⟩
  intro record e h
  obtain ⟨first, rest, rfl, hfirst, -⟩ := course_thenAlways.1 h
  exact (hm.blames hfirst).mono (List.subset_append_left _ _)

theorem map {m : StepM β} {f : β → α} (hm : WithinStep p step m) :
    WithinStep p step (f <$> m) := by
  rw [← bind_pure_comp]
  exact .seq hm fun b => .pure (f b)

theorem timesAsked_eq_zero {m : StepM α} {record : Record} {result : Except UpdateError α}
    {f : Question → Bool} (hm : WithinStep p step m) (h : Course m.run record result)
    (hp : ∀ q, p q → f q = false) : timesAsked f record = 0 :=
  Update.timesAsked_eq_zero fun x hx => hp x.1 (hm.asks h x hx)

theorem mono {p' : Question → Prop} {m : StepM α} (h : WithinStep p step m)
    (hp : ∀ q, p q → p' q) : WithinStep p' step m where
  asks := fun hcourse x hx => hp x.1 (h.asks hcourse x hx)
  heeds := h.heeds
  blames := h.blames

end WithinStep

end Update
end Reflash
