import Reflash.Proofs.Update.FlashGate

/-!
# Update.States — the steps of an update and the states of an updater

* `entered` — the steps whose beginning a record shows;
* `RunCourse.entered_cases` — a failure is one of the last step that was entered;
* `Turn`, `Updater.turns` — the updates of one updater, each with what it starts from;
* `updates_settle` — each of them leaves the state that its result asks for, and none depends on
  what the others left.
-/

namespace Reflash

namespace UpdateStep

/-- The steps that have been entered when this one is the last. -/
def upTo : UpdateStep → List UpdateStep
  | .versionCheck => [.versionCheck]
  | .bootloaderTransition => [.versionCheck, .bootloaderTransition]
  | .imageValidation => [.versionCheck, .bootloaderTransition, .imageValidation]
  | .flashing => [.versionCheck, .bootloaderTransition, .imageValidation, .flashing]
  | .finalizationWait =>
      [.versionCheck, .bootloaderTransition, .imageValidation, .flashing, .finalizationWait]

/-- All steps, as they follow each other. -/
def inOrder : List UpdateStep :=
  upTo .finalizationWait

variable {step : UpdateStep}

theorem upTo_prefix : step.upTo <+: inOrder := by
  cases step <;> decide

theorem getLast?_upTo : step.upTo.getLast? = some step := by
  cases step <;> rfl

end UpdateStep

theorem UpdateState.after_not_inProgress (result : Except UpdateFailure UpdateOutcome) :
    (after result).isInProgress = false := by
  cases result <;> rfl

namespace Update

open Dialogue

/-! ## Steps that are entered -/

namespace Question

def entered? : Question → Option UpdateStep
  | .tell (.enter step) => some step
  | _ => none

variable {q : Question} {step : UpdateStep}

theorem entered?_of_isBar {bar : Bar} (h : q.isBar bar) : q.entered? = none := by
  cases q with
  | tell n =>
      cases n with
      | enter step => cases h
      | _ => rfl
  | _ => rfl

theorem IsInquiry.entered? (h : q.IsInquiry) : q.entered? = none := by
  cases h with
  | talk h =>
      cases h with
      | _ => rfl
  | bar h => exact entered?_of_isBar h
  | _ => rfl

theorem IsMigrationTalk.entered? (h : q.IsMigrationTalk) : q.entered? = none := by
  cases h with
  | _ => rfl

/-- No step is entered from within a step. -/
theorem Fits.entered? (h : q.Fits step) : q.entered? = none := by
  cases h with
  | inquiry h => exact h.entered?
  | migration h => exact h.entered?
  | lateMigration h => exact h.entered?
  | search h =>
      cases h with
      | _ => rfl
  | bar h => exact entered?_of_isBar h
  | returning h =>
      cases h with
      | bar h => exact entered?_of_isBar h
      | _ => rfl
  | _ => rfl

end Question

def entered (record : Record) : List UpdateStep :=
  record.filterMap fun x => x.1.entered?

section

variable {record rest : Record} {step : UpdateStep} {x : Exchange Question.Answer}

@[simp] theorem entered_append : entered (record ++ rest) = entered record ++ entered rest :=
  List.filterMap_append

@[simp] theorem entered_enter : entered (told (.enter step) :: rest) = step :: entered rest := rfl

@[simp] theorem entered_close {role : BootloaderRole} {answer : Except DeviceError Unit} :
    entered (⟨.bootloader role .close, answer⟩ :: rest) = entered rest := rfl

@[simp] theorem entered_nil : entered [] = [] := rfl

theorem entered_eq_nil (h : ∀ x ∈ record, x.1.entered? = none) : entered record = [] :=
  List.filterMap_eq_nil_iff.2 h

theorem WithinStep.entered_eq_nil {α : Type} {p : Question → Prop} {m : StepM α}
    {result : Except UpdateError α} (hm : WithinStep p step m) (h : Course m.run record result)
    (hp : ∀ q, p q → q.entered? = none) : entered record = [] :=
  Update.entered_eq_nil fun x hx => hp x.1 (hm.asks h x hx)

/-- If all refusals mean that the update is aborted, an error without a step of its own is one of
the step that it ended. -/
theorem Cause.step?_getD {e : UpdateError} (h : Cause step record e)
    (hrefusals : ∀ c e, refused c e ∈ record → e = .aborted) : e.step?.getD step = step := by
  cases h with
  | own h => simp [h]
  | warning w h hstep => simp [h, UpdateError.step?]
  | refusal c h =>
      obtain rfl := hrefusals c e h
      rfl

end

/-! ## How far an update gets -/

section

variable {primitives : Primitives} {settings : UpdateSettings} {target : UpdateTarget}
  {source : UpdateSource} {record : Record} {result : Except UpdateFailure UpdateOutcome}

/-- An update that succeeds goes through all steps.  One that fails does so in the last step that it
has entered. -/
theorem RunCourse.entered_cases
    (h : RunCourse primitives settings target source record result) :
    ∃ last : UpdateStep, entered record = last.upTo ∧
      (∀ outcome, result = .ok outcome → last = .finalizationWait) ∧
      ∀ f, result = .error f → f.step = last ∧ Cause last record f.error := by
  -- Within the steps none is entered, so that the announcements between them are all that counts.
  have hplanned : ∀ {planning : Record} {x : Except UpdateError Plan},
      Course (plan primitives settings target source).run planning x → entered planning = [] :=
    fun h => (WithinStep.plan primitives settings target source).entered_eq_nil h
      fun _ hq => hq.entered?
  have hentered : ∀ {entering : Record} {x : Except UpdateError (BootloaderRole × Variant)},
      Course (enterBootloader settings target).run entering x → entered entering = [] :=
    fun h => (WithinStep.enterBootloader settings target).entered_eq_nil h fun _ hq => hq.entered?
  have hvalidated : ∀ {validating : Record} {variant : Variant} {p : Plan}
      {x : Except UpdateError (Bytes × Migrations)},
      Course (validateImage primitives settings target.model variant p).run validating x →
        entered validating = [] :=
    fun h => (WithinStep.validateImage primitives settings target.model _ _).entered_eq_nil h
      fun _ hq => hq.entered?
  have hflashed : ∀ {flashing : Record} {role : BootloaderRole} {image : Bytes}
      {x : Except UpdateError Unit}, Course (flash role image).run flashing x →
        entered flashing = [] :=
    fun h => (WithinStep.flash _ _).entered_eq_nil h fun _ hq => hq.entered?
  cases h with
  | refused hplan hclosing =>
      have hclosed := entered_eq_nil fun x hx => by
        rw [hclosing x hx]
        rfl
      have hcause := (WithinStep.plan primitives settings target source).blames hplan
      refine ⟨.versionCheck, by simp [hplanned hplan, hclosed, UpdateStep.upTo],
        by rintro outcome ⟨⟩, ?_⟩
      rintro f ⟨⟩
      exact ⟨rfl, hcause.mono fun x hx => by simp [hx]⟩
  | stranded hplan henter =>
      have hcause := (WithinStep.enterBootloader settings target).blames henter
      refine ⟨.bootloaderTransition, by simp [hplanned hplan, hentered henter, UpdateStep.upTo],
        by rintro outcome ⟨⟩, ?_⟩
      rintro f ⟨⟩
      exact ⟨rfl, hcause.mono fun x hx => by simp [hx]⟩
  | rejected closed hplan henter hvalidate =>
      have hcause :=
        (WithinStep.validateImage primitives settings target.model _ _).blames hvalidate
      refine ⟨.imageValidation, ?_, by rintro outcome ⟨⟩, ?_⟩
      · simp [hplanned hplan, hentered henter, hvalidated hvalidate, UpdateStep.upTo]
      · rintro f ⟨⟩
        exact ⟨rfl, hcause.mono fun x hx => by simp [hx]⟩
  | unflashed closed h hflash =>
      have hcause := (WithinStep.flash _ _).blames hflash
      refine ⟨.flashing, ?_, by rintro outcome ⟨⟩, ?_⟩
      · simp [hplanned h.plan, hentered h.enter, hvalidated h.validate, hflashed hflash,
          UpdateStep.upTo]
      · rintro f ⟨⟩
        exact ⟨rfl, hcause.mono fun x hx => by simp [hx]⟩
  | flashed closed h hflash hwait =>
      have hwaited := (WithinStep.finalize target.model _ _).entered_eq_nil hwait
        fun _ hq => Question.Fits.entered? (.returning hq)
      refine ⟨.finalizationWait, ?_, fun _ _ => rfl, ?_⟩
      · simp [hplanned h.plan, hentered h.enter, hvalidated h.validate, hflashed hflash, hwaited,
          UpdateStep.upTo]
      · intro f hf
        obtain ⟨e, hfailed, rfl⟩ := mapError_eq_error.1 hf
        obtain rfl := map_eq_error.1 hfailed
        have hcause := (WithinStep.finalize target.model _ _).blames hwait
        exact ⟨rfl, hcause.mono fun x hx => by simp [hx]⟩

end

/-- How an update leaves an updater. -/
structure Settles (record : Record) (result : Except UpdateError UpdateOutcome)
    (state : UpdateState) : Prop where
  inOrder : entered record <+: UpdateStep.inOrder
  verified : state = .verified ↔ ∃ outcome, result = .ok outcome
  failed : ∀ e, result = .error e →
    ∃ step, (entered record).getLast? = some step ∧ state = .failed step e.message
  ended : state.isInProgress = false

theorem RunCourse.settles {primitives : Primitives} {settings : UpdateSettings}
    {target : UpdateTarget} {source : UpdateSource} {record : Record}
    {result : Except UpdateFailure UpdateOutcome}
    (h : RunCourse primitives settings target source record result)
    (hrefusals : ∀ c e, Update.refused c e ∈ record → e = .aborted) :
    Settles record (result.mapError UpdateFailure.error) (.after result) := by
  obtain ⟨last, hentered, -, hfails⟩ := h.entered_cases
  refine ⟨hentered ▸ UpdateStep.upTo_prefix, ?_, ?_, UpdateState.after_not_inProgress result⟩
  · cases result with
    | ok outcome => simp [UpdateState.after]
    | error f => simp [UpdateState.after]
  · intro e he
    obtain ⟨f, rfl, rfl⟩ := mapError_eq_error.1 he
    -- The state names the step of the error if it has one, and else the step that has failed.
    obtain ⟨hstep, hcause⟩ := hfails f rfl
    refine ⟨last, hentered ▸ UpdateStep.getLast?_upTo, ?_⟩
    rw [UpdateState.after, hstep, hcause.step?_getD hrefusals]

end Update

/-! ## One update after another -/

/-- An update that an updater is asked for, and the surroundings at that time. -/
structure Turn (σ : Type) where
  updater : Updater
  target : UpdateTarget
  source : UpdateSource
  start : σ

section

open Dialogue Update

variable {σ : Type} (primitives : Primitives) (w : Surroundings Question.Answer σ)

def Turn.outcome (t : Turn σ) :
    Outcome Question.Answer σ (Updater × Except UpdateError UpdateOutcome) :=
  (t.updater.update primitives t.target t.source).run w t.start

theorem Turn.runCourse (t : Turn σ) : ∃ result,
    RunCourse primitives t.updater.settings t.target t.source (t.outcome primitives w).record
        result ∧
      (t.outcome primitives w).result =
        ({ t.updater with state := .after result }, result.mapError UpdateFailure.error) :=
  runCourse_of_update t.updater w t.start

/-- Each turn starts from what the turn before it has left. -/
def Updater.turns (u : Updater) : List (UpdateTarget × UpdateSource) → σ → List (Turn σ)
  | [], _ => []
  | (target, source) :: rest, s =>
      let turn : Turn σ := ⟨u, target, source, s⟩
      let outcome := turn.outcome primitives w
      turn :: outcome.result.1.turns rest outcome.state

variable {primitives w} {u : Updater} {jobs : List (UpdateTarget × UpdateSource)} {s : σ}
  {t : Turn σ}

/-- What a sequence of updates does and tells is made up of its turns. -/
theorem Updater.updates_eq_turns :
    ((u.updates primitives jobs).run w s).result = (u.turns primitives w jobs s).map (fun t =>
        ((t.outcome primitives w).result.1.state, (t.outcome primitives w).result.2)) ∧
      ((u.updates primitives jobs).run w s).record =
        (u.turns primitives w jobs s).flatMap fun t => (t.outcome primitives w).record := by
  induction jobs generalizing u s with
  | nil => exact ⟨rfl, rfl⟩
  | cons job rest ih =>
      obtain ⟨target, source⟩ := job
      simp only [Updater.updates, Updater.turns, run_bind, List.map_cons, List.flatMap_cons]
      refine ⟨congrArg (List.cons _) ih.1, congrArg (List.append _) ?_⟩
      rw [← ih.2]
      exact List.append_nil _

/-- Whatever an updater has gone through, its settings are the same, and it is not in the middle of
an update. -/
theorem Updater.updater_of_turn (ht : t ∈ u.turns primitives w jobs s) :
    t.updater.settings = u.settings ∧
      (u.state.isInProgress = false → t.updater.state.isInProgress = false) := by
  -- The induction is on the jobs still to be done, with the updater that the turns before have
  -- left.
  induction jobs generalizing u s with
  | nil => cases ht
  | cons job rest ih =>
      obtain ⟨target, source⟩ := job
      rcases List.mem_cons.1 ht with rfl | hlater
      · exact ⟨rfl, id⟩
      · obtain ⟨result, -, hresult⟩ := Turn.runCourse primitives w ⟨u, target, source, s⟩
        obtain ⟨hsettings, hstate⟩ := ih hlater
        rw [hresult] at hsettings hstate
        exact ⟨hsettings, fun _ => hstate (UpdateState.after_not_inProgress result)⟩

end

namespace Update

open Dialogue

/-- Refusals only say that the update is aborted. -/
def RefusesByAborting {σ : Type} (w : Surroundings Question.Answer σ) : Prop :=
  ∀ s c e, (w s (.confirm c)).1 = .error e → e = .aborted

/-- The updates of an updater enter their steps in order.  After each of them the state tells that
it succeeded, or the last step that it entered and its error, and what it does and how it ends does
not depend on the state that it finds. -/
theorem updates_settle {σ : Type} (primitives : Primitives) (u : Updater)
    (jobs : List (UpdateTarget × UpdateSource)) (w : Surroundings Question.Answer σ) (s : σ)
    (hrefusals : RefusesByAborting w) :
    let outcome := (u.updates primitives jobs).run w s
    let turns := u.turns primitives w jobs s
    outcome.result = turns.map (fun t =>
        ((t.outcome primitives w).result.1.state, (t.outcome primitives w).result.2)) ∧
      outcome.record = turns.flatMap (fun t => (t.outcome primitives w).record) ∧
      ∀ t ∈ turns,
        Settles (t.outcome primitives w).record (t.outcome primitives w).result.2
          (t.outcome primitives w).result.1.state ∧
        (u.state.isInProgress = false → t.updater.state.isInProgress = false) ∧
        ∀ state, t.outcome primitives w =
          (({ u with state := state } : Updater).update primitives t.target t.source).run w
            t.start := by
  intro outcome turns
  refine ⟨Updater.updates_eq_turns.1, Updater.updates_eq_turns.2, ?_⟩
  intro t ht
  obtain ⟨hsettings, hbetween⟩ := Updater.updater_of_turn ht
  have haborted : ∀ c e, refused c e ∈ (t.outcome primitives w).record → e = .aborted := by
    intro c e hmem
    obtain ⟨s', hanswer⟩ := answer_of_mem_record hmem
    exact hrefusals s' c e hanswer
  refine ⟨?_, hbetween, ?_⟩
  · obtain ⟨result, hrun, hresult⟩ := Turn.runCourse primitives w t
    rw [hresult]
    exact hrun.settles haborted
  · -- Two updaters with the same settings differ in nothing that an update reads.
    intro state
    rw [Turn.outcome, Updater.update, Updater.update, hsettings]

/-- A container that cannot be read, and then one that can. -/
theorem updates_settle_trial :
    let jobs := [(UpdateTarget.device .nk3, UpdateSource.bytes [1]), (.device .nk3, .bytes [0])]
    let w := Trial.Scene.surroundings {}
    let outcome := (Trial.updater.updates Trial.primitives jobs).run w ()
    RefusesByAborting w ∧
      outcome.result.map Prod.fst =
        [.failed .versionCheck "Failed to parse firmware container", .verified] ∧
      ∀ t ∈ Trial.updater.turns Trial.primitives w jobs (),
        Settles (t.outcome Trial.primitives w).record (t.outcome Trial.primitives w).result.2
          (t.outcome Trial.primitives w).result.1.state := by
  intro jobs w outcome
  have hrefusals : RefusesByAborting w := by
    rintro s c e ⟨⟩
  obtain ⟨-, -, hturns⟩ := updates_settle Trial.primitives Trial.updater jobs w () hrefusals
  exact ⟨hrefusals, rfl, fun t ht => (hturns t ht).1⟩

end Update
end Reflash
