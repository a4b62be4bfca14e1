import Reflash.Proofs.Update.Course

/-!
# Update.Acts — what an update does, and when

* `RunCourse.planned_before_act` — nothing is done to a device before the version check has
  succeeded;
* `RunCourse.bootrom_once` — a device is sent into its bootloader at most once;
* `RunCourse.heeds` — a refusal ends the update with what the operator said.
-/

namespace Reflash
namespace Update

open Dialogue

variable {primitives : Primitives} {settings : UpdateSettings} {target : UpdateTarget}
  {source : UpdateSource} {planning entering validating record : Record} {p : Plan}
  {variant : Variant} {result : Except UpdateFailure UpdateOutcome}

/-! ## Acts by step -/

theorem quiet_planning {x : Except UpdateError Plan}
    (h : Course (plan primitives settings target source).run planning x) :
    ∀ y ∈ planning, y.1.isFlash = false ∧ y.1.isBootromCommand = false := by
  intro y hy
  have hfits := (WithinStep.plan primitives settings target source).asks h y hy
  refine ⟨Bool.eq_false_iff.2 fun hact => ?_, Bool.eq_false_iff.2 fun hact => ?_⟩
  · cases hfits.eq_flashing hact
  · cases hfits.eq_bootloaderTransition hact

theorem quiet_entering {x : Except UpdateError (BootloaderRole × Variant)}
    (h : Course (enterBootloader settings target).run entering x) :
    ∀ y ∈ entering, y.1.isFlash = false ∧ y.1.isNotes = false ∧ y.1.isSupply = false := by
  intro y hy
  have hfits := (WithinStep.enterBootloader settings target).asks h y hy
  refine ⟨Bool.eq_false_iff.2 fun hact => ?_, Bool.eq_false_iff.2 fun hact => ?_,
    Bool.eq_false_iff.2 fun hact => ?_⟩
  · cases hfits.eq_flashing hact
  · rcases hfits.eq_of_migration (Question.migrationTalk_of_isNotes hact) with hstep | hstep
    · cases hstep
    · cases hstep
  · cases hfits.eq_versionCheck hact

theorem quiet_validating {x : Except UpdateError (Bytes × Migrations)}
    (h : Course (validateImage primitives settings target.model variant p).run validating x) :
    ∀ y ∈ validating, y.1.isFlash = false ∧ y.1.isBootromCommand = false ∧
      y.1.isSupply = false := by
  intro y hy
  have htalk := (WithinStep.validateImage primitives settings target.model variant p).asks h y hy
  exact ⟨htalk.inert.1, Question.isBootromCommand_of_not_device htalk.inert.2.1, htalk.inert.2.2⟩

theorem no_flash_of_plan {x : Except UpdateError Plan}
    (h : Course (plan primitives settings target source).run planning x) :
    timesAsked Question.isFlash planning = 0 :=
  timesAsked_eq_zero fun y hy => (quiet_planning h y hy).1

theorem no_flash_of_enterBootloader {x : Except UpdateError (BootloaderRole × Variant)}
    (h : Course (enterBootloader settings target).run entering x) :
    timesAsked Question.isFlash entering = 0 :=
  timesAsked_eq_zero fun y hy => (quiet_entering h y hy).1

theorem no_flash_of_validateImage {x : Except UpdateError (Bytes × Migrations)}
    (h : Course (validateImage primitives settings target.model variant p).run validating x) :
    timesAsked Question.isFlash validating = 0 :=
  timesAsked_eq_zero fun y hy => (quiet_validating h y hy).1

/-! ## Nothing is done without a plan -/

/-- The version check has run through before anything is done to a device. -/
theorem RunCourse.planned_before_act
    (h : RunCourse primitives settings target source record result) {before after : Record}
    {x : Exchange Question.Answer} (hsplit : record = before ++ x :: after)
    (hact : x.1.isBootromCommand ∨ x.1.isFlash) :
    ∃ planning p tail, before = told (.enter .versionCheck) :: (planning ++ tail) ∧
      Course (plan primitives settings target source).run planning (.ok p) := by
  -- The act is not in the record of the version check, so that this record comes before it.
  have hlater : ∀ {planning rest : Record} {y : Except UpdateError Plan},
      Course (plan primitives settings target source).run planning y →
      record = told (.enter .versionCheck) :: (planning ++ rest) →
      ∃ tail, before = told (.enter .versionCheck) :: (planning ++ tail) ∧
        rest = tail ++ x :: after := by
    intro planning rest y hplan hrecord
    rw [hrecord, ← List.cons_append] at hsplit
    rcases append_eq_split hsplit with ⟨tail, hfirst, -⟩ | ⟨tail, rfl, hrest⟩
    · have hmem : x ∈ told (.enter .versionCheck) :: planning := by simp [hfirst]
      rcases List.mem_cons.1 hmem with rfl | hmem
      · simp [told, Question.isBootromCommand, Question.isFlash] at hact
      · simp [quiet_planning hplan x hmem] at hact
    · exact ⟨tail, by simp, hrest⟩
  cases h with
  | refused hplan hclosing =>
      obtain ⟨tail, -, rfl⟩ := hlater hplan rfl
      have hclose := hclosing x (by simp)
      rw [hclose] at hact
      exact absurd hact (by decide)
  | stranded hplan henter =>
      obtain ⟨tail, hbefore, -⟩ := hlater hplan rfl
      exact ⟨_, _, tail, hbefore, hplan⟩
  | rejected closed hplan henter hvalidate =>
      obtain ⟨tail, hbefore, -⟩ := hlater hplan rfl
      exact ⟨_, _, tail, hbefore, hplan⟩
  | unflashed closed h hflash =>
      obtain ⟨tail, hbefore, -⟩ := hlater h.plan rfl
      exact ⟨_, _, tail, hbefore, h.plan⟩
  | flashed closed h hflash hwait =>
      obtain ⟨tail, hbefore, -⟩ := hlater h.plan rfl
      exact ⟨_, _, tail, hbefore, h.plan⟩

/-! ## One command at most -/

theorem bootrom_le_one_of_entering {x : Except UpdateError (BootloaderRole × Variant)}
    (h : Course (enterBootloader settings target).run entering x) :
    timesAsked Question.isBootromCommand entering ≤ 1 := by
  cases target with
  | bootloader model variant =>
      obtain ⟨rfl, -⟩ := (course_enterBootloader_bootloader settings).1 h
      exact Nat.zero_le 1
  | device model =>
      -- The command is the second exchange, and after it only a bootloader is looked for.
      have hclose : Call.close ≠ Admin.bootromCall := by decide
      obtain ⟨answer, closing, _, rfl, ⟨e, -, rfl, -⟩ | ⟨found, -, rfl, hfound⟩⟩ :=
        course_enterBootloader_device settings h
      · simp [hclose, told, Question.isBootromCommand]
      · have hsearch := timesAsked_eq_zero fun y hy =>
          Question.isBootromCommand_of_not_device
            ((WithinStep.findBootloader _ _ _ _ _).asks hfound y hy).inert.2.1
        simp [hclose, hsearch, told, Question.isBootromCommand]

theorem no_bootrom_of_plan {x : Except UpdateError Plan}
    (h : Course (plan primitives settings target source).run planning x) :
    timesAsked Question.isBootromCommand planning = 0 :=
  timesAsked_eq_zero fun y hy => (quiet_planning h y hy).2

theorem no_bootrom_of_validateImage {x : Except UpdateError (Bytes × Migrations)}
    (h : Course (validateImage primitives settings target.model variant p).run validating x) :
    timesAsked Question.isBootromCommand validating = 0 :=
  timesAsked_eq_zero fun y hy => (quiet_validating h y hy).2.1

theorem no_bootrom_of_flash {flashing : Record} {role : BootloaderRole} {image : Bytes}
    {x : Except UpdateError Unit} (h : Course (flash role image).run flashing x) :
    timesAsked Question.isBootromCommand flashing = 0 := by
  refine (WithinStep.flash role image).timesAsked_eq_zero h fun q hq => ?_
  refine Bool.eq_false_iff.2 fun hact => ?_
  cases hq.eq_bootloaderTransition hact

theorem no_bootrom_of_finalize {waiting : Record} {model : Model} {expected : Version}
    {retries : Nat} {x : Except UpdateError Status}
    (h : Course (finalize model expected retries).run waiting x) :
    timesAsked Question.isBootromCommand waiting = 0 :=
  (WithinStep.finalize model expected retries).timesAsked_eq_zero h fun _ hq => hq.inert.2.1

theorem no_bootrom_of_closing {closing : Record}
    (h : ∀ x ∈ closing, x.1 = .device .initial .close) :
    timesAsked Question.isBootromCommand closing = 0 :=
  timesAsked_eq_zero fun x hx => by
    rw [h x hx]
    rfl

theorem RunCourse.bootrom_once (h : RunCourse primitives settings target source record result) :
    timesAsked Question.isBootromCommand record ≤ 1 := by
  cases h with
  | refused hplan hclosing =>
      simp [no_bootrom_of_plan hplan, no_bootrom_of_closing hclosing, told,
        Question.isBootromCommand]
  | stranded hplan henter =>
      simpa [no_bootrom_of_plan hplan, told, Question.isBootromCommand]
        using bootrom_le_one_of_entering henter
  | rejected closed hplan henter hvalidate =>
      simpa [no_bootrom_of_plan hplan, no_bootrom_of_validateImage hvalidate, told,
        Question.isBootromCommand] using bootrom_le_one_of_entering henter
  | unflashed closed h hflash =>
      simpa [no_bootrom_of_plan h.plan, no_bootrom_of_validateImage h.validate,
        no_bootrom_of_flash hflash, told, Question.isBootromCommand]
        using bootrom_le_one_of_entering h.enter
  | flashed closed h hflash hwait =>
      simpa [no_bootrom_of_plan h.plan, no_bootrom_of_validateImage h.validate,
        no_bootrom_of_flash hflash, no_bootrom_of_finalize hwait, told, Question.isBootromCommand]
        using bootrom_le_one_of_entering h.enter

/-! ## Refusals -/

/-- After a refusal everything is let go of, and the refusal is the result. -/
def EndsWithRefusal (record : Record) (result : Except UpdateFailure UpdateOutcome) : Prop :=
  ∀ before c e after, record = before ++ refused c e :: after →
    (∀ x ∈ after, x.1.isClose) ∧ ∃ step, result = .error ⟨step, e⟩

namespace EndsWithRefusal

variable {first rest : Record}

theorem ofUnrefused (h : ∀ c e, refused c e ∉ record) : EndsWithRefusal record result := by
  rintro before c e after rfl
  exact absurd (by simp) (h c e)

theorem append (hfirst : ∀ c e, refused c e ∉ first) (hrest : EndsWithRefusal rest result) :
    EndsWithRefusal (first ++ rest) result := by
  intro before c e after hsplit
  rcases append_eq_split hsplit with ⟨tail, rfl, -⟩ | ⟨tail, -, hlater⟩
  · exact absurd (by simp) (hfirst c e)
  · exact hrest tail c e after hlater

theorem told {n : Notice} (hrest : EndsWithRefusal rest result) :
    EndsWithRefusal (told n :: rest) result := by
  have hfirst : ∀ c e, refused c e ∉ [Update.told n] := by
    intro c e hmem
    cases List.mem_singleton.1 hmem
  exact append hfirst hrest

/-- The last step of the update ended with the refusal. -/
theorem final {α : Type} {e : UpdateError} {step : UpdateStep}
    (hfirst : Heeds first (.error e : Except UpdateError α)) (hrest : ∀ x ∈ rest, x.1.isClose) :
    EndsWithRefusal (first ++ rest) (.error ⟨step, e⟩) := by
  intro before c e' after hsplit
  rcases append_eq_split hsplit with ⟨tail, rfl, rfl⟩ | ⟨tail, -, rfl⟩
  · obtain ⟨rfl, he⟩ := hfirst before c e' tail rfl
    cases he
    exact ⟨by simpa using hrest, step, rfl⟩
  · have hclose := hrest (refused c e') (by simp)
    simp [refused, Question.isClose] at hclose

theorem last {α : Type} {e : UpdateError} {step : UpdateStep}
    (h : Heeds record (.error e : Except UpdateError α)) :
    EndsWithRefusal record (.error ⟨step, e⟩) := by
  rw [← List.append_nil record]
  exact final h (by simp)

end EndsWithRefusal

theorem RunCourse.heeds (h : RunCourse primitives settings target source record result) :
    EndsWithRefusal record result := by
  have hplanned : ∀ {planning : Record} {p : Plan},
      Course (plan primitives settings target source).run planning (.ok p) →
        ∀ c e, Update.refused c e ∉ planning := fun h =>
    not_mem_of_heeds_ok ((WithinStep.plan primitives settings target source).heeds h)
  have hentered : ∀ {entering : Record} {found : BootloaderRole × Variant},
      Course (enterBootloader settings target).run entering (.ok found) →
        ∀ c e, Update.refused c e ∉ entering := fun h =>
    not_mem_of_heeds_ok ((WithinStep.enterBootloader settings target).heeds h)
  have hvalidated : ∀ {validating : Record} {variant : Variant} {p : Plan}
      {checked : Bytes × Migrations},
      Course (validateImage primitives settings target.model variant p).run validating
        (.ok checked) → ∀ c e, Update.refused c e ∉ validating := fun h =>
    not_mem_of_heeds_ok ((WithinStep.validateImage primitives settings target.model _ _).heeds h)
  cases h with
  | refused hplan hclosing =>
      refine .told (.final ((WithinStep.plan primitives settings target source).heeds hplan) ?_)
      intro x hx
      rw [hclosing x hx]
      rfl
  | stranded hplan henter =>
      -- Each step begins only after the steps before it were not refused anything.
      have hheeds := (WithinStep.enterBootloader settings target).heeds henter
      exact .told (.append (hplanned hplan) (.told (.last hheeds)))
  | rejected closed hplan henter hvalidate =>
      refine .told (.append (hplanned hplan) (.told (.append (hentered henter) (.told ?_))))
      refine .final
        ((WithinStep.validateImage primitives settings target.model _ _).heeds hvalidate) ?_
      intro x hx
      obtain rfl := List.mem_singleton.1 hx
      rfl
  | unflashed closed h hflash =>
      refine .told (.append (hplanned h.plan) (.told (.append (hentered h.enter) (.told
        (.append (hvalidated h.validate) (.told ?_))))))
      refine .final ((WithinStep.flash _ _).heeds hflash) ?_
      intro x hx
      obtain rfl := List.mem_singleton.1 hx
      rfl
  | flashed closed h hflash hwait =>
      refine .told (.append (hplanned h.plan) (.told (.append (hentered h.enter) (.told
        (.append (hvalidated h.validate) (.told (.append ?_ (.ofUnrefused ?_))))))))
      · exact not_mem_of_heeds_ok ((WithinStep.flash _ _).heeds hflash)
      · intro c e hmem
        simp only [List.mem_cons] at hmem
        rcases hmem with hmem | hmem | hmem
        · cases hmem
        · cases hmem
        · cases ((WithinStep.finalize target.model _ _).asks hwait _ hmem).inert.2.2.1

end Update
end Reflash
