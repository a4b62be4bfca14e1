import Reflash.Proofs.Update.Installation
import Reflash.Proofs.Update.Transition
import Reflash.Update.State

/-!
# Update.Course — the courses of a whole update

* `RunCourse` — how far an update gets, with the record of each step it went through;
* `runCourse_of_run`, `runCourse_of_update` — there is no other way for an update to go.
-/

namespace Reflash
namespace Update

open Dialogue

variable (primitives : Primitives) (settings : UpdateSettings) (target : UpdateTarget)
  (source : UpdateSource)

/-- The steps before flashing have succeeded. -/
structure Admitted (planning entering validating : Record) (p : Plan) (role : BootloaderRole)
    (variant : Variant) (image : Bytes) (migrations : Migrations) : Prop where
  plan : Course (plan primitives settings target source).run planning (.ok p)
  enter : Course (enterBootloader settings target).run entering (.ok (role, variant))
  validate : Course (validateImage primitives settings target.model variant p).run validating
    (.ok (image, migrations))

inductive RunCourse : Record → Except UpdateFailure UpdateOutcome → Prop where
  | refused {planning closing : Record} {e : UpdateError}
      (hplan : Course (plan primitives settings target source).run planning (.error e))
      (hclosing : ∀ x ∈ closing, x.1 = .device .initial .close) :
      RunCourse (told (.enter .versionCheck) :: (planning ++ closing)) (.error ⟨.versionCheck, e⟩)
  | stranded {planning entering : Record} {p : Plan} {e : UpdateError}
      (hplan : Course (plan primitives settings target source).run planning (.ok p))
      (henter : Course (enterBootloader settings target).run entering (.error e)) :
      RunCourse (told (.enter .versionCheck) :: (planning ++
        told (.enter .bootloaderTransition) :: entering)) (.error ⟨.bootloaderTransition, e⟩)
  | rejected {planning entering validating : Record} {p : Plan} {role : BootloaderRole}
      {variant : Variant} {e : UpdateError} (closed : Except DeviceError Unit)
      (hplan : Course (plan primitives settings target source).run planning (.ok p))
      (henter : Course (enterBootloader settings target).run entering (.ok (role, variant)))
      (hvalidate : Course (validateImage primitives settings target.model variant p).run validating
        (.error e)) :
      RunCourse (told (.enter .versionCheck) :: (planning ++
        told (.enter .bootloaderTransition) :: (entering ++
          told (.enter .imageValidation) :: (validating ++ [⟨.bootloader role .close, closed⟩]))))
        (.error ⟨.imageValidation, e⟩)
  | unflashed {planning entering validating flashing : Record} {p : Plan} {role : BootloaderRole}
      {variant : Variant} {image : Bytes} {migrations : Migrations} {e : UpdateError}
      (closed : Except DeviceError Unit)
      (h : Admitted primitives settings target source planning entering validating p role variant
        image migrations)
      (hflash : Course (flash role image).run flashing (.error e)) :
      RunCourse (told (.enter .versionCheck) :: (planning ++
        told (.enter .bootloaderTransition) :: (entering ++
          told (.enter .imageValidation) :: (validating ++
            told (.enter .flashing) :: (flashing ++ [⟨.bootloader role .close, closed⟩])))))
        (.error ⟨.flashing, e⟩)
  | flashed {planning entering validating flashing waiting : Record} {p : Plan}
      {role : BootloaderRole} {variant : Variant} {image : Bytes} {migrations : Migrations}
      {status : Except UpdateError Status} (closed : Except DeviceError Unit)
      (h : Admitted primitives settings target source planning entering validating p role variant
        image migrations)
      (hflash : Course (flash role image).run flashing (.ok ()))
      (hwait : Course (finalize target.model p.container.version migrations.retries).run waiting
        status) :
      RunCourse (told (.enter .versionCheck) :: (planning ++
        told (.enter .bootloaderTransition) :: (entering ++
          told (.enter .imageValidation) :: (validating ++
            told (.enter .flashing) :: (flashing ++ ⟨.bootloader role .close, closed⟩ ::
              told (.enter .finalizationWait) :: waiting)))))
        ((status.map fun status => ⟨p.container.version, status⟩).mapError
          (UpdateFailure.mk .finalizationWait))

variable {primitives settings target source} {record : Record}

/-! ## No other way to go -/

theorem course_planned {result : Except UpdateFailure Plan}
    (h : Course (planned primitives settings target source).run record result) :
    (∃ planning p, record = told (.enter .versionCheck) :: planning ∧ result = .ok p ∧
        Course (plan primitives settings target source).run planning (.ok p)) ∨
      ∃ planning closing e, record = told (.enter .versionCheck) :: (planning ++ closing) ∧
        result = .error ⟨.versionCheck, e⟩ ∧
        Course (plan primitives settings target source).run planning (.error e) ∧
        ∀ x ∈ closing, x.1 = .device .initial .close := by
  cases target with
  | device model =>
      rcases course_onFailure.1 h with ⟨p, rfl, hp⟩ | ⟨f, first, closing, rfl, rfl, hf, hclose⟩
      · obtain ⟨planning, x, rfl, hplan, hx⟩ := course_inStep.1 hp
        obtain rfl := mapError_eq_ok.1 hx.symm
        exact .inl ⟨planning, p, rfl, rfl, hplan⟩
      · obtain ⟨planning, x, rfl, hplan, hx⟩ := course_inStep.1 hf
        obtain ⟨e, rfl, rfl⟩ := mapError_eq_error.1 hx.symm
        obtain ⟨answer, rfl⟩ := course_closeDevice.1 hclose
        exact .inr ⟨planning, _, e, rfl, rfl, hplan, by simp⟩
  | bootloader model variant =>
      obtain ⟨planning, x, rfl, hplan, rfl⟩ := course_inStep.1 h
      cases x with
      | ok p => exact .inl ⟨planning, p, rfl, rfl, hplan⟩
      | error e => exact .inr ⟨planning, [], e, by simp, rfl, hplan, by simp⟩

theorem course_install {role : BootloaderRole} {variant : Variant} {p : Plan}
    {result : Except UpdateFailure Migrations}
    (h : Course (install primitives settings target.model role variant p).run record result) :
    (∃ validating e closed, result = .error ⟨.imageValidation, e⟩ ∧
        record = told (.enter .imageValidation) ::
          (validating ++ [⟨.bootloader role .close, closed⟩]) ∧
        Course (validateImage primitives settings target.model variant p).run validating
          (.error e)) ∨
      ∃ validating image migrations flashing flashed closed,
        result = (flashed.map fun _ => migrations).mapError (UpdateFailure.mk .flashing) ∧
        record = told (.enter .imageValidation) :: (validating ++
          told (.enter .flashing) :: (flashing ++ [⟨.bootloader role .close, closed⟩])) ∧
        Course (validateImage primitives settings target.model variant p).run validating
          (.ok (image, migrations)) ∧
        Course (flash role image).run flashing flashed := by
  obtain ⟨first, closing, rfl, hfirst, hclose⟩ := course_thenAlways.1 h
  obtain ⟨closed, rfl⟩ := course_closeBootloader.1 hclose
  rcases course_seq.1 hfirst with ⟨f, hvalidate, rfl⟩ | ⟨_, found, _, rfl, hvalidate, h₁⟩
  · obtain ⟨validating, x, rfl, hrejected, hx⟩ := course_inStep.1 hvalidate
    obtain ⟨e, rfl, rfl⟩ := mapError_eq_error.1 hx.symm
    exact .inl ⟨validating, e, closed, rfl, rfl, hrejected⟩
  · obtain ⟨validating, x, rfl, hvalidated, hx⟩ := course_inStep.1 hvalidate
    obtain rfl := mapError_eq_ok.1 hx.symm
    obtain ⟨image, migrations⟩ := found
    refine .inr ?_
    rcases course_seq.1 h₁ with ⟨f, hflash, rfl⟩ | ⟨_, u, _, rfl, hflash, hdone⟩
    · obtain ⟨flashing, x, rfl, hflashed, hx⟩ := course_inStep.1 hflash
      obtain ⟨e, rfl, rfl⟩ := mapError_eq_error.1 hx.symm
      exact ⟨validating, image, migrations, flashing, .error e, closed, rfl, by simp, hvalidated,
        hflashed⟩
    · obtain ⟨flashing, x, rfl, hflashed, hx⟩ := course_inStep.1 hflash
      obtain rfl := mapError_eq_ok.1 hx.symm
      obtain ⟨rfl, rfl⟩ := course_pure.1 hdone
      exact ⟨validating, image, migrations, flashing, .ok u, closed, rfl, by simp, hvalidated,
        hflashed⟩

theorem runCourse_of_run {result : Except UpdateFailure UpdateOutcome}
    (h : Course (run primitives settings target source).run record result) :
    RunCourse primitives settings target source record result := by
  rcases course_seq.1 h with ⟨f, hplanned, rfl⟩ | ⟨_, p, _, rfl, hplanned, h₁⟩
  · rcases course_planned hplanned with ⟨planning, p, rfl, hp, -⟩ |
      ⟨planning, closing, e, rfl, hf, hplan, hclosing⟩
    · cases hp
    · cases hf
      exact .refused hplan hclosing
  rcases course_planned hplanned with ⟨planning, p', rfl, hp, hplan⟩ | ⟨_, _, e, -, hf, -⟩
  -- There is a plan from here on.
  case inr => cases hf
  cases hp
  rcases course_seq.1 h₁ with ⟨f, henter, rfl⟩ | ⟨_, ⟨role, variant⟩, _, rfl, henter, h₂⟩
  · obtain ⟨entering, x, rfl, hentered, hx⟩ := course_inStep.1 henter
    obtain ⟨e, rfl, rfl⟩ := mapError_eq_error.1 hx.symm
    exact .stranded hplan hentered
  obtain ⟨entering, x, rfl, hentered, hx⟩ := course_inStep.1 henter
  obtain rfl := mapError_eq_ok.1 hx.symm
  rcases course_seq.1 h₂ with ⟨f, hinstall, rfl⟩ | ⟨_, migrations, _, rfl, hinstall, h₃⟩
  -- The installation fails with the image or with the flashing.
  · rcases course_install hinstall with ⟨validating, e, closed, hf, rfl, hrejected⟩ |
      ⟨validating, image, m, flashing, flashed, closed, hf, rfl, hvalidated, hflash⟩
    · cases hf
      exact .rejected closed hplan hentered hrejected
    · obtain ⟨e, hfailed, rfl⟩ := mapError_eq_error.1 hf.symm
      obtain rfl := map_eq_error.1 hfailed
      exact .unflashed closed ⟨hplan, hentered, hvalidated⟩ hflash
  · rcases course_install hinstall with ⟨validating, e, closed, hf, -⟩ |
      ⟨validating, image, m, flashing, flashed, closed, hf, rfl, hvalidated, hflash⟩
    · cases hf
    -- The image is written.  What is left to fail is the new firmware.
    obtain ⟨u, rfl, rfl⟩ := map_eq_ok.1 (mapError_eq_ok.1 hf.symm)
    rcases course_seq.1 h₃ with ⟨f, hfinal, rfl⟩ | ⟨_, status, _, rfl, hfinal, hdone⟩
    · obtain ⟨waiting, x, rfl, hwait, hx⟩ := course_inStep.1 hfinal
      obtain ⟨e, rfl, rfl⟩ := mapError_eq_error.1 hx.symm
      simpa using
        RunCourse.flashed closed ⟨hplan, hentered, hvalidated⟩ hflash hwait
    · obtain ⟨waiting, x, rfl, hwait, hx⟩ := course_inStep.1 hfinal
      obtain rfl := mapError_eq_ok.1 hx.symm
      obtain ⟨rfl, rfl⟩ := course_pure.1 hdone
      simpa using
        RunCourse.flashed closed ⟨hplan, hentered, hvalidated⟩ hflash hwait

/-- What an updater runs is an update and nothing else. -/
theorem course_of_update {σ : Type} (u : Updater) (w : Surroundings Question.Answer σ) (s : σ) :
    ∃ result, Course (run primitives u.settings target source).run
        ((u.update primitives target source).run w s).record result ∧
      ((u.update primitives target source).run w s).result =
        ({ u with state := .after result }, result.mapError UpdateFailure.error) := by
  have hcourse := course_run w (u.update primitives target source) s
  rw [Updater.update] at hcourse
  obtain ⟨record, result, rest, hrecord, hrun, hdone⟩ := course_bind.1 hcourse
  obtain ⟨rfl, hresult⟩ := course_done.1 hdone
  rw [List.append_nil] at hrecord
  exact ⟨result, by rwa [← hrecord] at hrun, hresult⟩

/-- What holds of all courses of an update holds of all its runs. -/
theorem runCourse_of_update {σ : Type} (u : Updater) (w : Surroundings Question.Answer σ) (s : σ) :
    ∃ result, RunCourse primitives u.settings target source
        ((u.update primitives target source).run w s).record result ∧
      ((u.update primitives target source).run w s).result =
        ({ u with state := .after result }, result.mapError UpdateFailure.error) := by
  obtain ⟨result, hrun, hresult⟩ := course_of_update u w s
  exact ⟨result, runCourse_of_run hrun, hresult⟩

end Update
end Reflash
