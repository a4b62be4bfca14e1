import Reflash.Proofs.Update.FlashGate

/-!
# Update.FailureReport — what failures tell about the device

A failure may tell that the firmware of the device has been changed, and one that is recoverable is
said to leave the device untouched.

* `RunCourse.failure_cases` — an update fails before, at or after the writing of an image;
* `failure_report` — exactly which failures do not tell the truth: those of the device while its new
  firmware is waited for, and refusals that speak of a new firmware.
-/

namespace Reflash

/-! ## Severities -/

theorem DeviceError.recoverable_iff {e : DeviceError} :
    e.severity.recoverable ↔ ∀ device, e ≠ .disconnected device := by
  cases e with
  | disconnected device => simp [severity, Severity.recoverable, Severity.code]
  | _ => simp [severity, Severity.recoverable, Severity.code]

/-- Failures of the last step. -/
theorem UpdateError.of_finalizationWait {e : UpdateError} (h : e.step? = some .finalizationWait) :
    (∃ expected actual, e = .versionNotInstalled expected actual) ∨
      ∃ task cause, e = .device .finalizationWait task cause := by
  cases e with
  | versionNotInstalled expected actual => exact .inl ⟨expected, actual, rfl⟩
  | device step task cause =>
      cases h
      exact .inr ⟨task, cause, rfl⟩
  | _ => cases h

theorem UpdateError.step?_of_tellsOfChange {e : UpdateError} (h : e.tellsOfChange) :
    e.step? = some .finalizationWait := by
  cases e with
  | versionNotInstalled expected actual => rfl
  | _ => cases h

namespace Update

open Dialogue

section

variable {primitives : Primitives} {settings : UpdateSettings} {target : UpdateTarget}
  {source : UpdateSource} {record : Record} {f : UpdateFailure}

/-! ## Where an update fails -/

theorem not_flashed_of_unasked (h : timesAsked Question.isFlash record = 0) : ¬ Flashed record := by
  intro hflashed
  obtain ⟨role, image, hasked⟩ := hflashed.asked
  exact not_asked_of_timesAsked h rfl hasked

/-- An update fails before the writing of an image, in it, or after it. -/
theorem RunCourse.failure_cases
    (h : RunCourse primitives settings target source record (.error f)) :
    (timesAsked Question.isFlash record = 0 ∧
        (f.error.step? ≠ some .finalizationWait ∨ ∃ c, Update.refused c f.error ∈ record)) ∨
      (¬ Flashed record ∧ ∃ cause, f.error = .flashFailed cause) ∨
      Flashed record ∧ f.error.step? = some .finalizationWait := by
  rcases h.flash_cases with ⟨hnone, _, hf, hstep, hcause⟩ |
    ⟨_, _, _, _, _, role, _, image, _, ⟨progress, answer⟩, hwritten, hreports⟩
  · cases hf
    exact .inl ⟨hnone, hcause.step?_ne hstep⟩
  cases hreports with
  | late hanswer hstep =>
      obtain rfl : answer = .ok () := hanswer
      exact .inr (.inr ⟨⟨role, image, progress, hwritten.written_mem⟩, hstep⟩)
  | @failed _ cause hanswer =>
      obtain rfl : answer = .error cause := hanswer
      refine .inr (.inl ⟨?_, cause, rfl⟩)
      rintro ⟨role', image', progress', hmem⟩
      cases (hwritten.eq_of_mem hmem).2.2

theorem RunCourse.misreports_iff
    (h : RunCourse primitives settings target source record (.error f)) :
    ¬ (f.error.tellsOfChange ↔ Flashed record) ↔
      (Flashed record ∧ ∃ task cause, f.error = .device .finalizationWait task cause) ∨
        (¬ Flashed record ∧ f.error.tellsOfChange ∧ ∃ c, Update.refused c f.error ∈ record) := by
  rcases h.failure_cases with ⟨hnone, hstep⟩ | ⟨hnot, cause, hfailed⟩ | ⟨hflashed, hstep⟩
  · have hnot := not_flashed_of_unasked hnone
    -- No error of the steps before speaks of a change.
    have hrefused : f.error.tellsOfChange → ∃ c, Update.refused c f.error ∈ record := fun htells =>
      hstep.resolve_left fun hne => hne (UpdateError.step?_of_tellsOfChange htells)
    simpa [hnot] using hrefused
  · simp [hnot, hfailed, UpdateError.tellsOfChange]
  · rcases UpdateError.of_finalizationWait hstep with ⟨expected, actual, he⟩ | ⟨task, cause, he⟩
    · simp [hflashed, he, UpdateError.tellsOfChange]
    · simp [hflashed, he, UpdateError.tellsOfChange]

theorem RunCourse.touches_iff
    (h : RunCourse primitives settings target source record (.error f)) :
    (f.error.severity.recoverable ∧ ∃ role image, Asked record (.bootloader role (.update image))) ↔
      Flashed record ∧ ∃ task cause, f.error = .device .finalizationWait task cause ∧
        ∀ device, cause ≠ .disconnected device := by
  rcases h.failure_cases with ⟨hnone, -⟩ | ⟨hnot, cause, hfailed⟩ | ⟨hflashed, hstep⟩
  · have hunasked : ¬ ∃ role image, Asked record (.bootloader role (.update image)) := by
      rintro ⟨role, image, hasked⟩
      exact not_asked_of_timesAsked hnone rfl hasked
    simp only [hunasked, not_flashed_of_unasked hnone, and_false, false_and]
  -- The bootloader was given an image and failed, which counts as critical.
  · simp [hnot, hfailed, UpdateError.severity, Severity.recoverable, Severity.code]
  · rcases UpdateError.of_finalizationWait hstep with ⟨expected, actual, he⟩ | ⟨task, cause, he⟩
    · simp [he, UpdateError.severity, Severity.recoverable, Severity.code]
    · simp [hflashed, hflashed.asked, he, UpdateError.severity, DeviceError.recoverable_iff,
        and_assoc]

end

/-- A failure misreports whether the firmware has been changed exactly if it is one of the device
after the flashing, or an operator made it up.  One that is said to leave the device untouched comes
from an update that wrote an image exactly if it is of the former kind, and not a lost
connection. -/
theorem failure_report {σ : Type} (primitives : Primitives) (u : Updater) (target : UpdateTarget)
    (source : UpdateSource) (w : Surroundings Question.Answer σ) (s : σ) :
    let outcome := (u.update primitives target source).run w s
    ∀ e, outcome.result.2 = .error e →
      (¬ (e.tellsOfChange ↔ Flashed outcome.record) ↔
        (Flashed outcome.record ∧ ∃ task cause, e = .device .finalizationWait task cause) ∨
          (¬ Flashed outcome.record ∧ e.tellsOfChange ∧ ∃ c, refused c e ∈ outcome.record)) ∧
      (¬ (e.severity.recoverable → ∀ role image,
          ¬ Asked outcome.record (.bootloader role (.update image))) ↔
        Flashed outcome.record ∧ ∃ task cause, e = .device .finalizationWait task cause ∧
          ∀ device, cause ≠ .disconnected device) := by
  intro outcome e he
  obtain ⟨result, hrun, hresult⟩ : ∃ result,
      RunCourse primitives u.settings target source outcome.record result ∧
        outcome.result = ({ u with state := .after result }, result.mapError UpdateFailure.error) :=
    runCourse_of_update u w s
  rw [hresult] at he
  obtain ⟨f, rfl, rfl⟩ := mapError_eq_error.1 he
  refine ⟨hrun.misreports_iff, ?_⟩
  rw [← hrun.touches_iff]
  simp only [Classical.not_imp, not_forall, not_not]

/-- The device comes back with the new firmware and does not tell a version. -/
def Trial.speechless : Trial.Scene where
  returned := []

/-- The failure says that the device was left untouched, and it was not. -/
theorem failure_report_trial :
    let outcome := Trial.speechless.run
    let e : UpdateError := .device .finalizationWait .readVersion
      (.malformed "VERSION" "Invalid firmware version: ")
    outcome.result.2 = .error e ∧ Flashed outcome.record ∧
      ¬ (e.tellsOfChange ↔ Flashed outcome.record) ∧
      ¬ (e.severity.recoverable → ∀ role image,
        ¬ Asked outcome.record (.bootloader role (.update image))) := by
  intro outcome e
  have hfailed : outcome.result.2 = .error e := by rfl
  have hflashed : Flashed outcome.record :=
    ⟨.attempt 1, [2], [], List.mem_of_getElem? (i := 16) rfl⟩
  obtain ⟨hmisreports, htouches⟩ := failure_report Trial.primitives Trial.updater (.device .nk3)
    (.bytes [0]) (Trial.Scene.surroundings Trial.speechless) () e hfailed
  exact ⟨hfailed, hflashed, hmisreports.2 (.inl ⟨hflashed, _, _, rfl⟩),
    htouches.2 ⟨hflashed, _, _, rfl, by simp⟩⟩

end Update
end Reflash
