import Reflash.Command.Run
import Reflash.Proofs.Update.FlashGate
import Reflash.Proofs.Update.States
import Reflash.Proofs.Update.Verdict

/-!
# Command.Check — a check predicts an update

A check goes through the policy of an update at a terminal, without a device.  An operator who
agrees to everything learns from it whether an update would get past its version check, and why not.

* `hold_checkPolicy` — a check that nobody objects to says what the policy says;
* `leaving_of_run` — an update gets past its version check exactly if that succeeds;
* `check_predicts_update` — the same refusals, in the same order.
-/

namespace Reflash
namespace Invocation

open Dialogue Update

/-! ## At the terminal -/

section

variable {terminal : Terminal} {operator : Operator}

theorem agrees_of_assumeYes (hyes : terminal.assumeYes = true) (c : Confirmation) :
    terminal.agrees operator c = true := by
  cases c with
  | notes lines =>
      cases lines with
      | nil => rfl
      | cons line rest => simp [Terminal.agrees, hyes]
  | _ => simp [Terminal.agrees, hyes]

/-- What the terminal answers when it is asked for consent. -/
def consentsAt (terminal : Terminal) (operator : Operator) (c : Confirmation) :
    Except UpdateError Unit :=
  if terminal.agrees operator c then .ok () else .error .aborted

theorem hold_checkPolicyBy (terminal : Terminal) (operator : Operator) (config : UpdateConfig)
    (current : Option Version) (container : Container) :
    (terminal.hold operator (checkPolicy config current container)).1 =
      verdictBy (consentsAt terminal operator) config current container := by
  -- What the terminal answers does not depend on what it has shown, except for what it shows next.
  let expects (x : Exchange Question.Answer) : Prop :=
    ∃ shown, (terminal.answer operator shown x.1).1 = x.2
  have hanswers : ∀ c answer, expects ⟨.confirm c, answer⟩ →
      answer = consentsAt terminal operator c := by
    rintro c answer ⟨shown, hshown⟩
    exact hshown.symm
  have hpolicy : LeadsTo expects (checkPolicy config current container).run
      (verdictBy (consentsAt terminal operator) config current container) := by
    simpa only [checkPolicy, verdictBy, LawfulMonad.bind_assoc] using
      (leadsTo_checkVersionBy hanswers current container.version).andThen fun _ _ =>
        leadsTo_checkRequirementsBy hanswers container config
  refine hpolicy (course_run (terminal.answer operator) _ []) fun x hx => ?_
  obtain ⟨shown, hshown⟩ := answer_of_mem_record hx
  exact ⟨shown, hshown⟩

theorem hold_checkPolicy (hyes : terminal.assumeYes = true) (config : UpdateConfig)
    (current : Option Version) (container : Container) :
    (terminal.hold operator (checkPolicy config current container)).1 =
      verdict config current container := by
  have hagreed : consentsAt terminal operator = fun _ => .ok () := by
    funext c
    exact if_pos (agrees_of_assumeYes hyes c)
  rw [hold_checkPolicyBy, hagreed, verdictBy, verdict]
  cases compareVersions current container.version with
  | error e => rfl
  | ok same =>
      cases same with
      | none => rfl
      | some same => rfl

end

section

variable {primitives : Primitives} {environment : Environment} {terminal : Terminal} {path : String}
  {model : Model} {current : Option Version} {config : UpdateConfig} {data : Bytes}

theorem check_of_unparsed {e : ContainerError} (hfile : environment.file path = .ok data)
    (hparsed : Container.parse primitives data model = .error e) :
    (check primitives environment terminal path model current config).error =
      some (.container path e) := by
  simp [check, readContainer, hfile, hparsed, Except.mapError, CommandResult.failed]

theorem check_of_parsed {container : Container} (hyes : terminal.assumeYes = true)
    (hfile : environment.file path = .ok data)
    (hparsed : Container.parse primitives data model = .ok container) :
    (check primitives environment terminal path model current config).error =
      match verdict config current container with
      | .ok _ => none
      | .error e => some (.update e) := by
  have hheld : (terminal.hold environment.operator (checkPolicy config current container)).1 =
      verdict config current container := hold_checkPolicy hyes config current container
  simp only [check, readContainer, hfile, hparsed, Except.mapError]
  cases hhold : terminal.hold environment.operator (checkPolicy config current container) with
  | mk result shown =>
      rw [hhold] at hheld
      obtain rfl : result = verdict config current container := hheld
      cases verdict config current container with
      | ok u => rfl
      | error e => rfl

end

/-! ## In the update -/

section

variable {primitives : Primitives} {settings : UpdateSettings} {target : UpdateTarget}
  {source : UpdateSource} {record : Record} {result : Except UpdateFailure UpdateOutcome}

/-- An update gets past its version check exactly if there is a plan, and fails with what the
version check fails with. -/
theorem leaving_of_run
    (h : Course (Update.run primitives settings target source).run record result) :
    ∃ planning planned, Course (plan primitives settings target source).run planning planned ∧
      planning ⊆ record ∧
      (told (.enter .bootloaderTransition) ∈ record ↔ ∃ p, planned = .ok p) ∧
      ∀ e, planned = .error e → result = .error ⟨.versionCheck, e⟩ := by
  rcases course_stages h with ⟨planning, closing, e, rfl, rfl, hplan, hclosing⟩ |
    ⟨planning, following, p, rfl, hplan, hfollowing⟩
  · refine ⟨planning, .error e, hplan, fun x hx => by simp [hx], ?_, ?_⟩
    · -- Neither the version check nor the close announces a step.
      have hquiet : told (.enter .bootloaderTransition) ∉ planning := by
        intro hmem
        cases ((WithinStep.plan primitives settings target source).asks hplan _ hmem).entered?
      have hclosed : told (.enter .bootloaderTransition) ∉ closing := by
        intro hmem
        cases hclosing _ hmem
      have hother : told (.enter .bootloaderTransition) ≠ told (.enter .versionCheck) := nofun
      simp [hquiet, hclosed, hother]
    · rintro _ ⟨⟩
      rfl
  · refine ⟨planning, .ok p, hplan, fun x hx => by simp [hx], ?_, by rintro e ⟨⟩⟩
    rcases course_seq.1 hfollowing with ⟨f, hentering, -⟩ | ⟨_, found, rest, rfl, hentering, -⟩
    · obtain ⟨entering, x, rfl, -⟩ := course_inStep.1 hentering
      simp
    · obtain ⟨entering, x, rfl, -⟩ := course_inStep.1 hentering
      simp

end

/-! ## The prediction -/

/-- How a check of a container and an update with it fail alike. -/
inductive SameRefusal (path : String) (v : Version) : CommandError → UpdateError → Prop where
  | container (e : ContainerError) : SameRefusal path v (.container path e) (.container none e)
  | downgrade (new : Version) : SameRefusal path v (.update (.downgrade v new)) (.downgrade v new)
  | sdkVersion : SameRefusal path v (.update (.warning .sdkVersion)) (.warning .sdkVersion)
  | outdatedClient (required : Version) :
      SameRefusal path v (.update (.outdatedClient required clientVersion))
        (.outdatedClient required clientVersion)

theorem sameRefusal_of_verdict {path : String} {v : Version} {config : UpdateConfig}
    {container : Container} {e : UpdateError} (h : verdict config (some v) container = .error e) :
    SameRefusal path v (.update e) e := by
  rw [verdict] at h
  cases hcompare : compareVersions (some v) container.version with
  | error e' =>
      rw [hcompare, Result.error_bind] at h
      cases h
      obtain ⟨_, ⟨⟩, rfl⟩ := compareVersions_error hcompare
      exact .downgrade _
  | ok same =>
      rw [hcompare, Result.ok_bind] at h
      rcases error_of_requirementsVerdict h with rfl | ⟨required, rfl⟩
      · exact .sdkVersion
      · exact .outdatedClient required

/-- A check, beside what the version check of an update leads to. -/
theorem check_alike {primitives : Primitives} {environment : Environment} {terminal : Terminal}
    {path : String} {model : Model} {v : Version} {config : UpdateConfig} {data : Bytes}
    {p : Container → Plan} {planned : Except UpdateError Plan} (hyes : terminal.assumeYes = true)
    (hfile : environment.file path = .ok data)
    (hplanned : planned = ((Container.parse primitives data model).mapError (.container none) >>=
      fun container => verdict config (some v) container >>= fun _ => .ok (p container))) :
    ((check primitives environment terminal path model (some v) config).error = none ∧
        ∃ p, planned = .ok p) ∨
      ∃ e cause, (check primitives environment terminal path model (some v) config).error = some e ∧
        planned = .error cause ∧ SameRefusal path v e cause := by
  cases hparsed : Container.parse primitives data model with
  | error e =>
      rw [hparsed] at hplanned
      exact .inr ⟨_, _, check_of_unparsed hfile hparsed, hplanned, .container e⟩
  | ok container =>
      rw [hparsed] at hplanned
      rw [check_of_parsed hyes hfile hparsed]
      cases hverdict : verdict config (some v) container with
      | ok u =>
          refine .inl ⟨rfl, p container, hplanned.trans ?_⟩
          rw [Except.mapError, Result.ok_bind, hverdict, Result.ok_bind]
      | error e =>
          refine .inr ⟨_, e, rfl, hplanned.trans ?_, sameRefusal_of_verdict hverdict⟩
          rw [Except.mapError, Result.ok_bind, hverdict, Result.error_bind]

/-- With the bytes, the settings and the installed version of an update, a check succeeds exactly if
the update gets past its version check, as long as the operator agrees and the device has nothing to
object to.  Otherwise both fail, and alike. -/
theorem check_predicts_update {σ : Type} (primitives : Primitives) (environment : Environment)
    (terminal : Terminal) (path : String) (model : Model) (v : Version) (status : Status)
    (u : Updater) (data : Bytes) (w : Surroundings Question.Answer σ) (s : σ)
    (hyes : terminal.assumeYes = true) (hfile : environment.file path = .ok data)
    (hready : Ready status)
    (hrun : ∀ x ∈ ((u.update primitives (.device model) (.bytes data)).run w s).record,
      Favourable v status x) :
    let checked := check primitives environment terminal path model (some v) u.settings.config
    let updated := (u.update primitives (.device model) (.bytes data)).run w s
    (checked.error = none ↔ told (.enter .bootloaderTransition) ∈ updated.record) ∧
      ∀ e, checked.error = some e → ∃ cause, updated.result.2 = .error cause ∧
        SameRefusal path v e cause := by
  intro checked updated
  obtain ⟨result, hcourse, hresult⟩ := course_of_update u w s
  obtain ⟨planning, planned, hplan, hsubset, hleaves, hfails⟩ := leaving_of_run hcourse
  obtain ⟨p, hleads⟩ := leadsTo_plan (v := v) hready data
  have hplanned := hleads hplan fun x hx => hrun x (hsubset hx)
  rw [hleaves]
  rcases check_alike hyes hfile hplanned with ⟨hchecked, p, rfl⟩ | ⟨e, cause, hchecked, rfl, hsame⟩
  · rw [hchecked]
    exact ⟨by simp, by rintro e ⟨⟩⟩
  · rw [hchecked]
    refine ⟨by simp, ?_⟩
    rintro _ ⟨⟩
    refine ⟨cause, ?_, hsame⟩
    rw [congrArg Prod.snd hresult, hfails cause rfl]
    rfl

namespace Trial

open Update.Trial (Scene primitives updater)

/-- One container lies at every path. -/
def environment : Environment where
  file := fun _ => .ok [0]
  fetch := .error
  save := fun _ directory _ => .ok directory

/-- A device with firmware 1.12.0. -/
def newer : Scene where
  version := [0x00, 0x40, 0x03, 0x00]

def status : Status :=
  { init := some ⟨0⟩, ifsBlocks := some 20, efsBlocks := some 0, platform := some .nrf52 }

theorem favourable {scene : Scene} {v : Version} (hagrees : ∀ c, scene.refuses c = false)
    (hversion : Admin.versionFrom (.ok scene.version) = .ok v)
    (hstatus : Admin.statusFrom (.ok scene.status) = .ok status) :
    ∀ x ∈ scene.run.record, Favourable v status x := by
  rintro ⟨q, answer⟩ hx
  obtain ⟨_, hanswer⟩ := answer_of_mem_record hx
  refine ⟨?_, ?_, ?_⟩
  · rintro c answer ⟨⟩
    exact hanswer.symm.trans (by simp [Scene.surroundings, Scene.answer, hagrees])
  · rintro answer ⟨⟩
    exact (congrArg Admin.versionFrom hanswer).symm.trans hversion
  · rintro answer ⟨⟩
    exact (congrArg Admin.statusFrom hanswer).symm.trans hstatus

end Trial

/-- The update from 1.7.0 gets to the bootloader, and the one from 1.12.0 is a downgrade. -/
theorem check_predicts_update_trial :
    let checked (v : Version) := check Update.Trial.primitives Trial.environment ⟨true, false⟩
      "firmware.zip" .nk3 (some v) Update.Trial.updater.settings.config
    let newer : Version := .ofPacked 0x400300
    let new : Version := ⟨1, 8, 2, none, none, true⟩
    (checked (.ofPacked 0x4001C0)).error = none ∧
      (checked newer).error = some (.update (.downgrade newer new)) ∧
      Trial.newer.run.result.2 = .error (.downgrade newer new) := by
  intro checked newer new
  have hready : Ready Trial.status := ⟨rfl, .inr rfl, 20, rfl, by decide⟩
  have hleaves := (check_predicts_update Update.Trial.primitives Trial.environment ⟨true, false⟩
    "firmware.zip" .nk3 (.ofPacked 0x4001C0) Trial.status Update.Trial.updater [0]
    (Update.Trial.Scene.surroundings {}) () rfl rfl hready
    (Trial.favourable (fun _ => rfl) rfl rfl)).1
  have hfails := (check_predicts_update Update.Trial.primitives Trial.environment ⟨true, false⟩
    "firmware.zip" .nk3 newer Trial.status Update.Trial.updater [0] Trial.newer.surroundings ()
    rfl rfl hready (Trial.favourable (fun _ => rfl) rfl rfl)).2
  have hchecked : (checked newer).error = some (.update (.downgrade newer new)) := by rfl
  obtain ⟨cause, hresult, hsame⟩ := hfails _ hchecked
  cases hsame
  exact ⟨hleaves.2 (List.mem_of_getElem? (i := 5) rfl), hchecked, hresult⟩

end Invocation
end Reflash
