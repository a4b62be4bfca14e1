import Reflash.Proofs.Image.Verdict
import Reflash.Proofs.Update.Planning

/-!
# Update.Installation — courses of validating, flashing and waiting

* `course_validateImage_ok` — what is known of an image that may be flashed;
* `course_flash` — the bootloader is asked exactly once, between notices of a progress bar;
* `WithinStep.finalize` — after that only the device that comes back is asked.
-/

namespace Reflash
namespace Update

open Dialogue

variable {record : Record}

section

variable (primitives : Primitives) (settings : UpdateSettings)

/-! ## Validation -/

theorem WithinStep.validateImage (model : Model) (variant : Variant) (p : Plan) :
    WithinStep Question.IsMigrationTalk .imageValidation
      (validateImage primitives settings model variant p) := by
  rw [Update.validateImage]
  split
  · split
    · exact .throw rfl
    · split
      · exact .pure _
      · exact .seq (.checkMigrations model variant _ _ _ (.inr rfl)) fun _ => .pure _
  · exact .throw rfl

/-- What is checked of an image before it is flashed, and which migrations are gone by. -/
structure Validated (model : Model) (variant : Variant) (p : Plan) (image : Bytes)
    (migrations : Migrations) (noted : Record) : Prop where
  held : p.container.image? variant = some image
  official : ∃ info, Image.validate primitives variant image p.container.version
    (anchors settings model) = .ok info
  known : ∀ m, p.migrations = some m → migrations = m ∧ noted = []
  unknown : p.migrations = none →
    migrations = Migrations.of model variant p.current p.container.version ∧
      Noted settings.config migrations p.status noted

theorem course_validateImage_ok {model : Model} {variant : Variant} {p : Plan} {image : Bytes}
    {migrations : Migrations}
    (h : Course (validateImage primitives settings model variant p).run record
      (.ok (image, migrations))) :
    Validated primitives settings model variant p image migrations record := by
  rw [validateImage] at h
  split at h
  next found hfound =>
    split at h
    next e he =>
      cases (course_throw.1 h).2
    next info hinfo =>
      split at h
      next known hknown =>
        obtain ⟨rfl, hresult⟩ := course_pure.1 h
        cases hresult
        refine ⟨hfound, ⟨info, hinfo⟩, ?_, fun hnone => by simp [hknown] at hnone⟩
        intro m hm
        obtain rfl : migrations = m := by simpa [hknown] using hm
        exact ⟨rfl, rfl⟩
      next hnone =>
        obtain ⟨noted, m, _, rfl, hchecked, hdone⟩ := course_seq_ok.1 h
        obtain ⟨rfl, hresult⟩ := course_pure.1 hdone
        cases hresult
        obtain ⟨hof, hnoted⟩ := noted_of_checkMigrations hchecked
        refine ⟨hfound, ⟨info, hinfo⟩, fun m hm => by simp [hnone] at hm, fun _ => ⟨hof, ?_⟩⟩
        simpa using hnoted
  next =>
    cases (course_throw.1 h).2

end

/-! ## Flashing -/

theorem course_flash {role : BootloaderRole} {image : Bytes} {result : Except UpdateError Unit}
    (h : Course (flash role image).run record result) :
    ∃ progress answer bars,
      record = told (.barStart .update none) ::
        ⟨.bootloader role (.update image), (progress, answer)⟩ :: bars ∧
      (∀ x ∈ bars, x.1.isBar .update) ∧ result = answer.mapError .flashFailed := by
  obtain ⟨_, rfl, h₁⟩ := course_tell_seq.1 h
  obtain ⟨⟨progress, answer⟩, _, rfl, h₂⟩ := course_ask_seq.1 h₁
  obtain ⟨bars, _, rfl, hshown, h₃⟩ := course_showProgress_seq h₂
  obtain ⟨rest, rfl, hrest⟩ := course_tell_seq.1 h₃
  have hdone : rest = [] ∧ result = answer.mapError .flashFailed := by
    cases answer with
    | ok u => exact course_pure.1 hrest
    | error e => exact course_throw.1 hrest
  obtain ⟨rfl, rfl⟩ := hdone
  refine ⟨progress, answer, bars ++ [told (.barFinish .update)], rfl, ?_, rfl⟩
  intro x hx
  rcases List.mem_append.1 hx with hx | hx
  · exact hshown x hx
  · obtain rfl := List.mem_singleton.1 hx
    rfl

theorem WithinStep.flash (role : BootloaderRole) (image : Bytes) :
    WithinStep (Question.Fits .flashing) .flashing (flash role image) := by
  refine .seq (.tell (.bar rfl)) fun _ => .seq (.ask (.flash role image) rfl) ?_
  rintro ⟨progress, answer⟩
  refine .seq (.showProgress progress fun _ => .bar) fun _ => .seq (.tell (.bar rfl)) fun _ => ?_
  cases answer with
  | ok u => exact .pure ()
  | error e => exact .throw rfl

/-! ## Finalization -/

theorem WithinStep.checkInstalled (model : Model) (expected : Version) (retries : Nat) :
    WithinStep (Question.IsReturn model retries) .finalizationWait (checkInstalled expected) := by
  have hstatus : WithinStep (Question.IsReturn model retries) .finalizationWait
      (Update.withDevice .returned (.device .finalizationWait .readStatus) Admin.status) :=
    .withDevice Admin.run_status .status fun _ => rfl
  refine .seq (.withDevice Admin.run_version .version fun _ => rfl) fun version => ?_
  dsimp only
  split
  · exact .seq (.throw rfl) fun _ => hstatus
  · exact hstatus

theorem WithinStep.finalize (model : Model) (expected : Version) (retries : Nat) :
    WithinStep (Question.IsReturn model retries) .finalizationWait
      (finalize model expected retries) := by
  have hquiet : ∀ q, Question.IsReturn model retries q → q.isConfirm = false := fun q hq =>
    hq.inert.2.2.1
  refine .seq (.tell (.bar rfl)) fun _ => .always ?_ hquiet ?_
  · refine .seq (.ask .await rfl) ?_
    rintro ⟨progress, answer⟩
    refine .seq (.showProgress progress fun _ => .bar) fun _ => ?_
    cases answer with
    | error e => exact .throw rfl
    | ok u =>
        refine .always (.checkInstalled model expected retries) hquiet ?_
        intro record u h x hx
        obtain ⟨answer, rfl⟩ := course_closeDevice.1 h
        obtain rfl := List.mem_singleton.1 hx
        exact .close
  · intro record u h x hx
    obtain rfl := course_query.1 h
    obtain rfl := List.mem_singleton.1 hx
    exact .bar rfl

/-- The device is waited for, whatever comes of it. -/
theorem asked_of_finalize {model : Model} {expected : Version} {retries : Nat}
    {result : Except UpdateError Status}
    (h : Course (finalize model expected retries).run record result) :
    Asked record (.awaitDevice model retries) := by
  obtain ⟨_, rfl, h₁⟩ := course_tell_seq.1 h
  obtain ⟨waiting, _, rfl, hwait, -⟩ := course_thenAlways.1 h₁
  obtain ⟨answer, _, rfl, -⟩ := course_ask_seq.1 hwait
  exact asked_iff.2 ⟨answer, by simp⟩

/-- Nobody is asked for anything any more, so that the failure is one of this step. -/
theorem step?_of_finalize {model : Model} {expected : Version} {retries : Nat} {e : UpdateError}
    (h : Course (finalize model expected retries).run record (.error e)) :
    e.step? = some .finalizationWait := by
  have hwithin := WithinStep.finalize model expected retries
  cases hwithin.blames h with
  | own h => exact h
  | warning w _ hstep =>
      rcases hstep with hstep | hstep
      · cases hstep
      · cases hstep
  | refusal c hmem =>
      have hconfirm := (hwithin.asks h _ hmem).inert.2.2.1
      simp [refused, Question.isConfirm] at hconfirm

end Update
end Reflash
