import Reflash.Proofs.Update.FlashGate

/-!
# Update.Consent — nothing is done that the operator has not agreed to

* `Informed` — what the operator has seen and accepted when a bootloader is given an image;
* `consent_before_action` — consent comes before every act, and a refusal is the end of the update.
-/

namespace Reflash
namespace Update

open Dialogue

section

variable {primitives : Primitives} {settings : UpdateSettings} {target : UpdateTarget}
  {source : UpdateSource} {record : Record} {result : Except UpdateFailure UpdateOutcome}

structure Informed (settings : UpdateSettings) (target : UpdateTarget) (current : Option Version)
    (status : Option Status) (container : Container) (record : Record) : Prop where
  notes : ∃ lines, accepted (.notes lines) ∈ record
  warned : ∀ w, Raised settings target current status container w →
    settings.config.ignores w ∧ told (.warning w) ∈ record

/-! ## Before an act -/

theorem Consented.after_entering {current : Option Version} {status : Option Status}
    {container : Container} {planning tail : Record}
    (h : Consented primitives settings target source current status container planning) :
    Consented primitives settings target source current status container
      (told (.enter .versionCheck) :: (planning ++ tail)) := by
  simpa using h.extend [told (.enter .versionCheck)] tail

theorem RunCourse.consented_before_act
    (h : RunCourse primitives settings target source record result) {before after : Record}
    {x : Exchange Question.Answer} (hsplit : record = before ++ x :: after)
    (hact : x.1.isBootromCommand ∨ x.1.isFlash) :
    ∃ current status container,
      Consented primitives settings target source current status container before := by
  obtain ⟨planning, p, tail, rfl, hplan⟩ := h.planned_before_act hsplit hact
  exact ⟨p.current, p.status, p.container, (consented_of_plan hplan).after_entering⟩

theorem RunCourse.informed_before_flash
    (h : RunCourse primitives settings target source record result) {before after : Record}
    {x : Exchange Question.Answer} (hsplit : record = before ++ x :: after) (hflash : x.1.isFlash) :
    timesAsked Question.isNotes record = 1 ∧ ∃ current status container,
      Consented primitives settings target source current status container before ∧
        Informed settings target current status container before := by
  rcases h.flash_cases with ⟨hnone, -⟩ | ⟨_, _, _, _, p, _, _, _, migrations, _, hwritten, -⟩
  · have hquiet := List.countP_eq_zero.1 hnone x (by simp [hsplit])
    exact absurd hflash hquiet
  · obtain ⟨rfl, -, -⟩ := hwritten.split hsplit hflash
    refine ⟨hwritten.notes_once, p.current, p.status, p.container, ?_, ?_, fun w => hwritten.warned⟩
    · exact (consented_of_plan hwritten.admitted.plan).after_entering
    · obtain ⟨-, part, hsub, -, hnoted⟩ := hwritten.noted
      refine ⟨migrations.notes, hsub ?_⟩
      rw [hnoted.shown]
      exact List.mem_cons_self

/-! ## Updates that fail early -/

/-- A version check that fails is the end, so that the device was only asked and let go of. -/
theorem RunCourse.asks_of_versionCheck
    (h : RunCourse primitives settings target source record result)
    (honly : ∀ step, told (.enter step) ∈ record → step = .versionCheck) :
    ∀ x ∈ record, x.1.isBeyondCheck = false ∧ ∀ role call, x.1 = .device role call →
      role = .initial ∧ (call = Admin.versionCall ∨ call = Admin.statusCall ∨ call = .close) := by
  cases h with
  | refused hplan hclosing =>
      intro x hx
      simp only [List.mem_cons, List.mem_append] at hx
      rcases hx with rfl | hx | hx
      · refine ⟨rfl, ?_⟩
        rintro role call ⟨⟩
      · have hfits := (WithinStep.plan primitives settings target source).asks hplan x hx
        obtain ⟨hbeyond, hdevice⟩ := hfits.of_versionCheck
        refine ⟨hbeyond, ?_⟩
        intro role call hcall
        obtain ⟨hrole, hversion | hstatus⟩ := hdevice role call hcall
        · exact ⟨hrole, .inl hversion⟩
        · exact ⟨hrole, .inr (.inl hstatus)⟩
      · rw [hclosing x hx]
        refine ⟨rfl, ?_⟩
        rintro role call ⟨⟩
        exact ⟨rfl, .inr (.inr rfl)⟩
  | stranded hplan henter => cases honly .bootloaderTransition (by simp)
  | rejected closed hplan henter hvalidate => cases honly .bootloaderTransition (by simp)
  | unflashed closed h hflash => cases honly .bootloaderTransition (by simp)
  | flashed closed h hflash hwait => cases honly .bootloaderTransition (by simp)

end

theorem consent_before_action {σ : Type} (primitives : Primitives) (u : Updater)
    (target : UpdateTarget) (source : UpdateSource) (w : Surroundings Question.Answer σ) (s : σ) :
    let outcome := (u.update primitives target source).run w s
    timesAsked Question.isBootromCommand outcome.record ≤ 1 ∧
    (∀ before x after, outcome.record = before ++ x :: after →
      x.1.isBootromCommand ∨ x.1.isFlash → ∃ current status container,
        Consented primitives u.settings target source current status container before) ∧
    (∀ before x after, outcome.record = before ++ x :: after → x.1.isFlash →
      timesAsked Question.isNotes outcome.record = 1 ∧ ∃ current status container,
        Consented primitives u.settings target source current status container before ∧
          Informed u.settings target current status container before) ∧
    (∀ before c e after, outcome.record = before ++ refused c e :: after →
      outcome.result.2 = .error e ∧ ∀ x ∈ after, x.1.isClose) ∧
    ((∀ step, told (.enter step) ∈ outcome.record → step = .versionCheck) →
      ∀ x ∈ outcome.record, x.1.isBeyondCheck = false ∧ ∀ role call, x.1 = .device role call →
        role = .initial ∧
          (call = Admin.versionCall ∨ call = Admin.statusCall ∨ call = .close)) := by
  intro outcome
  obtain ⟨result, hrun, hresult⟩ := runCourse_of_update u w s
  refine ⟨hrun.bootrom_once, fun _ _ _ => hrun.consented_before_act,
    fun _ _ _ => hrun.informed_before_flash, ?_, hrun.asks_of_versionCheck⟩
  intro before c e after hsplit
  obtain ⟨hclosing, step, rfl⟩ := hrun.heeds before c e after hsplit
  exact ⟨congrArg Prod.snd hresult, hclosing⟩

/-! ## Runs with and without consent -/

/-- The operator does not want the update. -/
def Trial.declined : Trial.Scene where
  refuses
    | .update .. => true
    | _ => false

theorem consent_before_action_trial :
    (∃ before x after, (Trial.Scene.run {}).record = before ++ x :: after ∧
      x.1 = .bootloader (.attempt 1) (.update [2]) ∧ ∃ current status container,
        Consented Trial.primitives Trial.updater.settings (.device .nk3) (.bytes [0]) current status
          container before ∧
        Informed Trial.updater.settings (.device .nk3) current status container before) ∧
    (∃ before c after, Trial.declined.run.record = before ++ refused c .aborted :: after ∧
      Trial.declined.run.result.2 = .error .aborted ∧ ∀ x ∈ after, x.1.isClose) ∧
    ∀ x ∈ Trial.declined.run.record, x.1.isBeyondCheck = false ∧
      ∀ role call, x.1 = .device role call → role = .initial ∧
        (call = Admin.versionCall ∨ call = Admin.statusCall ∨ call = .close) := by
  have hagreed := consent_before_action Trial.primitives Trial.updater (.device .nk3) (.bytes [0])
    (Trial.Scene.surroundings {}) ()
  have hdeclined := consent_before_action Trial.primitives Trial.updater (.device .nk3) (.bytes [0])
    Trial.declined.surroundings ()
  refine ⟨?_, ?_, hdeclined.2.2.2.2 ?_⟩
  · have hasked : Asked (Trial.Scene.run {}).record (.bootloader (.attempt 1) (.update [2])) := by
      decide +kernel
    obtain ⟨x, hx, hq⟩ := hasked
    obtain ⟨before, after, hsplit⟩ := List.append_of_mem hx
    obtain ⟨-, hinformed⟩ := hagreed.2.2.1 before x after hsplit (by rw [hq]; rfl)
    exact ⟨before, x, after, hsplit, hq, hinformed⟩
  · have hrefused : ∃ c, refused c .aborted ∈ Trial.declined.run.record :=
      ⟨.update (some (.ofPacked 0x4001C0)) ⟨1, 8, 2, none, none, true⟩,
        List.mem_of_getElem? (i := 3) rfl⟩
    obtain ⟨c, hmem⟩ := hrefused
    obtain ⟨before, after, hsplit⟩ := List.append_of_mem hmem
    exact ⟨before, c, after, hsplit, hdeclined.2.2.2.1 before c .aborted after hsplit⟩
  · intro step hmem
    have hasked : Asked Trial.declined.run.record (.tell (.enter step)) := asked_iff.2 ⟨(), hmem⟩
    cases step with
    | versionCheck => rfl
    | _ => exact absurd hasked (by decide +kernel)

end Update
end Reflash
