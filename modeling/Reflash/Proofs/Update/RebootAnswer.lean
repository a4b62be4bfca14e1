import Reflash.Proofs.Update.FlashGate

/-!
# Update.RebootAnswer — what an update makes of the answer to the reboot command

* `rebootResult_of_tolerated`, `rebootResult_of_not_tolerated` — the three layers that read an error
  of the connection, as one;
* `split_unique` — a record has one place for what is asked once;
* `RunCourse.fatal_reboot`, `RunCourse.tolerated_reboot` — the update ends right after the command,
  or it looks for a bootloader;
* `reboot_answer` — which errors end it, and how.
-/

namespace Reflash
namespace Update

open Dialogue

/-! ## Reading the answer -/

/-- The failure that an error of the connection stands for. -/
def rebootError (cause : DeviceError) : UpdateError :=
  if cause = .unconfirmed ∨ cause.statusCode? = some .invalidLength then .rebootNotConfirmed
  else .device .bootloaderTransition .reboot cause

/-- A device may vanish.  One that does not know the command is taken for one that follows it. -/
def Tolerated (cause : DeviceError) : Prop :=
  cause.isDisconnect ∨ cause.statusCode? = some .invalidCommand

theorem rebootResult_ok (reply : Bytes) : rebootResult (.ok reply) = .ok () := rfl

theorem rebootResult_of_tolerated {cause : DeviceError} (h : Tolerated cause) :
    rebootResult (.error cause) = .ok () := by
  cases cause with
  | disconnected device => rfl
  | communication device message => rfl
  | rejected command code =>
      rcases h with h | h
      · cases h
      · cases h
        rfl
  | _ =>
      rcases h with h | h
      · cases h
      · cases h

theorem rebootResult_of_not_tolerated {cause : DeviceError} (h : ¬ Tolerated cause) :
    rebootResult (.error cause) = .error (rebootError cause) := by
  cases cause with
  | disconnected device => exact absurd (.inl rfl) h
  | communication device message => exact absurd (.inl rfl) h
  | rejected command code =>
      -- Of all status codes only two are read in another way than as an error of the device.
      have hknown : code ≠ .invalidCommand := fun hcode => h (.inr (congrArg some hcode))
      by_cases hlength : code = .invalidLength
      · subst hlength
        rfl
      · simp [rebootResult, rebootError, Admin.bootromFrom, Admin.received, Admin.rebooted,
          rebootFailure?, DeviceError.statusCode?, DeviceError.isDisconnect, hknown, hlength]
  | _ => rfl

/-- The command went through. -/
theorem rebootResult_eq_ok_iff {answer : Except DeviceError Bytes} :
    rebootResult answer = .ok () ↔ ∀ cause, answer = .error cause → Tolerated cause := by
  cases answer with
  | ok reply => exact iff_of_true (rebootResult_ok reply) nofun
  | error cause =>
      constructor
      · rintro hok _ ⟨⟩
        by_contra hfatal
        rw [rebootResult_of_not_tolerated hfatal] at hok
        cases hok
      · intro htolerated
        exact rebootResult_of_tolerated (htolerated cause rfl)

/-- A search without an attempt fails, and any other one begins with waiting for a bootloader. -/
theorem awaits_of_findBootloader {model : Model} {delay remaining : Nat} {found : Record}
    {result : Except UpdateError (BootloaderRole × Variant)}
    (h : Course (findBootloader model delay 0 none remaining).run found result) :
    Asked found (.awaitBootloader model 1) ∨
      result = .error (.bootloaderUnreachable model 0 none) := by
  cases remaining with
  | zero =>
      exact .inr (course_throw.1 h).2
  | succ remaining =>
      -- There is no pause before the first attempt.
      rw [findBootloader_succ, if_neg (Nat.lt_irrefl 0), pure_bind] at h
      obtain ⟨_, answer, rest, rfl, hconnect, -⟩ := course_lift_seq.1 h
      rcases course_connect.1 hconnect with ⟨e, rfl, -⟩ | ⟨met, uuid, rfl, -⟩
      · exact .inl ⟨_, List.mem_cons_self, rfl⟩
      · exact .inl ⟨_, List.mem_cons_self, rfl⟩

/-! ## The place of the command -/

section

variable {primitives : Primitives} {settings : UpdateSettings} {target : UpdateTarget}
  {source : UpdateSource} {record : Record} {result : Except UpdateFailure UpdateOutcome}

/-- The command has its place in the transition, before which nothing but the version check is gone
through, and after which nothing happens if it fails. -/
theorem RunCourse.entering_cases
    (h : RunCourse primitives settings target source record result) :
    timesAsked Question.isBootromCommand record = 0 ∨ ∃ before entering rest x,
      record = before ++ (entering ++ rest) ∧
      timesAsked Question.isBootromCommand record = timesAsked Question.isBootromCommand entering ∧
      timesAsked Question.isBeyondCheck before = 0 ∧
      Course (enterBootloader settings target).run entering x ∧
      ∀ e, x = .error e → rest = [] ∧ result = .error ⟨.bootloaderTransition, e⟩ := by
  have hchecked : ∀ {planning : Record} {x : Except UpdateError Plan},
      Course (plan primitives settings target source).run planning x →
        timesAsked Question.isBeyondCheck (told (.enter .versionCheck) ::
          (planning ++ [told (.enter .bootloaderTransition)])) = 0 := by
    intro planning x hplan
    have hplanning := (WithinStep.plan primitives settings target source).timesAsked_eq_zero hplan
      fun _ hq => hq.of_versionCheck.1
    simp [hplanning, told, Question.isBeyondCheck]
  -- The announcement of the transition is taken to what comes before it.
  have hplace : ∀ planning entering rest : Record,
      told (.enter .versionCheck) ::
          (planning ++ told (.enter .bootloaderTransition) :: (entering ++ rest)) =
        (told (.enter .versionCheck) :: (planning ++ [told (.enter .bootloaderTransition)])) ++
          (entering ++ rest) := by
    simp
  cases h with
  | refused hplan hclosing =>
      refine .inl ?_
      simp [no_bootrom_of_plan hplan, no_bootrom_of_closing hclosing, told,
        Question.isBootromCommand]
  | stranded hplan henter =>
      refine .inr ⟨_, _, [], _, by simp, ?_, hchecked hplan, henter, ?_⟩
      · simp [no_bootrom_of_plan hplan, told, Question.isBootromCommand]
      · rintro e ⟨⟩
        exact ⟨rfl, rfl⟩
  | rejected closed hplan henter hvalidate =>
      refine .inr ⟨_, _, _, _, hplace _ _ _, ?_, hchecked hplan, henter, by rintro e ⟨⟩⟩
      simp [no_bootrom_of_plan hplan, no_bootrom_of_validateImage hvalidate, told,
        Question.isBootromCommand]
  | unflashed closed h hflash =>
      refine .inr ⟨_, _, _, _, hplace _ _ _, ?_, hchecked h.plan, h.enter, by rintro e ⟨⟩⟩
      simp [no_bootrom_of_plan h.plan, no_bootrom_of_validateImage h.validate,
        no_bootrom_of_flash hflash, told, Question.isBootromCommand]
  | flashed closed h hflash hwait =>
      refine .inr ⟨_, _, _, _, hplace _ _ _, ?_, hchecked h.plan, h.enter, by rintro e ⟨⟩⟩
      simp [no_bootrom_of_plan h.plan, no_bootrom_of_validateImage h.validate,
        no_bootrom_of_flash hflash, no_bootrom_of_finalize hwait, told, Question.isBootromCommand]

/-- After the command the device is let go of.  Then the update is over, or it waits for a
bootloader. -/
theorem RunCourse.reboot_cases
    (h : RunCourse primitives settings target source record result) {before after : Record}
    {role : DeviceRole} {answer : Except DeviceError Bytes}
    (hsplit : record = before ++ ⟨.device role Admin.bootromCall, answer⟩ :: after) :
    ∃ closing rest, after = ⟨.device .initial .close, closing⟩ :: rest ∧
      timesAsked Question.isBeyondCheck before = 0 ∧
      ((∃ e, rebootResult answer = .error e ∧ rest = [] ∧
          result = .error ⟨.bootloaderTransition, e⟩) ∨
        ∃ found, rebootResult answer = .ok () ∧
          rest = told (.sleep settings.config.settleDelay) :: told .hint :: found ∧
          (Asked found (.awaitBootloader target.model 1) ∨
            result =
              .error ⟨.bootloaderTransition, .bootloaderUnreachable target.model 0 none⟩)) := by
  have honce := h.bootrom_once
  have hsent : 0 < timesAsked Question.isBootromCommand record :=
    List.countP_pos_iff.2 ⟨⟨.device role Admin.bootromCall, answer⟩, by simp [hsplit], rfl⟩
  rcases h.entering_cases with
    hnone | ⟨first, entering, rest, x, rfl, hcount, hfirst, henter, hfails⟩
  · omega
  cases target with
  | bootloader model variant =>
      -- No command is sent if the update starts with a bootloader.
      obtain ⟨rfl, -⟩ := (course_enterBootloader_bootloader settings).1 henter
      rw [hcount] at hsent
      cases hsent
  | device model =>
      obtain ⟨sent, closing, found, rfl, hcases⟩ := course_enterBootloader_device settings henter
      -- The command of the transition is the one that was split off.
      have hplaces : (first ++ [told .touch]) ++ ⟨.device .initial Admin.bootromCall, sent⟩ ::
          ⟨.device .initial .close, closing⟩ :: (found ++ rest) =
            before ++ ⟨.device role Admin.bootromCall, answer⟩ :: after := by
        simpa using hsplit
      obtain ⟨rfl, hsame, rfl⟩ := split_unique (f := Question.isBootromCommand) hplaces
        (by rw [hplaces, ← hsplit]; exact honce) rfl rfl
      cases hsame
      refine ⟨closing, found ++ rest, rfl, by simp [hfirst, told, Question.isBeyondCheck], ?_⟩
      rcases hcases with ⟨e, he, rfl, rfl⟩ | ⟨found, hok, rfl, hfound⟩
      · obtain ⟨rfl, rfl⟩ := hfails e rfl
        exact .inl ⟨e, he, rfl, rfl⟩
      · refine .inr ⟨found ++ rest, hok, rfl, ?_⟩
        rcases awaits_of_findBootloader hfound with ⟨y, hy, hq⟩ | rfl
        · exact .inl ⟨y, List.mem_append_left _ hy, hq⟩
        · obtain ⟨-, rfl⟩ := hfails _ rfl
          exact .inr rfl

/-- An error that is not tolerated is the last word. -/
theorem RunCourse.fatal_reboot
    (h : RunCourse primitives settings target source record result) {before after : Record}
    {role : DeviceRole} {cause : DeviceError}
    (hsplit : record = before ++ ⟨.device role Admin.bootromCall, .error cause⟩ :: after)
    (hfatal : ¬ Tolerated cause) :
    result = .error ⟨.bootloaderTransition, rebootError cause⟩ ∧
      timesAsked Question.isBeyondCheck record = 0 ∧
      ∃ closing, after = [⟨.device .initial .close, closing⟩] := by
  obtain ⟨closing, rest, rfl, hbefore, hcases⟩ := h.reboot_cases hsplit
  rw [rebootResult_of_not_tolerated hfatal] at hcases
  rcases hcases with ⟨_, ⟨⟩, rfl, rfl⟩ | ⟨found, hok, -⟩
  case inr => cases hok
  refine ⟨rfl, ?_, closing, rfl⟩
  simp [hsplit, hbefore, Question.isBeyondCheck]

/-- After any other answer a bootloader is waited for, or there are no attempts and it counts as
unreachable. -/
theorem RunCourse.tolerated_reboot
    (h : RunCourse primitives settings target source record result) {before after : Record}
    {role : DeviceRole} {answer : Except DeviceError Bytes}
    (hsplit : record = before ++ ⟨.device role Admin.bootromCall, answer⟩ :: after)
    (htolerated : ∀ cause, answer = .error cause → Tolerated cause) :
    (∃ closing found, after = ⟨.device .initial .close, closing⟩ ::
        told (.sleep settings.config.settleDelay) :: told .hint :: found) ∧
      (Asked record (.awaitBootloader target.model 1) ∨
        result = .error ⟨.bootloaderTransition, .bootloaderUnreachable target.model 0 none⟩) := by
  have hok : rebootResult answer = .ok () := rebootResult_eq_ok_iff.2 htolerated
  obtain ⟨closing, rest, rfl, -, hcases⟩ := h.reboot_cases hsplit
  rw [hok] at hcases
  rcases hcases with ⟨e, he, -⟩ | ⟨found, -, rfl, hsearch⟩
  case inl => cases he
  refine ⟨⟨closing, found, rfl⟩, hsearch.imp_left ?_⟩
  rintro ⟨x, hx, hq⟩
  exact ⟨x, by simp [hsplit, hx], hq⟩

end

/-- The update has failed in the transition, and no bootloader was waited for or asked for
anything. -/
structure Halted {σ : Type}
    (outcome : Outcome Question.Answer σ (Updater × Except UpdateError UpdateOutcome))
    (e : UpdateError) : Prop where
  result : outcome.result.2 = .error e
  state : outcome.result.1.state = .failed .bootloaderTransition e.message
  unmet : timesAsked Question.isBeyondCheck outcome.record = 0

theorem rebootError_ne_unreachable {cause : DeviceError} {model : Model} {attempts : Nat}
    {last : Option DeviceError} :
    rebootError cause ≠ .bootloaderUnreachable model attempts last := by
  rw [rebootError]
  split
  · nofun
  · nofun

theorem step?_rebootError {cause : DeviceError} :
    (rebootError cause).step? = some .bootloaderTransition := by
  rw [rebootError]
  split
  · rfl
  · rfl

/-- An error of a device that is still there ends the update, except for the one that says that the
firmware does not know the command: after that one a bootloader is looked for as if the device were
on its way. -/
theorem reboot_answer {σ : Type} (primitives : Primitives) (u : Updater) (target : UpdateTarget)
    (source : UpdateSource) (w : Surroundings Question.Answer σ) (s : σ) :
    let outcome := (u.update primitives target source).run w s
    ∀ before role (answer : Except DeviceError Bytes) after,
      outcome.record = before ++ ⟨.device role Admin.bootromCall, answer⟩ :: after →
        (∀ cause, answer = .error cause → ¬ cause.isDisconnect →
          (Halted outcome (rebootError cause) ↔ cause.statusCode? ≠ some .invalidCommand)) ∧
        ((∃ closing found, after = ⟨.device .initial .close, closing⟩ ::
            told (.sleep u.settings.config.settleDelay) :: told .hint :: found) ↔
          ∀ cause, answer = .error cause → Tolerated cause) := by
  intro outcome before role answer after hsplit
  obtain ⟨result, hrun, hresult⟩ : ∃ result,
      RunCourse primitives u.settings target source outcome.record result ∧
        outcome.result = ({ u with state := .after result }, result.mapError UpdateFailure.error) :=
    runCourse_of_update u w s
  refine ⟨?_, ?_⟩
  · rintro cause rfl hpresent
    constructor
    · intro hhalted hunknown
      -- The update goes on, so that it waits for a bootloader or fails for want of one.
      have htolerated : ∀ cause', (.error cause : Except DeviceError Bytes) = .error cause' →
          Tolerated cause' := by
        rintro _ ⟨⟩
        exact .inr hunknown
      obtain ⟨-, hasked | rfl⟩ := hrun.tolerated_reboot hsplit htolerated
      · exact not_asked_of_timesAsked hhalted.unmet rfl hasked
      · have hfailed := hhalted.result
        rw [hresult] at hfailed
        exact rebootError_ne_unreachable (Except.error.inj hfailed).symm
    · intro hknown
      obtain ⟨rfl, hunmet, -⟩ := hrun.fatal_reboot hsplit fun h => h.elim hpresent hknown
      refine ⟨congrArg Prod.snd hresult, ?_, hunmet⟩
      rw [hresult]
      simp [UpdateState.after, step?_rebootError]
  · constructor
    · rintro ⟨closing, found, hafter⟩ cause rfl
      by_contra hfatal
      obtain ⟨-, -, closing', hlast⟩ := hrun.fatal_reboot hsplit hfatal
      cases hafter.symm.trans hlast
    · exact fun htolerated => (hrun.tolerated_reboot hsplit htolerated).1

/-! ## Firmware that does not know the command -/

namespace Trial

/-- The device of the usual scene, but for its answer to the reboot command. -/
def answering (answer : Except DeviceError Bytes) : Surroundings Question.Answer Unit :=
  fun s q =>
    match q with
    | .device role (.send (.direct code name data) length) =>
        if code = AdminCommand.update.code then (answer, s)
        else Scene.surroundings {} s (.device role (.send (.direct code name data) length))
    | q => Scene.surroundings {} s q

def rebootRun (answer : Except DeviceError Bytes) :
    Outcome Question.Answer Unit (Updater × Except UpdateError UpdateOutcome) :=
  (updater.update primitives (.device .nk3) (.bytes [0])).run (answering answer) ()

end Trial

/-- A device that refuses to reboot ends the update.  One that does not know how to does not end it,
and an image is written. -/
theorem reboot_answer_trial :
    let refusal : DeviceError := .rejected "UPDATE" ⟨0x27⟩
    let ignorance : DeviceError := .rejected "UPDATE" .invalidCommand
    Halted (Trial.rebootRun (.error refusal)) (rebootError refusal) ∧
      ¬ Halted (Trial.rebootRun (.error ignorance)) (rebootError ignorance) ∧
      Flashed (Trial.rebootRun (.error ignorance)).record := by
  intro refusal ignorance
  have hrefused : (Trial.rebootRun (.error refusal)).record =
      (Trial.rebootRun (.error refusal)).record.take 7 ++
        ⟨.device .initial Admin.bootromCall, .error refusal⟩ ::
          (Trial.rebootRun (.error refusal)).record.drop 8 := by
    rfl
  have hignored : (Trial.rebootRun (.error ignorance)).record =
      (Trial.rebootRun (.error ignorance)).record.take 7 ++
        ⟨.device .initial Admin.bootromCall, .error ignorance⟩ ::
          (Trial.rebootRun (.error ignorance)).record.drop 8 := by
    rfl
  have hflashed : Flashed (Trial.rebootRun (.error ignorance)).record :=
    ⟨.attempt 1, [2], [], List.mem_of_getElem? (i := 16) rfl⟩
  obtain ⟨hhalts, -⟩ := reboot_answer Trial.primitives Trial.updater (.device .nk3) (.bytes [0])
    (Trial.answering (.error refusal)) () _ _ _ _ hrefused
  obtain ⟨hgoes, -⟩ := reboot_answer Trial.primitives Trial.updater (.device .nk3) (.bytes [0])
    (Trial.answering (.error ignorance)) () _ _ _ _ hignored
  refine ⟨(hhalts refusal rfl (by decide)).2 (by decide), ?_, hflashed⟩
  intro hhalted
  exact (hgoes ignorance rfl (by decide)).1 hhalted rfl

end Update
end Reflash
