import Reflash.Proofs.Update.FailureReport
import Reflash.Proofs.Update.MigrationChoice

/-!
# Update.Success — what it takes for an update to succeed

* `Inspected` — what the device that came back is asked, and what follows from its answers;
* `course_finalize` — a device is waited for once, and inspected only if it came back;
* `RunCourse.return_cases` — nothing of this happens before a bootloader said that it wrote an
  image;
* `success_meaning` — an update succeeds exactly if the device came back and told the new version
  and a status.
-/

namespace Reflash

/-- Only the first migration is waited for longer. -/
theorem Migrations.retries_eq (m : Migrations) :
    m.retries = if m.contains .nrfFileSystem then 500 else 60 := by
  obtain ⟨nrf, v2⟩ := m
  cases nrf with
  | true => cases v2 <;> rfl
  | false => cases v2 <;> rfl

namespace Update

open Dialogue

/-! ## What is asked of the device that comes back -/

namespace Question

/-- A device is waited for. -/
def isWait : Question → Bool
  | .awaitDevice _ _ => true
  | _ => false

/-- A device is waited for, or the one that came back is asked for something. -/
def isReturning : Question → Bool
  | .awaitDevice _ _ => true
  | .device .returned call => call ≠ .close
  | _ => false

variable {q : Question} {step : UpdateStep}

theorem isReturning_of_isWait (h : q.isWait) : q.isReturning := by
  cases q with
  | awaitDevice model retries => rfl
  | _ => cases h

theorem isReturning_of_isBar {bar : Bar} (h : q.isBar bar) : q.isReturning = false := by
  obtain ⟨n, rfl⟩ := tell_of_isBar h
  rfl

theorem IsInquiry.not_returning (h : q.IsInquiry) : q.isReturning = false := by
  cases h with
  | talk h =>
      cases h with
      | _ => rfl
  | bar h => exact isReturning_of_isBar h
  | _ => rfl

/-- Before the last step nobody deals with the device that comes back. -/
theorem Fits.not_returning (h : q.Fits step) (hstep : step ≠ .finalizationWait) :
    q.isReturning = false := by
  cases h with
  | inquiry h => exact h.not_returning
  | migration h =>
      cases h with
      | _ => rfl
  | search h =>
      cases h with
      | _ => rfl
  | lateMigration h =>
      cases h with
      | _ => rfl
  | bar h => exact isReturning_of_isBar h
  | returning h => exact absurd rfl hstep
  | _ => rfl

end Question

/-- A device is said to be back. -/
def CameBack (record : Record) : Prop :=
  ∃ model retries progress, ⟨.awaitDevice model retries, (progress, .ok ())⟩ ∈ record

/-- The device that came back was asked for its version and told it. -/
def ReturnedVersion (record : Record) (v : Version) : Prop :=
  ∃ answer, ⟨.device .returned Admin.versionCall, answer⟩ ∈ record ∧
    Admin.versionFrom answer = .ok v

def ReturnedStatus (record : Record) (status : Status) : Prop :=
  ∃ answer, ⟨.device .returned Admin.statusCall, answer⟩ ∈ record ∧
    Admin.statusFrom answer = .ok status

/-- The source gave bytes that hold this container. -/
def Opened (primitives : Primitives) (model : Model) (source : UpdateSource) (record : Record)
    (container : Container) : Prop :=
  ∃ data, Supplied source record data ∧ Container.parse primitives data model = .ok container

/-- The migrations that are gone by follow from the container and from what is known when its image
is written. -/
def Chosen (primitives : Primitives) (target : UpdateTarget) (source : UpdateSource)
    (record : Record) (container : Container) (migrations : Migrations) : Prop :=
  ∃ role current status variant,
    KnownAtFlash primitives target source record role current status container variant ∧
    migrations = Migrations.of target.model (decidingVariant target status variant) current
      container.version ∧
    GoesBy target.model status migrations record

section

variable {primitives : Primitives} {target : UpdateTarget} {source : UpdateSource} {record : Record}
  {container other : Container} {migrations : Migrations}

/-- There is one container that the source can have given. -/
theorem Chosen.eq_of_opened (h : Chosen primitives target source record container migrations)
    (hopened : Opened primitives target.model source record other) : other = container := by
  obtain ⟨role, current, status, variant, hknown, -⟩ := h
  obtain ⟨data, -, hunique, hparsed⟩ := hknown.parsed
  obtain ⟨data', hdata', hparsed'⟩ := hopened
  rw [hunique data' hdata', hparsed] at hparsed'
  cases hparsed'
  rfl

theorem Chosen.patience (h : Chosen primitives target source record container migrations)
    {model : Model} {retries : Nat} (hasked : Asked record (.awaitDevice model retries)) :
    model = target.model ∧ retries = migrations.retries := by
  obtain ⟨role, current, status, variant, -, -, hgoes⟩ := h
  exact hgoes.patience model retries hasked

end

/-! ## The inspection -/

/-- The device is asked for its status only if its version is the expected one. -/
inductive Inspected (expected : Version) : Record → Except UpdateError Status → Prop where
  | mute {answer : Except DeviceError Bytes} {e : DeviceError}
      (hversion : Admin.versionFrom answer = .error e) :
      Inspected expected [⟨.device .returned Admin.versionCall, answer⟩]
        (.error (.device .finalizationWait .readVersion e))
  | otherVersion {answer : Except DeviceError Bytes} {v : Version}
      (hversion : Admin.versionFrom answer = .ok v) (hother : ¬ v.Level expected) :
      Inspected expected [⟨.device .returned Admin.versionCall, answer⟩]
        (.error (.versionNotInstalled expected v))
  | sameVersion {answer answer' : Except DeviceError Bytes} {v : Version}
      (hversion : Admin.versionFrom answer = .ok v) (hlevel : v.Level expected) :
      Inspected expected [⟨.device .returned Admin.versionCall, answer⟩,
        ⟨.device .returned Admin.statusCall, answer'⟩]
        ((Admin.statusFrom answer').mapError (.device .finalizationWait .readStatus))

/-- All that a record shows of the device that comes back: the answer to the wait, and an inspection
if the device is back. -/
def Returned (model : Model) (expected : Version) (retries : Nat) (record : Record)
    (result : Except UpdateError Status) : Prop :=
  ∃ progress answer inspected,
    (∀ x : Exchange Question.Answer, x.1.isReturning →
      (x ∈ record ↔ x = ⟨.awaitDevice model retries, (progress, answer)⟩ ∨ x ∈ inspected)) ∧
    ((∃ e, answer = .error e ∧ inspected = [] ∧
        result = .error (.device .finalizationWait (.reconnect model) e)) ∨
      (answer = .ok () ∧ Inspected expected inspected result))

section

variable {model : Model} {expected v : Version} {retries : Nat} {record inspected : Record}
  {result : Except UpdateError Status} {status : Status}

/-- A version that was told decides on what follows. -/
theorem Inspected.decided (h : Inspected expected inspected result)
    (hv : ReturnedVersion inspected v) :
    (v.Level expected ∧ ∃ answer,
        (∀ a, ⟨.device .returned Admin.statusCall, a⟩ ∈ inspected → a = answer) ∧
        result = (Admin.statusFrom answer).mapError (.device .finalizationWait .readStatus)) ∨
      (¬ v.Level expected ∧ result = .error (.versionNotInstalled expected v)) := by
  obtain ⟨told, hmem, hv⟩ := hv
  cases h with
  | mute hversion =>
      cases List.mem_singleton.1 hmem
      rw [hversion] at hv
      cases hv
  | otherVersion hversion hother =>
      cases List.mem_singleton.1 hmem
      rw [hversion] at hv
      cases hv
      exact .inr ⟨hother, rfl⟩
  | @sameVersion answer answer' v' hversion hlevel =>
      -- Only the first exchange answers for the version, and only the second one for the status.
      simp only [List.mem_cons, List.not_mem_nil, or_false] at hmem
      rcases hmem with hmem | hmem
      · cases hmem
        rw [hversion] at hv
        cases hv
        refine .inl ⟨hlevel, answer', ?_, rfl⟩
        intro a ha
        simp only [List.mem_cons, List.not_mem_nil, or_false] at ha
        rcases ha with ha | ha
        · cases ha
        · cases ha
          rfl
      · cases hmem

theorem Inspected.eq_ok_iff (h : Inspected expected inspected result) :
    result = .ok status ↔
      (∃ v, ReturnedVersion inspected v ∧ v.Level expected) ∧ ReturnedStatus inspected status := by
  constructor
  · intro hok
    cases h with
    | mute hversion => cases hok
    | otherVersion hversion hother => cases hok
    | sameVersion hversion hlevel =>
        exact ⟨⟨_, ⟨_, by simp, hversion⟩, hlevel⟩, ⟨_, by simp, mapError_eq_ok.1 hok⟩⟩
  · rintro ⟨⟨v, hv, hlevel⟩, ⟨answer, hmem, hst⟩⟩
    rcases h.decided hv with ⟨-, answer', hunique, rfl⟩ | ⟨hother, -⟩
    · rw [← hunique answer hmem, hst]
      rfl
    · exact absurd hlevel hother

theorem Inspected.not_wait (h : Inspected expected inspected result) :
    ∀ x ∈ inspected, x.1.isWait = false := by
  intro x hx
  cases h with
  | mute hversion | otherVersion hversion hother =>
      obtain rfl := List.mem_singleton.1 hx
      rfl
  | sameVersion hversion hlevel =>
      simp only [List.mem_cons, List.not_mem_nil, or_false] at hx
      rcases hx with rfl | rfl
      · rfl
      · rfl

namespace Returned

/-- What is asked of others does not matter. -/
theorem extend {before : Record} (h : Returned model expected retries record result)
    (hbefore : timesAsked Question.isReturning before = 0) :
    Returned model expected retries (before ++ record) result := by
  obtain ⟨progress, answer, inspected, hmem, hrest⟩ := h
  refine ⟨progress, answer, inspected, ?_, hrest⟩
  intro x hx
  -- What came before has nothing to do with the device that comes back.
  have hnot : x ∉ before := fun hx' => List.countP_eq_zero.1 hbefore x hx' hx
  rw [List.mem_append, or_iff_right hnot]
  exact hmem x hx

/-- Only inspections tell a version. -/
theorem of_returnedVersion (h : Returned model expected retries record result)
    (hv : ReturnedVersion record v) :
    ∃ inspected, Inspected expected inspected result ∧ ReturnedVersion inspected v := by
  obtain ⟨progress, answer, inspected, hmem, hrest⟩ := h
  obtain ⟨told, htold, hv⟩ := hv
  rcases (hmem _ rfl).1 htold with hsame | htold
  · cases hsame
  · rcases hrest with ⟨e, -, rfl, -⟩ | ⟨-, hinspected⟩
    · cases htold
    · exact ⟨inspected, hinspected, told, htold, hv⟩

theorem eq_of_otherVersion (h : Returned model expected retries record result)
    (hv : ReturnedVersion record v) (hother : ¬ v.Level expected) :
    result = .error (.versionNotInstalled expected v) := by
  obtain ⟨inspected, hinspected, hv⟩ := h.of_returnedVersion hv
  rcases hinspected.decided hv with ⟨hlevel, -⟩ | ⟨-, hresult⟩
  · exact absurd hlevel hother
  · exact hresult

theorem eq_ok_iff (h : Returned model expected retries record result) :
    result = .ok status ↔ CameBack record ∧
      (∃ v, ReturnedVersion record v ∧ v.Level expected) ∧ ReturnedStatus record status := by
  obtain ⟨progress, answer, inspected, hmem, hrest⟩ := h
  rcases hrest with ⟨e, rfl, rfl, rfl⟩ | ⟨rfl, hinspected⟩
  · constructor
    · intro h
      cases h
    · rintro ⟨⟨m, r, p, hback⟩, -⟩
      rcases (hmem _ rfl).1 hback with hsame | hnone
      · cases hsame
      · cases hnone
  · -- The inspection is all that the record tells about version and status.
    have hversion : ∀ v, ReturnedVersion record v ↔ ReturnedVersion inspected v := by
      intro v
      refine exists_congr fun told => and_congr_left fun _ => ?_
      rw [hmem _ rfl]
      refine or_iff_right fun hsame => ?_
      cases hsame
    have hstatus : ReturnedStatus record status ↔ ReturnedStatus inspected status := by
      refine exists_congr fun told => and_congr_left fun _ => ?_
      rw [hmem _ rfl]
      refine or_iff_right fun hsame => ?_
      cases hsame
    have hback : CameBack record :=
      ⟨model, retries, progress, (hmem _ rfl).2 (.inl rfl)⟩
    simp only [hversion, hstatus, hback, true_and]
    exact hinspected.eq_ok_iff

end Returned

/-! ## The last step -/

theorem inspected_of_checkInstalled
    (h : Course (checkInstalled expected).run record result) :
    Inspected expected record result := by
  rcases course_seq.1 h with ⟨e, hversion, rfl⟩ | ⟨_, v, rest, rfl, hversion, hrest⟩
  · obtain ⟨answer, rfl, he⟩ := course_readVersion.1 hversion
    obtain ⟨cause, hcause, rfl⟩ := mapError_eq_error.1 he.symm
    exact .mute hcause
  · obtain ⟨answer, rfl, hv⟩ := course_readVersion.1 hversion
    have hversion := mapError_eq_ok.1 hv.symm
    dsimp only at hrest
    split at hrest
    next hother =>
      rcases course_seq.1 hrest with ⟨e, hthrow, rfl⟩ | ⟨_, _, _, -, hthrow, -⟩
      · obtain ⟨rfl, he⟩ := course_throw.1 hthrow
        cases he
        exact .otherVersion hversion hother
      · cases (course_throw.1 hthrow).2
    next hlevel =>
      obtain ⟨answer', rfl, rfl⟩ := course_readStatus.1 hrest
      exact .sameVersion hversion (not_not.1 hlevel)

/-- Between the wait and the end of the progress bar stand notices of the bar, and the inspection of
a device that came back. -/
theorem course_finalize (h : Course (finalize model expected retries).run record result) :
    ∃ progress answer bars rest, (∀ x ∈ bars, x.1.isBar .finalization) ∧
      record = told (.barStart .finalization none) ::
        ⟨.awaitDevice model retries, (progress, answer)⟩ ::
          (bars ++ (rest ++ [told (.barFinish .finalization)])) ∧
      ((∃ e, answer = .error e ∧ rest = [] ∧
          result = .error (.device .finalizationWait (.reconnect model) e)) ∨
        ∃ inspected closed, answer = .ok () ∧
          rest = inspected ++ [⟨.device .returned .close, closed⟩] ∧
          Inspected expected inspected result) := by
  obtain ⟨_, rfl, h₁⟩ := course_tell_seq.1 h
  -- The bar is finished whatever comes of the wait.
  obtain ⟨_, _, rfl, hawait, hfinish⟩ := course_thenAlways.1 h₁
  obtain rfl := course_query.1 hfinish
  obtain ⟨⟨progress, answer⟩, _, rfl, h₂⟩ := course_ask_seq.1 hawait
  obtain ⟨bars, rest, rfl, hshown, hrest⟩ := course_showProgress_seq h₂
  refine ⟨progress, answer, bars, rest, hshown, by simp [told], ?_⟩
  cases answer with
  | error e =>
      obtain ⟨rfl, rfl⟩ := course_throw.1 hrest
      exact .inl ⟨e, rfl, rfl, rfl⟩
  | ok u =>
      obtain ⟨inspected, closing, rfl, hinspected, hclose⟩ := course_thenAlways.1 hrest
      obtain ⟨closed, rfl⟩ := course_closeDevice.1 hclose
      exact .inr ⟨inspected, closed, rfl, rfl, inspected_of_checkInstalled hinspected⟩

theorem wait_once_of_finalize (h : Course (finalize model expected retries).run record result) :
    timesAsked Question.isWait record = 1 := by
  obtain ⟨progress, answer, bars, rest, hbars, rfl, hrest⟩ := course_finalize h
  have hbars : timesAsked Question.isWait bars = 0 := by
    refine timesAsked_eq_zero fun x hx => ?_
    obtain ⟨n, hn⟩ := Question.tell_of_isBar (hbars x hx)
    rw [hn]
    rfl
  have hrest : timesAsked Question.isWait rest = 0 := by
    rcases hrest with ⟨e, -, rfl, -⟩ | ⟨inspected, closed, -, rfl, hinspected⟩
    · rfl
    · simp [timesAsked_eq_zero hinspected.not_wait, Question.isWait]
  simp [hbars, hrest, told, Question.isWait]

theorem returned_of_finalize (h : Course (finalize model expected retries).run record result) :
    Returned model expected retries record result := by
  obtain ⟨progress, answer, bars, rest, hbars, rfl, hrest⟩ := course_finalize h
  have hmem : ∀ x : Exchange Question.Answer, x.1.isReturning →
      (x ∈ told (.barStart .finalization none) ::
        ⟨.awaitDevice model retries, (progress, answer)⟩ ::
          (bars ++ (rest ++ [told (.barFinish .finalization)])) ↔
        x = ⟨.awaitDevice model retries, (progress, answer)⟩ ∨ x ∈ rest) := by
    intro x hx
    have htold : ∀ n, x ≠ told n := by
      rintro n rfl
      cases hx
    have hbar : x ∉ bars := fun hx' => by
      simp [Question.isReturning_of_isBar (hbars x hx')] at hx
    simp [htold, hbar]
  rcases hrest with ⟨e, rfl, rfl, rfl⟩ | ⟨inspected, closed, rfl, rfl, hinspected⟩
  · exact ⟨progress, .error e, [], hmem, .inl ⟨e, rfl, rfl, rfl⟩⟩
  · refine ⟨progress, .ok (), inspected, ?_, .inr ⟨rfl, hinspected⟩⟩
    intro x hx
    have hclose : x ≠ ⟨.device .returned .close, closed⟩ := by
      rintro rfl
      cases hx
    rw [hmem x hx, List.mem_append, List.mem_singleton, or_iff_left hclose]

end

/-! ## The whole update -/

section

variable {primitives : Primitives} {settings : UpdateSettings} {target : UpdateTarget}
  {source : UpdateSource} {planning entering validating flashing record : Record} {p : Plan}
  {role : BootloaderRole} {variant : Variant} {image : Bytes}
  {result : Except UpdateFailure UpdateOutcome}

theorem Flashed.mono {longer : Record} (h : Flashed record) (hsub : record ⊆ longer) :
    Flashed longer := by
  obtain ⟨role, image, progress, hmem⟩ := h
  exact ⟨role, image, progress, hsub hmem⟩

theorem flashed_of_flash (h : Course (flash role image).run flashing (.ok ())) :
    Flashed flashing := by
  obtain ⟨progress, answer, bars, rfl, -, hflashed⟩ := course_flash h
  obtain rfl := mapError_eq_ok.1 hflashed.symm
  exact ⟨role, image, progress, by simp⟩

theorem no_return_of_plan {x : Except UpdateError Plan}
    (h : Course (plan primitives settings target source).run planning x) :
    timesAsked Question.isReturning planning = 0 :=
  (WithinStep.plan primitives settings target source).timesAsked_eq_zero h fun _ hq =>
    hq.not_returning (by decide)

theorem no_return_of_enterBootloader {x : Except UpdateError (BootloaderRole × Variant)}
    (h : Course (enterBootloader settings target).run entering x) :
    timesAsked Question.isReturning entering = 0 :=
  (WithinStep.enterBootloader settings target).timesAsked_eq_zero h fun _ hq =>
    hq.not_returning (by decide)

theorem no_return_of_validateImage {x : Except UpdateError (Bytes × Migrations)}
    (h : Course (validateImage primitives settings target.model variant p).run validating x) :
    timesAsked Question.isReturning validating = 0 :=
  (WithinStep.validateImage primitives settings target.model variant p).timesAsked_eq_zero h
    fun _ hq => Question.Fits.not_returning (.lateMigration hq) (by decide)

theorem no_return_of_flash {x : Except UpdateError Unit}
    (h : Course (flash role image).run flashing x) : timesAsked Question.isReturning flashing = 0 :=
  (WithinStep.flash role image).timesAsked_eq_zero h fun _ hq => hq.not_returning (by decide)

theorem Written.chosen {after : Record} {migrations : Migrations}
    {answer : Progress × Except DeviceError Unit}
    (h : Written primitives settings target source planning entering validating after p role variant
      image migrations answer record) :
    Chosen primitives target source record p.container migrations :=
  ⟨role, p.current, p.status, variant, h.known, h.noted.1, h.goesBy⟩

/-- An update does not come to the last step, or it does so after an image was written. -/
theorem RunCourse.return_cases
    (h : RunCourse primitives settings target source record result) :
    (¬ Flashed record ∧ timesAsked Question.isReturning record = 0 ∧ ∃ f, result = .error f) ∨
      ∃ before waiting status container migrations,
        record = before ++ waiting ∧ Flashed before ∧ timesAsked Question.isReturning before = 0 ∧
        Course (finalize target.model container.version migrations.retries).run waiting status ∧
        result = (status.map fun status => ⟨container.version, status⟩).mapError
          (UpdateFailure.mk .finalizationWait) ∧
        Opened primitives target.model source record container ∧
        Chosen primitives target source record container migrations := by
  cases h with
  | refused hplan hclosing =>
      have hclosed : ∀ f : Question → Bool, f (.device .initial .close) = false →
          timesAsked f _ = 0 := fun f hf => timesAsked_eq_zero fun x hx => by rw [hclosing x hx, hf]
      refine .inl ⟨not_flashed_of_unasked ?_, ?_, _, rfl⟩
      · simp [no_flash_of_plan hplan, hclosed Question.isFlash rfl, told, Question.isFlash]
      · simp [no_return_of_plan hplan, hclosed Question.isReturning rfl, told, Question.isReturning]
  | stranded hplan henter =>
      refine .inl ⟨not_flashed_of_unasked ?_, ?_, _, rfl⟩
      · simp [no_flash_of_plan hplan, no_flash_of_enterBootloader henter, told, Question.isFlash]
      · simp [no_return_of_plan hplan, no_return_of_enterBootloader henter, told,
          Question.isReturning]
  | rejected closed hplan henter hvalidate =>
      refine .inl ⟨not_flashed_of_unasked ?_, ?_, _, rfl⟩
      · simp [no_flash_of_plan hplan, no_flash_of_enterBootloader henter,
          no_flash_of_validateImage hvalidate, told, Question.isFlash]
      · simp [no_return_of_plan hplan, no_return_of_enterBootloader henter,
          no_return_of_validateImage hvalidate, told, Question.isReturning]
  | unflashed closed h hflash =>
      obtain ⟨after, progress, answer, hanswer, hwritten⟩ :=
        h.written hflash isAftermath_of_close (by simp)
      obtain ⟨cause, rfl, -⟩ := mapError_eq_error.1 hanswer.symm
      refine .inl ⟨?_, ?_, _, rfl⟩
      -- The bootloader was asked once, and said that it failed.
      · rintro ⟨role', image', progress', hmem⟩
        cases (hwritten.eq_of_mem hmem).2.2
      · simp [no_return_of_plan h.plan, no_return_of_enterBootloader h.enter,
          no_return_of_validateImage h.validate, no_return_of_flash hflash, told,
          Question.isReturning]
  | @flashed planning entering validating flashing waiting p role variant image migrations status
      closed h hflash hwait =>
      obtain ⟨x, hx, hq⟩ := asked_of_finalize hwait
      obtain ⟨after, progress, answer, hanswer, hwritten⟩ :=
        h.written hflash (isAftermath_of_finalize hwait) fun _ => ⟨x, by simp [hx], hq⟩
      -- The record is cut right behind the announcement of the last step.
      refine .inr ⟨told (.enter .versionCheck) :: (planning ++
        told (.enter .bootloaderTransition) :: (entering ++
          told (.enter .imageValidation) :: (validating ++
            told (.enter .flashing) :: (flashing ++
              [⟨.bootloader role .close, closed⟩, told (.enter .finalizationWait)])))),
        waiting, status, p.container, migrations, by simp, ?_, ?_, hwait, rfl,
        hwritten.prepared.parsed, hwritten.chosen⟩
      · exact (flashed_of_flash hflash).mono fun x hx => by simp [hx]
      · simp [no_return_of_plan h.plan, no_return_of_enterBootloader h.enter,
          no_return_of_validateImage h.validate, no_return_of_flash hflash, told,
          Question.isReturning]

theorem RunCourse.wait_le_one
    (h : RunCourse primitives settings target source record result) :
    timesAsked Question.isWait record ≤ 1 := by
  -- A wait is one of the questions that stand for the return of the device.
  have hwait : ∀ {r : Record}, timesAsked Question.isReturning r = 0 →
      timesAsked Question.isWait r = 0 := fun hr => timesAsked_eq_zero fun x hx =>
    Bool.eq_false_iff.2 fun hx' =>
      List.countP_eq_zero.1 hr x hx (Question.isReturning_of_isWait hx')
  rcases h.return_cases with ⟨-, hnone, -⟩ |
    ⟨before, waiting, status, container, migrations, rfl, -, hbefore, hfinal, -⟩
  · rw [hwait hnone]
    exact Nat.zero_le 1
  · simp [hwait hbefore, wait_once_of_finalize hfinal]

/-- Where a device is waited for, an image was written, and the patience is that of its
migrations. -/
theorem RunCourse.flashed_before_wait
    (h : RunCourse primitives settings target source record result) {before after : Record}
    {model : Model} {retries : Nat} {answer : Progress × Except DeviceError Unit}
    (hsplit : record = before ++ ⟨.awaitDevice model retries, answer⟩ :: after) :
    Flashed before ∧ model = target.model ∧ ∃ container migrations,
      Chosen primitives target source record container migrations ∧
        retries = migrations.retries := by
  have hmem : ⟨.awaitDevice model retries, answer⟩ ∈ record := by simp [hsplit]
  rcases h.return_cases with ⟨-, hnone, -⟩ |
    ⟨first, waiting, status, container, migrations, hrecord, hflashed, hfirst, -, -, -, hchosen⟩
  · exact absurd rfl (List.countP_eq_zero.1 hnone _ hmem)
  have hbefore : Flashed before := by
    -- The wait is not in the first part, so that all of this part comes before it.
    rw [hrecord] at hsplit
    rcases append_eq_split hsplit with ⟨tail, hin, -⟩ | ⟨tail, rfl, -⟩
    · exact absurd rfl
        (List.countP_eq_zero.1 hfirst ⟨.awaitDevice model retries, answer⟩ (by simp [hin]))
    · exact hflashed.mono (List.subset_append_left _ _)
  obtain ⟨hmodel, hretries⟩ := hchosen.patience (asked_iff.2 ⟨answer, hmem⟩)
  exact ⟨hbefore, hmodel, container, migrations, hchosen, hretries⟩

theorem RunCourse.eq_ok_iff
    (h : RunCourse primitives settings target source record result) {outcome : UpdateOutcome} :
    result = .ok outcome ↔ Flashed record ∧ CameBack record ∧
      ∃ container v, Opened primitives target.model source record container ∧
        ReturnedVersion record v ∧ v.Level container.version ∧
        ReturnedStatus record outcome.status ∧ outcome.version = container.version := by
  rcases h.return_cases with ⟨hnot, -, f, rfl⟩ |
    ⟨before, waiting, status, container, migrations, hrecord, hflashed, hbefore, hfinal, rfl,
      hopened, hchosen⟩
  · constructor
    · intro hok
      cases hok
    · rintro ⟨hflashed, -⟩
      exact absurd hflashed hnot
  -- What the last step shows of the device is what the whole record shows of it.
  have hreturned := (returned_of_finalize hfinal).extend hbefore
  rw [← hrecord] at hreturned
  have hflashed : Flashed record := hflashed.mono (hrecord ▸ List.subset_append_left _ _)
  constructor
  · intro hok
    obtain ⟨st, rfl, rfl⟩ := map_eq_ok.1 (mapError_eq_ok.1 hok)
    obtain ⟨hback, ⟨v, hv, hlevel⟩, hst⟩ := hreturned.eq_ok_iff.1 rfl
    exact ⟨hflashed, hback, container, v, hopened, hv, hlevel, hst, rfl⟩
  · rintro ⟨-, hback, other, v, hother, hv, hlevel, hst, hversion⟩
    obtain rfl := hchosen.eq_of_opened hother
    rw [hreturned.eq_ok_iff.2 ⟨hback, ⟨v, hv, hlevel⟩, hst⟩]
    obtain ⟨version, status⟩ := outcome
    obtain rfl : version = other.version := hversion
    rfl

theorem RunCourse.eq_of_otherVersion
    (h : RunCourse primitives settings target source record result) {container : Container}
    {v : Version} (hopened : Opened primitives target.model source record container)
    (hv : ReturnedVersion record v) (hother : ¬ v.Level container.version) :
    result = .error ⟨.finalizationWait, .versionNotInstalled container.version v⟩ := by
  rcases h.return_cases with ⟨-, hnone, -⟩ |
    ⟨before, waiting, status, parsed, migrations, hrecord, -, hbefore, hfinal, rfl, -, hchosen⟩
  · obtain ⟨answer, hmem, -⟩ := hv
    exact absurd rfl (List.countP_eq_zero.1 hnone _ hmem)
  · obtain rfl := hchosen.eq_of_opened hopened
    have hreturned := (returned_of_finalize hfinal).extend hbefore
    rw [← hrecord] at hreturned
    rw [hreturned.eq_of_otherVersion hv hother]
    rfl

end

/-- A device is waited for once at most, after a bootloader said that it wrote the image.  The
update succeeds exactly if that device is back, tells the version of the container and tells a
status. -/
theorem success_meaning {σ : Type} (primitives : Primitives) (u : Updater) (target : UpdateTarget)
    (source : UpdateSource) (w : Surroundings Question.Answer σ) (s : σ) :
    let outcome := (u.update primitives target source).run w s
    timesAsked Question.isWait outcome.record ≤ 1 ∧
    (∀ before model retries answer after,
      outcome.record = before ++ ⟨.awaitDevice model retries, answer⟩ :: after →
        Flashed before ∧ model = target.model ∧ ∃ container migrations,
          Chosen primitives target source outcome.record container migrations ∧
          retries = migrations.retries ∧
          retries = if migrations.contains .nrfFileSystem then 500 else 60) ∧
    (∀ success, outcome.result.2 = .ok success ↔
      Flashed outcome.record ∧ CameBack outcome.record ∧
        ∃ container v, Opened primitives target.model source outcome.record container ∧
          ReturnedVersion outcome.record v ∧ v.Level container.version ∧
          ReturnedStatus outcome.record success.status ∧ success.version = container.version) ∧
    (∀ container v, Opened primitives target.model source outcome.record container →
      ReturnedVersion outcome.record v → ¬ v.Level container.version →
        outcome.result.2 = .error (.versionNotInstalled container.version v)) := by
  intro outcome
  obtain ⟨result, hrun, hresult⟩ : ∃ result,
      RunCourse primitives u.settings target source outcome.record result ∧
        outcome.result = ({ u with state := .after result }, result.mapError UpdateFailure.error) :=
    runCourse_of_update u w s
  refine ⟨hrun.wait_le_one, ?_, ?_, ?_⟩
  · intro before model retries answer after hsplit
    obtain ⟨hflashed, hmodel, container, migrations, hchosen, hretries⟩ :=
      hrun.flashed_before_wait hsplit
    exact ⟨hflashed, hmodel, container, migrations, hchosen, hretries,
      hretries.trans (Migrations.retries_eq migrations)⟩
  · intro success
    rw [← hrun.eq_ok_iff, congrArg Prod.snd hresult]
    exact mapError_eq_ok
  · intro container v hopened hv hother
    rw [congrArg Prod.snd hresult, hrun.eq_of_otherVersion hopened hv hother]
    rfl

/-- The device comes back with the firmware that it had. -/
def Trial.stale : Trial.Scene where
  returned := [0x00, 0x40, 0x01, 0xC0]

/-- With the new firmware the update succeeds, with the old one it fails and names both versions. -/
theorem success_meaning_trial :
    let new : Version := ⟨1, 8, 2, none, none, true⟩
    let old : Version := .ofPacked 0x4001C0
    let updated := Trial.Scene.run {}
    let unchanged := Trial.stale.run
    Flashed updated.record ∧
      updated.result.2 = .ok ⟨new, ⟨some ⟨0⟩, some 20, some 0, some .nrf52⟩⟩ ∧
      ReturnedVersion unchanged.record old ∧ ¬ old.Level new ∧
      unchanged.result.2 = .error (.versionNotInstalled new old) := by
  intro new old updated unchanged
  have hopened : ∀ record,
      Opened Trial.primitives .nk3 (.bytes [0]) record
        { version := new, images := [(.nrf52, [2])] } :=
    fun _ => ⟨[0], rfl, rfl⟩
  obtain ⟨-, -, hsucceeds, -⟩ := success_meaning Trial.primitives Trial.updater (.device .nk3)
    (.bytes [0]) (Trial.Scene.surroundings {}) ()
  obtain ⟨-, -, -, hfails⟩ := success_meaning Trial.primitives Trial.updater (.device .nk3)
    (.bytes [0]) Trial.stale.surroundings ()
  have hflashed : Flashed updated.record :=
    ⟨.attempt 1, [2], [], List.mem_of_getElem? (i := 16) rfl⟩
  have hback : CameBack updated.record := ⟨.nk3, 60, [], List.mem_of_getElem? (i := 21) rfl⟩
  have hnew : ReturnedVersion updated.record (.ofPacked 0x400202) :=
    ⟨.ok [0x00, 0x40, 0x02, 0x02], List.mem_of_getElem? (i := 22) rfl, rfl⟩
  have hstatus : ReturnedStatus updated.record ⟨some ⟨0⟩, some 20, some 0, some .nrf52⟩ :=
    ⟨.ok [0, 20, 0, 0, 2], List.mem_of_getElem? (i := 23) rfl, rfl⟩
  have hold : ReturnedVersion unchanged.record old :=
    ⟨.ok [0x00, 0x40, 0x01, 0xC0], List.mem_of_getElem? (i := 22) rfl, rfl⟩
  have hother : ¬ old.Level new := by decide
  have hlevel : (Version.ofPacked 0x400202).Level new := by decide
  refine ⟨hflashed, (hsucceeds _).2 ⟨hflashed, hback, _, _, hopened _, hnew, hlevel, hstatus, rfl⟩,
    hold, hother, hfails _ _ (hopened _) hold hother⟩

end Update
end Reflash
