import Reflash.Proofs.Device.Session
import Reflash.Proofs.Update.Stages
import Reflash.Proofs.Update.States
import Reflash.Proofs.Update.Success

/-!
# Update.Closing — connections are let go of, and once only

* `inRole_release`, `inRole_session` — letting go of a device is closing it, so that an update goes
  through a session with it;
* `HandledCourse` — the courses of an update, by what it is connected to;
* `HandledCourse.closings_eq` — what is closed in them, and in which order;
* `HandledCourse.closed_first` — the device is closed before a bootloader is looked for;
* `connections_released_once` — so it is in every run of an update, and in every session with a
  device.
-/

namespace Reflash

/-- How many devices an update starts with. -/
def UpdateTarget.devices : UpdateTarget → Nat
  | .device _ => 1
  | .bootloader .. => 0

namespace Update

open Dialogue

/-! ## Sessions in an update -/

section

variable {α β : Type} {d : OpenDevice} {role : DeviceRole}

/-- What is done with a device, as it is asked for in an update in which the device has a role. -/
abbrev inRole (role : DeviceRole) (m : Dialogue Call.Answer α) : Dialogue Question.Answer α :=
  m.relay (Question.device role) fun _ answer => answer

theorem inRole_bind (m : Dialogue Call.Answer α) (f : α → Dialogue Call.Answer β) :
    inRole role (m >>= f) = inRole role m >>= fun a => inRole role (f a) :=
  relay_bind _ _ m f

/-- To let go of a device that is open is to close it. -/
theorem inRole_release (h : d.isClosed = false) : inRole role d.release = closeDevice role := by
  rw [OpenDevice.release, OpenDevice.close, h]
  rfl

/-- A device that has been closed is let go of without another question. -/
theorem inRole_release_of_isClosed (h : d.isClosed = true) :
    inRole role d.release = pure () := by
  rw [OpenDevice.release, OpenDevice.close, h]
  rfl

/-- By induction on the operations: if none of them closes the device, it is closed in the end. -/
theorem inRole_session (hopen : d.isClosed = false) {operations : List DeviceOperation}
    (hkept : .close ∉ operations) :
    inRole role (d.session operations) = do
      let results ← operations.mapM fun operation => inRole role (OpenDevice.consult operation)
      closeDevice role
      return results := by
  induction operations with
  | nil =>
      rw [OpenDevice.session, inRole_bind, inRole_release hopen]
      rfl
  | cons operation rest ih =>
      obtain ⟨hfirst, hrest⟩ := List.ne_and_not_mem_of_not_mem_cons hkept
      have hcons : inRole role (d.session (operation :: rest)) =
          inRole role (OpenDevice.consult operation) >>= fun result =>
            inRole role (d.session rest) >>= fun results => pure (result :: results) := by
        rw [OpenDevice.session, OpenDevice.perform_of_ne_close hfirst.symm, Dialogue.bind_assoc,
          inRole_bind]
        exact congrArg _ (funext fun result => inRole_bind (d.session rest) _)
      rw [hcons, ih hrest, List.mapM_cons]
      simp only [Dialogue.bind_assoc, Dialogue.pure_eq, Dialogue.done_bind]

/-- An update that is not sent on by its plan ends the use of the device. -/
theorem planned_eq_release (hopen : d.isClosed = false) (primitives : Primitives)
    (settings : UpdateSettings) (model : Model) (source : UpdateSource) :
    planned primitives settings (.device model) source =
      onFailure (inStep .versionCheck (plan primitives settings (.device model) source))
        (inRole .initial d.release) := by
  rw [inRole_release hopen]
  rfl

/-- The command that sends a device into its bootloader, and what becomes of the device after it,
are a session with the device. -/
theorem session_of_rebootDevice (hopen : d.isClosed = false) {record : Record}
    {result : Except UpdateError Unit} (h : Course rebootDevice.run record result) :
    ∃ exchanges results, record = told .touch :: exchanges ∧
      Course (inRole .initial (d.session [.reboot .bootrom])) exchanges results := by
  obtain ⟨answer, closing, rfl, -⟩ := course_rebootDevice h
  refine ⟨_, [((Admin.bootromFrom answer).map .flag).mapError .device], rfl, ?_⟩
  have hkept : DeviceOperation.close ∉ [DeviceOperation.reboot .bootrom] := by simp
  rw [inRole_session hopen hkept]
  exact .ask _ answer (.ask _ closing (.done _))

end

/-! ## What an update is connected to -/

namespace Question

def isBootloaderClose : Question → Bool
  | .bootloader _ .close => true
  | _ => false

/-- A bootloader is looked for, or one that was found is asked who it is. -/
def isLookout : Question → Bool
  | .awaitBootloader .. => true
  | .bootloader _ .uuid => true
  | _ => false

/-- What is asked while an image is validated and written. -/
inductive IsAttempt (role : BootloaderRole) : Question → Prop where
  | migration {q : Question} (h : q.IsMigrationTalk) : IsAttempt role q
  | enter : IsAttempt role (.tell (.enter .flashing))
  | flash (image : Bytes) : IsAttempt role (.bootloader role (.update image))
  | bar {q : Question} (h : q.isBar .update) : IsAttempt role q

end Question

variable (primitives : Primitives) (settings : UpdateSettings) (target : UpdateTarget)
  (source : UpdateSource)

/-- The last step, if it is come to. -/
inductive FinalCourse : Record → Prop where
  | missed : FinalCourse []
  | waited {waiting : Record} {expected : Version} {retries : Nat}
      {result : Except UpdateError Status}
      (hwait : Course (finalize target.model expected retries).run waiting result) :
      FinalCourse (told (.enter .finalizationWait) :: waiting)

/-- What follows the search for a bootloader. -/
inductive FoundCourse : Except UpdateError (BootloaderRole × Variant) → Record → Prop where
  | stranded (e : UpdateError) : FoundCourse (.error e) []
  | tried {role : BootloaderRole} {variant : Variant} {trying final : Record}
      (closed : Except DeviceError Unit) (htrying : ∀ x ∈ trying, x.1.IsAttempt role)
      (hfinal : FinalCourse target final) :
      FoundCourse (.ok (role, variant)) (told (.enter .imageValidation) ::
        (trying ++ ⟨.bootloader role .close, closed⟩ :: final))

/-- All that comes before the image. -/
def leadUp (planning entering : Record) : Record :=
  told (.enter .versionCheck) :: (planning ++ told (.enter .bootloaderTransition) :: entering)

inductive HandledCourse : Record → Prop where
  | refused {planning closing : Record} {e : UpdateError}
      (hplan : Course (plan primitives settings target source).run planning (.error e))
      (hclosing : ∀ x ∈ closing, x.1 = .device .initial .close)
      (honce : closing.length = target.devices) :
      HandledCourse (told (.enter .versionCheck) :: (planning ++ closing))
  | entered {planning entering rest : Record} {p : Plan}
      {found : Except UpdateError (BootloaderRole × Variant)}
      (hplan : Course (plan primitives settings target source).run planning (.ok p))
      (henter : Course (enterBootloader settings target).run entering found)
      (hfound : FoundCourse target found rest) :
      HandledCourse (leadUp planning entering ++ rest)

variable {primitives settings target source} {record : Record}

/-- A device that is not sent into its bootloader is closed once. -/
theorem closing_of_planned {f : UpdateFailure}
    (h : Course (planned primitives settings target source).run record (.error f)) :
    ∃ planning closing e, record = told (.enter .versionCheck) :: (planning ++ closing) ∧
      Course (plan primitives settings target source).run planning (.error e) ∧
      (∀ x ∈ closing, x.1 = .device .initial .close) ∧ closing.length = target.devices := by
  cases target with
  | device model =>
      rcases course_onFailure.1 h with ⟨p, hp, -⟩ | ⟨_, first, closing, -, rfl, hfailed, hclose⟩
      · cases hp
      obtain ⟨planning, x, rfl, hplan, hx⟩ := course_inStep.1 hfailed
      obtain ⟨e, rfl, -⟩ := mapError_eq_error.1 hx.symm
      obtain ⟨closed, rfl⟩ := course_closeDevice.1 hclose
      exact ⟨planning, _, e, rfl, hplan, by simp, rfl⟩
  | bootloader model variant =>
      obtain ⟨planning, x, rfl, hplan, hx⟩ := course_inStep.1 h
      obtain ⟨e, rfl, -⟩ := mapError_eq_error.1 hx.symm
      exact ⟨planning, [], e, by simp, hplan, by simp, rfl⟩

theorem isAttempt_of_validateImage {role : BootloaderRole} {variant : Variant} {p : Plan}
    {result : Except UpdateError (Bytes × Migrations)}
    (h : Course (validateImage primitives settings target.model variant p).run record result) :
    ∀ x ∈ record, x.1.IsAttempt role := fun x hx =>
  .migration ((WithinStep.validateImage primitives settings _ _ _).asks h x hx)

theorem isAttempt_of_flash {role : BootloaderRole} {image : Bytes}
    {result : Except UpdateError Unit} (h : Course (flash role image).run record result) :
    ∀ x ∈ record, x.1.IsAttempt role := by
  intro x hx
  obtain ⟨progress, answer, bars, rfl, hbars, -⟩ := course_flash h
  simp only [List.mem_cons] at hx
  rcases hx with rfl | rfl | hx
  · exact .bar rfl
  · exact .flash image
  · exact .bar (hbars x hx)

/-- An image is validated, and then it is written. -/
theorem isAttempt_of_both {role : BootloaderRole} {validating flashing : Record}
    (hvalidating : ∀ x ∈ validating, x.1.IsAttempt role)
    (hflashing : ∀ x ∈ flashing, x.1.IsAttempt role) :
    ∀ x ∈ validating ++ told (.enter .flashing) :: flashing, x.1.IsAttempt role := by
  intro x hx
  simp only [List.mem_append, List.mem_cons] at hx
  rcases hx with hx | rfl | hx
  · exact hvalidating x hx
  · exact .enter
  · exact hflashing x hx

theorem trying_of_install {role : BootloaderRole} {variant : Variant} {p : Plan}
    {result : Except UpdateFailure Migrations}
    (h : Course (install primitives settings target.model role variant p).run record result) :
    ∃ trying closed, record = told (.enter .imageValidation) ::
        (trying ++ [⟨.bootloader role .close, closed⟩]) ∧ ∀ x ∈ trying, x.1.IsAttempt role := by
  rcases course_install h with ⟨validating, e, closed, -, rfl, hvalidate⟩ |
    ⟨validating, image, migrations, flashing, flashed, closed, -, rfl, hvalidate, hflash⟩
  · exact ⟨validating, closed, rfl, isAttempt_of_validateImage hvalidate⟩
  · refine ⟨validating ++ told (.enter .flashing) :: flashing, closed, by simp, ?_⟩
    exact isAttempt_of_both (isAttempt_of_validateImage hvalidate) (isAttempt_of_flash hflash)

theorem finalCourse_of_finalization {expected : Version} {retries : Nat}
    {result : Except UpdateFailure UpdateOutcome}
    (h : Course (inStep .finalizationWait (finalize target.model expected retries) >>=
      fun status => pure (⟨expected, status⟩ : UpdateOutcome)).run record result) :
    FinalCourse target record := by
  rcases course_seq.1 h with ⟨f, hstep, -⟩ | ⟨_, status, _, rfl, hstep, hdone⟩
  · obtain ⟨waiting, x, rfl, hwait, -⟩ := course_inStep.1 hstep
    exact .waited hwait
  · obtain ⟨waiting, x, rfl, hwait, -⟩ := course_inStep.1 hstep
    obtain ⟨rfl, -⟩ := course_pure.1 hdone
    simpa using FinalCourse.waited hwait

theorem handledCourse_of_run {result : Except UpdateFailure UpdateOutcome}
    (h : Course (run primitives settings target source).run record result) :
    HandledCourse primitives settings target source record := by
  rw [run_eq] at h
  rcases course_seq.1 h with ⟨f, hplanned, -⟩ | ⟨_, p, following, rfl, hplanned, hfollowing⟩
  · obtain ⟨planning, closing, e, rfl, hplan, hclosing, honce⟩ := closing_of_planned hplanned
    exact .refused hplan hclosing honce
  rcases course_planned hplanned with ⟨planning, _, rfl, hp, hplan⟩ | ⟨_, _, _, -, hp, -⟩
  case inr => cases hp
  rcases course_seq.1 hfollowing with ⟨f, henter, -⟩ | ⟨_, ⟨role, variant⟩, _, rfl, henter, h₁⟩
  · obtain ⟨entering, x, rfl, hentered, hx⟩ := course_inStep.1 henter
    obtain ⟨e, rfl, -⟩ := mapError_eq_error.1 hx.symm
    simpa [leadUp] using HandledCourse.entered hplan hentered (.stranded e)
  obtain ⟨entering, x, rfl, hentered, hx⟩ := course_inStep.1 henter
  obtain rfl := mapError_eq_ok.1 hx.symm
  rcases course_seq.1 h₁ with ⟨f, hinstall, -⟩ | ⟨_, migrations, _, rfl, hinstall, h₂⟩
  · obtain ⟨trying, closed, rfl, htrying⟩ := trying_of_install hinstall
    simpa [leadUp] using HandledCourse.entered hplan hentered (.tried closed htrying .missed)
  obtain ⟨trying, closed, rfl, htrying⟩ := trying_of_install hinstall
  have hfinal := finalCourse_of_finalization h₂
  simpa [leadUp] using HandledCourse.entered hplan hentered (.tried closed htrying hfinal)

/-! ## The bootloader that is used -/

/-- The bootloader at hand, or the one that answered. -/
def InUse (target : UpdateTarget) (record : Record) (role : BootloaderRole) : Prop :=
  match target with
  | .bootloader .. => role = .given
  | .device _ => ∃ uuid, ⟨.bootloader role .uuid, .ok uuid⟩ ∈ record

/-- By induction on the attempts that remain: only the last one leads to a bootloader that
answers. -/
theorem answered_of_findBootloader {model : Model} {delay made : Nat} {last : Option DeviceError}
    {remaining : Nat} {result : Except UpdateError (BootloaderRole × Variant)}
    (role : BootloaderRole)
    (h : Course (findBootloader model delay made last remaining).run record result) :
    (∃ uuid, ⟨.bootloader role .uuid, .ok uuid⟩ ∈ record) ↔
      ∃ variant, result = .ok (role, variant) := by
  induction remaining generalizing made last record with
  | zero =>
      obtain ⟨rfl, rfl⟩ := course_throw.1 h
      simp
  | succ remaining ih =>
      obtain ⟨attempted, answer, rest, rfl, hconnect, hrest⟩ := course_findBootloader_succ h
      have hquiet : ∀ uuid, ⟨.bootloader role .uuid, .ok uuid⟩ ∉ pauses delay made := by
        intro uuid hmem
        obtain ⟨n, hn⟩ := told_of_mem_pauses hmem
        cases hn
      rcases course_connect.1 hconnect with ⟨e, rfl, rfl⟩ | ⟨variant, uuid, rfl, rfl⟩
      · simp [hquiet, ih hrest]
      · cases uuid with
        | error e => simp [hquiet, ih hrest]
        | ok uuid =>
            obtain ⟨rfl, rfl⟩ := course_pure.1 hrest
            simp [hquiet, eq_comm]

theorem inUse_of_enterBootloader {found : Except UpdateError (BootloaderRole × Variant)}
    (role : BootloaderRole) (h : Course (enterBootloader settings target).run record found) :
    InUse target record role ↔ ∃ variant, found = .ok (role, variant) := by
  cases target with
  | bootloader model variant =>
      obtain ⟨-, rfl⟩ := (course_enterBootloader_bootloader settings).1 h
      simp [InUse, eq_comm]
  | device model =>
      obtain ⟨answer, closing, rest, rfl, ⟨e, -, rfl, rfl⟩ | ⟨searching, -, rfl, hfound⟩⟩ :=
        course_enterBootloader_device settings h
      · simp [InUse, told]
      · simpa [InUse, told] using answered_of_findBootloader role hfound

/-! ## Where connections are closed -/

namespace Question

variable {q : Question} {step : UpdateStep} {role : BootloaderRole}

theorem Fits.not_close (h : q.Fits .versionCheck) : q.isClose = false := by
  obtain ⟨hbeyond, hdevice⟩ := h.of_versionCheck
  cases q with
  | device role call =>
      obtain ⟨-, rfl | rfl⟩ := hdevice role call rfl
      · rfl
      · rfl
  | bootloader role call => cases hbeyond
  | _ => rfl

theorem IsSearch.not_close (h : q.IsSearch) : q.isClose = false := by
  cases h with
  | _ => rfl

theorem Fits.not_wait (h : q.Fits step) (hstep : step ≠ .finalizationWait) : q.isWait = false := by
  refine Bool.eq_false_iff.2 fun hwait => ?_
  have hreturning := isReturning_of_isWait hwait
  rw [h.not_returning hstep] at hreturning
  cases hreturning

theorem isClose_of_isBootloaderClose (q : Question) (h : q.isBootloaderClose) : q.isClose := by
  cases q with
  | bootloader role call =>
      cases call with
      | close => rfl
      | _ => cases h
  | _ => cases h

/-- An attempt neither closes a connection nor looks for another one. -/
theorem IsAttempt.inert (h : q.IsAttempt role) :
    q.isClose = false ∧ q.isLookout = false ∧ q.isWait = false := by
  cases h with
  | migration h =>
      cases h with
      | _ => exact ⟨rfl, rfl, rfl⟩
  | bar h =>
      obtain ⟨n, rfl⟩ := tell_of_isBar h
      exact ⟨rfl, rfl, rfl⟩
  | _ => exact ⟨rfl, rfl, rfl⟩

theorem not_lookout_of_isBeyondCheck (h : q.isBeyondCheck = false) : q.isLookout = false := by
  cases q with
  | bootloader role call => cases h
  | awaitBootloader model number => cases h
  | _ => rfl

theorem IsReturn.not_lookout {model : Model} {retries : Nat} (h : q.IsReturn model retries) :
    q.isLookout = false := by
  cases h with
  | bar h =>
      obtain ⟨n, rfl⟩ := tell_of_isBar h
      rfl
  | _ => rfl

end Question

/-- The connections that were closed, in order. -/
def closings (record : Record) : List Question :=
  (record.map fun x => x.1).filter Question.isClose

section

variable {rest : Record} {x : Exchange Question.Answer}

@[simp] theorem closings_append : closings (record ++ rest) = closings record ++ closings rest := by
  simp [closings]

@[simp] theorem closings_nil : closings [] = [] := rfl

theorem closings_cons_of_close (h : x.1.isClose) : closings (x :: rest) = x.1 :: closings rest :=
  List.filter_cons_of_pos h

theorem closings_cons_of_open (h : x.1.isClose = false) : closings (x :: rest) = closings rest :=
  List.filter_cons_of_neg (by simp [h])

@[simp] theorem closings_told {n : Notice} : closings (told n :: rest) = closings rest := rfl

theorem closings_eq_nil (h : ∀ x ∈ record, x.1.isClose = false) : closings record = [] := by
  refine List.filter_eq_nil_iff.2 fun q hq => ?_
  obtain ⟨x, hx, rfl⟩ := List.mem_map.1 hq
  simp [h x hx]

theorem closings_eq_replicate {q : Question} (h : ∀ x ∈ record, x.1 = q) (hq : q.isClose) :
    closings record = List.replicate record.length q := by
  have hmap : record.map (fun x => x.1) = List.replicate record.length q :=
    List.map_eq_replicate_iff.2 h
  rw [closings, hmap, List.filter_replicate_of_pos hq]

theorem timesAsked_eq_countP {f : Question → Bool} (hf : ∀ q, f q → q.isClose) :
    timesAsked f record = (closings record).countP f := by
  rw [closings, List.countP_filter, List.countP_map]
  refine List.countP_congr fun x _ => ?_
  have := hf x.1
  simp_all

end

theorem closings_of_plan {result : Except UpdateError Plan}
    (h : Course (plan primitives settings target source).run record result) :
    closings record = [] :=
  closings_eq_nil fun x hx =>
    ((WithinStep.plan primitives settings target source).asks h x hx).not_close

theorem closings_of_enterBootloader {found : Except UpdateError (BootloaderRole × Variant)}
    (h : Course (enterBootloader settings target).run record found) :
    closings record = List.replicate target.devices (.device .initial .close) := by
  cases target with
  | bootloader model variant =>
      obtain ⟨rfl, -⟩ := (course_enterBootloader_bootloader settings).1 h
      rfl
  | device model =>
      obtain ⟨answer, closing, rest, rfl, ⟨e, -, rfl, -⟩ | ⟨searching, -, rfl, hfound⟩⟩ :=
        course_enterBootloader_device settings h
      · rfl
      · have hnone := closings_eq_nil fun x hx =>
          ((WithinStep.findBootloader _ _ _ _ _).asks hfound x hx).not_close
        exact congrArg (List.cons (.device .initial .close)) hnone

theorem Inspected.not_close {expected : Version} {result : Except UpdateError Status}
    (h : Inspected expected record result) : ∀ x ∈ record, x.1.isClose = false := by
  intro x hx
  cases h with
  | mute hversion | otherVersion hversion hother =>
      obtain rfl := List.mem_singleton.1 hx
      rfl
  | sameVersion hversion hlevel =>
      simp only [List.mem_cons, List.not_mem_nil, or_false] at hx
      rcases hx with rfl | rfl
      · rfl
      · rfl

/-- A device that comes back is closed, and nothing else is in the end. -/
theorem closings_of_finalize {model : Model} {expected : Version} {retries : Nat}
    {result : Except UpdateError Status}
    (h : Course (finalize model expected retries).run record result) :
    (CameBack record ∧ closings record = [.device .returned .close]) ∨
      (¬ CameBack record ∧ closings record = []) := by
  have honce := wait_once_of_finalize h
  obtain ⟨progress, answer, bars, rest, hbars, rfl, hrest⟩ := course_finalize h
  have hbars : closings bars = [] := by
    refine closings_eq_nil fun x hx => ?_
    obtain ⟨n, hn⟩ := Question.tell_of_isBar (hbars x hx)
    rw [hn]
    rfl
  rcases hrest with ⟨e, rfl, rfl, -⟩ | ⟨inspected, closed, rfl, rfl, hinspected⟩
  · refine .inr ⟨?_, ?_⟩
    · rintro ⟨m, r, p, hback⟩
      -- There was one wait, and it failed.
      cases eq_of_timesAsked_le_one honce.le hback (List.mem_cons_of_mem _ List.mem_cons_self)
        rfl rfl
    · rw [closings_told, closings_cons_of_open rfl]
      simp [hbars]
  · refine .inl ⟨⟨model, retries, progress, by simp⟩, ?_⟩
    rw [closings_told, closings_cons_of_open rfl]
    simp only [closings_append, hbars, closings_eq_nil hinspected.not_close, List.nil_append]
    rfl

theorem closings_of_final (h : FinalCourse target record) :
    (CameBack record ∧ closings record = [.device .returned .close]) ∨
      (¬ CameBack record ∧ closings record = []) := by
  cases h with
  | missed =>
      refine .inr ⟨?_, rfl⟩
      rintro ⟨model, retries, progress, hmem⟩
      cases hmem
  | @waited waiting expected retries result hwait =>
      have hback : CameBack (told (.enter .finalizationWait) :: waiting) ↔ CameBack waiting := by
        simp [CameBack, told]
      rw [hback, closings_told]
      exact closings_of_finalize hwait

/-! ## The whole update -/

/-- The bootloader whose image was validated is closed after all that was done about the image, and
nothing but the wait for the device is left then. -/
structure ClosedAfterAttempt (target : UpdateTarget) (record : Record) (role : BootloaderRole) :
    Prop where
  used : ∀ other, InUse target record other ↔ other = role
  once : timesAsked Question.isBootloaderClose record = 1
  placed : ∃ before closed after, record = before ++ ⟨.bootloader role .close, closed⟩ :: after ∧
    told (.enter .imageValidation) ∈ before ∧ (∀ x ∈ before, x.1.isWait = false) ∧
    ∀ x ∈ after, x = told (.enter .finalizationWait) ∨ x.1.Fits .finalizationWait

structure ReleasedOnce (target : UpdateTarget) (record : Record) : Prop where
  initial : timesAsked (· = .device .initial .close) record = target.devices
  /-- The device is closed before a bootloader is waited for. -/
  first : ∀ before model number answer after,
    record = before ++ ⟨.awaitBootloader model number, answer⟩ :: after →
      ∃ closed, ⟨.device .initial .close, closed⟩ ∈ before
  bootloader : told (.enter .imageValidation) ∈ record →
    ∃ role, ClosedAfterAttempt target record role
  returned : CameBack record → timesAsked (· = .device .returned .close) record = 1
  absent : ¬ CameBack record → timesAsked (· = .device .returned .close) record = 0

section

variable {planning entering : Record} {p : Plan}
  {found : Except UpdateError (BootloaderRole × Variant)}

theorem not_wait_of_plan {result : Except UpdateError Plan}
    (h : Course (plan primitives settings target source).run planning result) :
    ∀ x ∈ planning, x.1.isWait = false := fun x hx =>
  ((WithinStep.plan primitives settings target source).asks h x hx).not_wait (by decide)

theorem not_wait_of_enterBootloader
    (h : Course (enterBootloader settings target).run entering found) :
    ∀ x ∈ entering, x.1.isWait = false := fun x hx =>
  ((WithinStep.enterBootloader settings target).asks h x hx).not_wait (by decide)

theorem cameBack_append {first rest : Record} (h : ∀ x ∈ first, x.1.isWait = false) :
    CameBack (first ++ rest) ↔ CameBack rest := by
  constructor
  · rintro ⟨model, retries, progress, hmem⟩
    refine ⟨model, retries, progress, (List.mem_append.1 hmem).resolve_left fun hfirst => ?_⟩
    cases h _ hfirst
  · rintro ⟨model, retries, progress, hmem⟩
    exact ⟨model, retries, progress, List.mem_append_right _ hmem⟩

theorem not_wait_of_leadUp
    (hplan : Course (plan primitives settings target source).run planning (.ok p))
    (henter : Course (enterBootloader settings target).run entering found) :
    ∀ x ∈ leadUp planning entering, x.1.isWait = false := by
  intro x hx
  simp only [leadUp, List.mem_cons, List.mem_append] at hx
  rcases hx with rfl | hx | rfl | hx
  · rfl
  · exact not_wait_of_plan hplan x hx
  · rfl
  · exact not_wait_of_enterBootloader henter x hx

theorem closings_of_leadUp
    (hplan : Course (plan primitives settings target source).run planning (.ok p))
    (henter : Course (enterBootloader settings target).run entering found) :
    closings (leadUp planning entering) =
      List.replicate target.devices (.device .initial .close) := by
  rw [leadUp, closings_told, closings_append, closings_told, closings_of_plan hplan,
    closings_of_enterBootloader henter, List.nil_append]

end

/-- Bootloaders are closed after an attempt only. -/
theorem closings_of_found {found : Except UpdateError (BootloaderRole × Variant)}
    (h : FoundCourse target found record) :
    ∃ tried back, closings record = tried ++ back ∧
      (tried = [] ∨ ∃ role, tried = [.bootloader role .close]) ∧
      ((CameBack record ∧ back = [.device .returned .close]) ∨
        (¬ CameBack record ∧ back = [])) := by
  cases h with
  | stranded e =>
      refine ⟨[], [], rfl, .inl rfl, .inr ⟨?_, rfl⟩⟩
      rintro ⟨model, retries, progress, hmem⟩
      cases hmem
  | @tried role variant trying final closed htrying hfinal =>
      have hback : CameBack (told (.enter .imageValidation) ::
          (trying ++ ⟨.bootloader role .close, closed⟩ :: final)) ↔ CameBack final := by
        have hquiet : ∀ x ∈ told (.enter .imageValidation) ::
            (trying ++ [⟨.bootloader role .close, closed⟩]), x.1.isWait = false := by
          intro x hx
          simp only [List.mem_cons, List.mem_append, List.not_mem_nil, or_false] at hx
          rcases hx with rfl | hx | rfl
          · rfl
          · exact (htrying x hx).inert.2.2
          · rfl
        simpa using (cameBack_append hquiet : CameBack (_ ++ final) ↔ CameBack final)
      refine ⟨[.bootloader role .close], closings final, ?_, .inr ⟨role, rfl⟩, ?_⟩
      · rw [closings_told, closings_append, closings_cons_of_close rfl,
          closings_eq_nil fun x hx => (htrying x hx).inert.1]
        rfl
      · rw [hback]
        exact closings_of_final hfinal

/-- The connections that were closed, in the order in which they were. -/
theorem HandledCourse.closings_eq (h : HandledCourse primitives settings target source record) :
    ∃ tried back, closings record =
        List.replicate target.devices (.device .initial .close) ++ (tried ++ back) ∧
      (tried = [] ∨ ∃ role, tried = [.bootloader role .close]) ∧
      ((CameBack record ∧ back = [.device .returned .close]) ∨
        (¬ CameBack record ∧ back = [])) := by
  cases h with
  | @refused planning closing e hplan hclosing honce =>
      refine ⟨[], [], ?_, .inl rfl, .inr ⟨?_, rfl⟩⟩
      · have hclosings : closings closing =
            List.replicate target.devices (.device .initial .close) := by
          rw [← honce]
          exact closings_eq_replicate hclosing rfl
        rw [closings_told, closings_append, closings_of_plan hplan, hclosings]
        simp
      · rintro ⟨model, retries, progress, hmem⟩
        simp only [List.mem_cons, List.mem_append] at hmem
        rcases hmem with hmem | hmem | hmem
        · cases hmem
        · cases not_wait_of_plan hplan _ hmem
        · cases hclosing _ hmem
  | @entered planning entering rest p found hplan henter hfound =>
      obtain ⟨tried, back, hclosings, htried, hback⟩ := closings_of_found hfound
      rw [cameBack_append (not_wait_of_leadUp hplan henter), closings_append,
        closings_of_leadUp hplan henter, hclosings]
      exact ⟨tried, back, rfl, htried, hback⟩

/-! ## Where an update looks for a bootloader -/

section

variable {planning entering : Record} {p : Plan}
  {found : Except UpdateError (BootloaderRole × Variant)}

theorem not_lookout_of_plan {result : Except UpdateError Plan}
    (h : Course (plan primitives settings target source).run planning result) :
    ∀ x ∈ planning, x.1.isLookout = false := fun x hx =>
  Question.not_lookout_of_isBeyondCheck
    ((WithinStep.plan primitives settings target source).asks h x hx).of_versionCheck.1

theorem not_lookout_of_found (h : FoundCourse target found record) :
    ∀ x ∈ record, x.1.isLookout = false := by
  intro x hx
  cases h with
  | stranded e => cases hx
  | @tried role variant trying final closed htrying hfinal =>
      simp only [List.mem_cons, List.mem_append] at hx
      rcases hx with rfl | hx | rfl | hx
      · rfl
      · exact (htrying x hx).inert.2.1
      · rfl
      · cases hfinal with
        | missed => cases hx
        | waited hwait =>
            rcases List.mem_cons.1 hx with rfl | hx
            · rfl
            · exact ((WithinStep.finalize _ _ _).asks hwait x hx).not_lookout

/-- Nowhere but in the transition a bootloader is looked for. -/
theorem mem_entering_of_isLookout
    (hplan : Course (plan primitives settings target source).run planning (.ok p))
    (hfound : FoundCourse target found record) {x : Exchange Question.Answer} (hx : x.1.isLookout) :
    x ∈ leadUp planning entering ++ record ↔ x ∈ entering := by
  have hplanning : x ∉ planning := fun hmem => by simp [not_lookout_of_plan hplan x hmem] at hx
  have hrecord : x ∉ record := fun hmem => by simp [not_lookout_of_found hfound x hmem] at hx
  have htold : ∀ n, x ≠ told n := by
    rintro n rfl
    cases hx
  simp [leadUp, hplanning, hrecord, htold]

theorem inUse_of_handled
    (hplan : Course (plan primitives settings target source).run planning (.ok p))
    (henter : Course (enterBootloader settings target).run entering found)
    (hfound : FoundCourse target found record) (role : BootloaderRole) :
    InUse target (leadUp planning entering ++ record) role ↔
      ∃ variant, found = .ok (role, variant) := by
  rw [← inUse_of_enterBootloader role henter]
  cases target with
  | bootloader model variant => rfl
  | device model => exact exists_congr fun uuid => mem_entering_of_isLookout hplan hfound rfl

end

/-- What is there before anything is looked for comes before all that is. -/
theorem mem_of_split {first before after rest : Record} {x y : Exchange Question.Answer}
    (hfirst : ∀ z ∈ first, z.1.isLookout = false) (hy : y ∈ first)
    (hsplit : first ++ rest = before ++ x :: after) (hx : x.1.isLookout) : y ∈ before := by
  rcases append_eq_split hsplit with ⟨tail, rfl, -⟩ | ⟨tail, rfl, -⟩
  · simp [hfirst x (by simp)] at hx
  · exact List.mem_append_left _ hy

/-- A device is closed before a bootloader is waited for. -/
theorem HandledCourse.closed_first (h : HandledCourse primitives settings target source record)
    {before after : Record} {x : Exchange Question.Answer} (hsplit : record = before ++ x :: after)
    (hx : x.1.isLookout) : ∃ closed, ⟨.device .initial .close, closed⟩ ∈ before := by
  have hmem : x ∈ record := by simp [hsplit]
  cases h with
  | refused hplan hclosing honce =>
      simp only [List.mem_cons, List.mem_append] at hmem
      rcases hmem with rfl | hmem | hmem
      · cases hx
      · simp [not_lookout_of_plan hplan x hmem] at hx
      · simp [hclosing x hmem, Question.isLookout] at hx
  | @entered planning entering rest p found hplan henter hfound =>
      rw [mem_entering_of_isLookout hplan hfound hx] at hmem
      cases target with
      | bootloader model variant =>
          obtain ⟨rfl, -⟩ := (course_enterBootloader_bootloader settings).1 henter
          cases hmem
      | device model =>
          obtain ⟨answer, closed, tail, rfl, -⟩ := course_enterBootloader_device settings henter
          -- Up to the close of the device nothing is looked for, so that a search comes after it.
          have hfirst : ∀ z ∈ leadUp planning
              [told .touch, ⟨.device .initial Admin.bootromCall, answer⟩,
                ⟨.device .initial .close, closed⟩], z.1.isLookout = false := by
            intro z hz
            simp only [leadUp, List.mem_cons, List.mem_append, List.not_mem_nil, or_false] at hz
            rcases hz with rfl | hz | rfl | rfl | rfl | rfl
            · rfl
            · exact not_lookout_of_plan hplan z hz
            all_goals rfl
          have hrest : leadUp planning
              (told .touch :: ⟨.device .initial Admin.bootromCall, answer⟩ ::
                ⟨.device .initial .close, closed⟩ :: tail) ++ rest =
                leadUp planning [told .touch, ⟨.device .initial Admin.bootromCall, answer⟩,
                  ⟨.device .initial .close, closed⟩] ++ (tail ++ rest) := by
            simp [leadUp]
          exact ⟨closed, mem_of_split hfirst (by simp [leadUp]) (hrest.symm.trans hsplit) hx⟩

/-! ## The bootloader -/

section

variable {planning entering rest : Record} {p : Plan}
  {found : Except UpdateError (BootloaderRole × Variant)}

theorem not_validating_of_plan {result : Except UpdateError Plan}
    (h : Course (plan primitives settings target source).run planning result) :
    told (.enter .imageValidation) ∉ planning := by
  intro hmem
  cases ((WithinStep.plan primitives settings target source).asks h _ hmem).entered?

theorem not_validating_of_leadUp
    (hplan : Course (plan primitives settings target source).run planning (.ok p))
    (henter : Course (enterBootloader settings target).run entering found) :
    told (.enter .imageValidation) ∉ leadUp planning entering := by
  intro hmem
  simp only [leadUp, List.mem_cons, List.mem_append] at hmem
  rcases hmem with hmem | hmem | hmem | hmem
  · cases hmem
  · exact not_validating_of_plan hplan hmem
  · cases hmem
  · cases ((WithinStep.enterBootloader settings target).asks henter _ hmem).entered?

theorem fits_of_final (h : FinalCourse target record) :
    ∀ x ∈ record, x = told (.enter .finalizationWait) ∨ x.1.Fits .finalizationWait := by
  intro x hx
  cases h with
  | missed => cases hx
  | waited hwait =>
      exact (List.mem_cons.1 hx).imp_right fun hx =>
        .returning ((WithinStep.finalize _ _ _).asks hwait x hx)

theorem closedAfterAttempt_of_found
    (hplan : Course (plan primitives settings target source).run planning (.ok p))
    (henter : Course (enterBootloader settings target).run entering found)
    (hfound : FoundCourse target found rest) (hvalidating : told (.enter .imageValidation) ∈ rest) :
    ∃ role, ClosedAfterAttempt target (leadUp planning entering ++ rest) role := by
  have hused := inUse_of_handled hplan henter hfound
  cases hfound with
  | stranded e => cases hvalidating
  | @tried role variant trying final closed htrying hfinal =>
      refine ⟨role, ?_, ?_, ?_⟩
      · intro other
        simp [hused, eq_comm]
      · -- What is closed in front of the attempt and after it is a device.
        have hlast : (closings final).countP Question.isBootloaderClose = 0 := by
          rcases closings_of_final hfinal with ⟨-, hclosings⟩ | ⟨-, hclosings⟩
          · rw [hclosings]
            rfl
          · rw [hclosings]
            rfl
        have htried : closings trying = [] := closings_eq_nil fun x hx => (htrying x hx).inert.1
        rw [timesAsked_eq_countP Question.isClose_of_isBootloaderClose, closings_append,
          closings_of_leadUp hplan henter, closings_told, closings_append, htried,
          closings_cons_of_close rfl]
        simp [hlast, Question.isBootloaderClose, List.countP_replicate, List.countP_cons]
      · refine ⟨leadUp planning entering ++ told (.enter .imageValidation) :: trying, closed, final,
          by simp, by simp, ?_, fits_of_final hfinal⟩
        intro x hx
        simp only [List.mem_append, List.mem_cons] at hx
        rcases hx with hx | rfl | hx
        · exact not_wait_of_leadUp hplan henter x hx
        · rfl
        · exact (htrying x hx).inert.2.2

end

theorem HandledCourse.closed_after_attempt
    (h : HandledCourse primitives settings target source record)
    (hvalidating : told (.enter .imageValidation) ∈ record) :
    ∃ role, ClosedAfterAttempt target record role := by
  cases h with
  | refused hplan hclosing honce =>
      simp only [List.mem_cons, List.mem_append] at hvalidating
      rcases hvalidating with hmem | hmem | hmem
      · cases hmem
      · exact absurd hmem (not_validating_of_plan hplan)
      · cases hclosing _ hmem
  | entered hplan henter hfound =>
      refine closedAfterAttempt_of_found hplan henter hfound ?_
      exact (List.mem_append.1 hvalidating).resolve_left (not_validating_of_leadUp hplan henter)

/-! ## Once in every run -/

theorem HandledCourse.initial_closed (h : HandledCourse primitives settings target source record) :
    timesAsked (· = .device .initial .close) record = target.devices := by
  obtain ⟨tried, back, hclosings, htried, hback⟩ := h.closings_eq
  rw [timesAsked_eq_countP (by simp [Question.isClose]), hclosings]
  rcases htried with rfl | ⟨role, rfl⟩ <;> rcases hback with ⟨-, rfl⟩ | ⟨-, rfl⟩ <;>
    simp [List.countP_replicate]

theorem HandledCourse.returned_closed (h : HandledCourse primitives settings target source record) :
    (CameBack record → timesAsked (· = .device .returned .close) record = 1) ∧
      (¬ CameBack record → timesAsked (· = .device .returned .close) record = 0) := by
  obtain ⟨tried, back, hclosings, htried, hback⟩ := h.closings_eq
  rw [timesAsked_eq_countP (by simp [Question.isClose]), hclosings]
  rcases htried with rfl | ⟨role, rfl⟩ <;> rcases hback with ⟨hcame, rfl⟩ | ⟨hcame, rfl⟩ <;>
    simp [List.countP_replicate, hcame]

/-- Whatever fails in an update, closing included: the device that it starts with and the one that
comes back are closed once, the first of them before a bootloader is waited for, and so is the
bootloader that it validates an image for, before the device is waited for.  And whatever is done
with a device, its connection is closed once when it has been let go of. -/
theorem connections_released_once {σ τ : Type} (primitives : Primitives) (u : Updater)
    (target : UpdateTarget) (source : UpdateSource) (w : Surroundings Question.Answer σ) (s : σ)
    (d : OpenDevice) (operations : List DeviceOperation) (connection : Surroundings Call.Answer τ)
    (t : τ) :
    ReleasedOnce target ((u.update primitives target source).run w s).record ∧
      OpenDevice.timesClosed ((d.session operations).run connection t).record =
        if d.isClosed then 0 else 1 := by
  obtain ⟨result, hrun, -⟩ := course_of_update u w s
  have hhandled := handledCourse_of_run hrun
  refine ⟨⟨hhandled.initial_closed, ?_, hhandled.closed_after_attempt, hhandled.returned_closed.1,
    hhandled.returned_closed.2⟩, OpenDevice.closes_of_session (course_run connection _ t)⟩
  rintro before model number answer after hsplit
  exact hhandled.closed_first hsplit rfl

/-- An update that comes to its end, and a device that is closed and then used on. -/
theorem connections_released_once_trial :
    let record := Trial.stale.run.record
    let connection : Surroundings Call.Answer Unit :=
      fun t call => (Trial.stale.reply .initial call, t)
    let session :=
      (OpenDevice.session { model := .nk3 } [.version, .close, .wink, .close]).run connection ()
    told (.enter .imageValidation) ∈ record ∧ CameBack record ∧ ReleasedOnce (.device .nk3) record ∧
      OpenDevice.timesClosed session.record = 1 := by
  intro record connection session
  obtain ⟨hreleased, hclosed⟩ :=
    connections_released_once Trial.primitives Trial.updater (.device .nk3) (.bytes [0])
      Trial.stale.surroundings () { model := .nk3 } [.version, .close, .wink, .close] connection ()
  exact ⟨List.mem_of_getElem? (i := 13) rfl, ⟨.nk3, 60, [], List.mem_of_getElem? (i := 21) rfl⟩,
    hreleased, hclosed⟩

end Update
end Reflash
