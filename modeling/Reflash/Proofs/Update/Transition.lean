import Reflash.Proofs.Update.Step

/-!
# Update.Transition — courses of the way to the bootloader

* `course_enterBootloader_device` — a device gets the command once, is let go of, and after that a
  bootloader is looked for, unless the answer to the command ends the transition;
* `found_of_findBootloader` — the bootloader that is used is the one that the last attempt led to;
* `WithinStep.enterBootloader` — the transition keeps to its step.
-/

namespace Reflash
namespace Update

open Dialogue

variable {record : Record}

/-! ## Attempts -/

/-- A bootloader that does not answer was not found. -/
theorem course_connect {model : Model} {number : Nat} {result : Except DeviceError Variant} :
    Course (connect model number) record result ↔
      (∃ e, record = [⟨.awaitBootloader model number, .error e⟩] ∧ result = .error e) ∨
        ∃ variant answer, record = [⟨.awaitBootloader model number, .ok variant⟩,
          ⟨.bootloader (.attempt number) .uuid, answer⟩] ∧
          result = answer.map fun _ => variant := by
  rw [connect]
  constructor
  · intro h
    rcases course_seq.1 h with ⟨e, hawait, rfl⟩ | ⟨_, variant, _, rfl, hawait, hrest⟩
    · exact .inl ⟨e, course_query.1 hawait, rfl⟩
    · obtain rfl := course_query.1 hawait
      rcases course_seq.1 hrest with ⟨e, huuid, rfl⟩ | ⟨_, uuid, _, rfl, huuid, hdone⟩
      · obtain rfl := course_query.1 huuid
        exact .inr ⟨variant, .error e, rfl, rfl⟩
      · obtain rfl := course_query.1 huuid
        obtain ⟨rfl, rfl⟩ := course_pure.1 hdone
        exact .inr ⟨variant, .ok uuid, rfl, rfl⟩
  · rintro (⟨e, rfl, rfl⟩ | ⟨variant, answer, rfl, rfl⟩)
    · exact course_seq.2 (.inl ⟨e, course_query.2 rfl, rfl⟩)
    · refine course_seq.2 (.inr ⟨[_], variant, [_], rfl, course_query.2 rfl, ?_⟩)
      cases answer with
      | error e =>
          exact course_seq.2 (.inl ⟨e, course_query.2 rfl, rfl⟩)
      | ok uuid =>
          exact course_seq.2 (.inr ⟨[_], uuid, [], rfl, course_query.2 rfl,
            course_pure.2 ⟨rfl, rfl⟩⟩)

theorem WithinStep.connect (model : Model) (number : Nat) :
    WithinStep Question.IsSearch .bootloaderTransition
      (ExceptT.lift (connect model number) : StepM (Except DeviceError Variant)) := by
  refine .quiet ?_ ?_
  · intro record result h x hx
    obtain ⟨answer, hanswer, -⟩ := course_lift.1 h
    rcases course_connect.1 hanswer with ⟨e, rfl, -⟩ | ⟨variant, answer, rfl, -⟩
    · obtain rfl := List.mem_singleton.1 hx
      exact ⟨.await model number, rfl⟩
    · rcases List.mem_cons.1 hx with rfl | hx
      · exact ⟨.await model number, rfl⟩
      · obtain rfl := List.mem_singleton.1 hx
        exact ⟨.uuid number, rfl⟩
  · intro record e h
    obtain ⟨answer, -, he⟩ := course_lift.1 h
    cases he

/-- The pause before an attempt. -/
theorem WithinStep.pause (delay made : Nat) :
    WithinStep Question.IsSearch .bootloaderTransition
      (if 0 < made then Update.tell (.sleep delay) else Pure.pure () : StepM Unit) := by
  split
  · exact .tell (.sleep delay)
  · exact .pure ()

/-- What one more attempt leads to. -/
def afterAttempt (model : Model) (delay number remaining : Nat) :
    Except DeviceError Variant → StepM (BootloaderRole × Variant)
  | .ok variant => pure (.attempt number, variant)
  | .error e => findBootloader model delay number (some e) remaining

theorem findBootloader_succ (model : Model) (delay made : Nat) (last : Option DeviceError)
    (remaining : Nat) :
    findBootloader model delay made last (remaining + 1) =
      (if 0 < made then tell (.sleep delay) else pure ()) >>= fun _ =>
        ExceptT.lift (connect model (made + 1)) >>=
          afterAttempt model delay (made + 1) remaining := by
  rw [findBootloader]
  split <;> rfl

theorem WithinStep.findBootloader (model : Model) (delay made : Nat) (last : Option DeviceError)
    (remaining : Nat) :
    WithinStep Question.IsSearch .bootloaderTransition
      (findBootloader model delay made last remaining) := by
  induction remaining generalizing made last with
  | zero =>
      exact .throw rfl
  | succ remaining ih =>
      rw [findBootloader_succ]
      refine .seq (.pause delay made) fun _ => .seq (.connect model (made + 1)) fun answer => ?_
      cases answer with
      | ok variant => exact .pure _
      | error e => exact ih (made + 1) (some e)

/-- There is no pause before the first attempt. -/
def pauses (delay made : Nat) : Record :=
  if 0 < made then [told (.sleep delay)] else []

theorem told_of_mem_pauses {delay made : Nat} {x : Exchange Question.Answer}
    (hx : x ∈ pauses delay made) :
    ∃ n, x = told n := by
  rw [pauses] at hx
  split at hx
  · exact ⟨_, List.mem_singleton.1 hx⟩
  · cases hx

theorem course_pause {delay made : Nat} {result : Except UpdateError Unit} :
    Course (if 0 < made then tell (.sleep delay) else pure () : StepM Unit).run record result ↔
      record = pauses delay made ∧ result = .ok () := by
  rw [pauses]
  split
  · exact course_tell
  · exact course_pure

/-- A pause perhaps, an attempt, and what it leads to. -/
theorem course_findBootloader_succ {model : Model} {delay made : Nat} {last : Option DeviceError}
    {remaining : Nat} {result : Except UpdateError (BootloaderRole × Variant)}
    (h : Course (findBootloader model delay made last (remaining + 1)).run record result) :
    ∃ attempted answer rest, record = pauses delay made ++ (attempted ++ rest) ∧
      Course (connect model (made + 1)) attempted answer ∧
      Course (afterAttempt model delay (made + 1) remaining answer).run rest result := by
  rw [findBootloader_succ] at h
  rcases course_seq.1 h with ⟨e, hpaused, -⟩ | ⟨_, _, _, rfl, hpaused, h₁⟩
  · cases (course_pause.1 hpaused).2
  · obtain ⟨rfl, -⟩ := course_pause.1 hpaused
    obtain ⟨attempted, answer, rest, rfl, hconnect, hrest⟩ := course_lift_seq.1 h₁
    exact ⟨attempted, answer, rest, rfl, hconnect, hrest⟩

/-- By induction on the attempts that remain.  Attempts are numbered upwards, so that no later one
speaks of the same bootloader. -/
theorem found_of_findBootloader {model : Model} {delay made : Nat} {last : Option DeviceError}
    {remaining : Nat} {role : BootloaderRole} {variant : Variant}
    (h : Course (findBootloader model delay made last remaining).run record (.ok (role, variant))) :
    ∃ number, made < number ∧ role = .attempt number ∧
      ⟨.awaitBootloader model number, .ok variant⟩ ∈ record ∧
      ∀ v, ⟨.awaitBootloader model number, .ok v⟩ ∈ record → v = variant := by
  induction remaining generalizing made last record with
  | zero =>
      cases (course_throw.1 h).2
  | succ remaining ih =>
      obtain ⟨attempted, answer, rest, rfl, hconnect, hrest⟩ := course_findBootloader_succ h
      -- The pause before an attempt is no meeting, so that the first one is that of the attempt
      -- itself.
      have hquiet : ∀ number v, ⟨.awaitBootloader model number, .ok v⟩ ∉ pauses delay made := by
        intro number v hmem
        obtain ⟨n, hn⟩ := told_of_mem_pauses hmem
        cases hn
      cases answer with
      | ok found =>
          obtain ⟨rfl, hresult⟩ := course_pure.1 hrest
          cases hresult
          rcases course_connect.1 hconnect with ⟨e, -, he⟩ | ⟨met, uuid, rfl, hmet⟩
          · cases he
          obtain ⟨answer, rfl, rfl⟩ := map_eq_ok.1 hmet.symm
          refine ⟨made + 1, by omega, rfl, by simp, ?_⟩
          intro v hv
          simpa [hquiet] using hv
      | error e =>
          obtain ⟨number, hlater, rfl, hmem, hunique⟩ := ih hrest
          refine ⟨number, by omega, rfl, by simp [hmem], ?_⟩
          intro v hv
          -- The bootloader of this attempt has a lower number than the one that was found.
          have hother : ⟨.awaitBootloader model number, .ok v⟩ ∉ attempted := by
            intro hmem'
            rcases course_connect.1 hconnect with ⟨e', rfl, -⟩ | ⟨met, uuid, rfl, -⟩
            · simp at hmem'
            · simp only [List.mem_cons, List.not_mem_nil, or_false] at hmem'
              rcases hmem' with hsame | hsame
              · cases hsame
                omega
              · cases hsame
          simp only [List.mem_append, hquiet, hother, false_or] at hv
          exact hunique v hv

/-! ## The command -/

/-- What the answer to the command means for the update. -/
def rebootResult (answer : Except DeviceError Bytes) : Except UpdateError Unit :=
  match rebootFailure? (Admin.bootromFrom answer) with
  | some e => .error e
  | none => .ok ()

theorem course_reboot {result : Except DeviceError Bool} :
    Course ((Admin.reboot .bootrom).run.relay (Question.device .initial) fun _ answer => answer)
        record result ↔
      ∃ answer, record = [⟨.device .initial Admin.bootromCall, answer⟩] ∧
        result = Admin.bootromFrom answer := by
  rw [Admin.run_reboot]
  refine (course_map (d := query (Question.device .initial Admin.bootromCall))).trans ?_
  simp only [course_query]

/-- The command is sent once, whatever comes of it. -/
theorem course_rebootDevice {result : Except UpdateError Unit}
    (h : Course rebootDevice.run record result) :
    ∃ answer closing, record = [told .touch, ⟨.device .initial Admin.bootromCall, answer⟩,
        ⟨.device .initial .close, closing⟩] ∧
      result = rebootResult answer := by
  obtain ⟨_, rfl, h₁⟩ := course_tell_seq.1 h
  obtain ⟨_, _, _, rfl, hsent, h₂⟩ := course_lift_seq.1 h₁
  obtain ⟨answer, rfl, rfl⟩ := course_reboot.1 hsent
  obtain ⟨_, _, _, rfl, hclosed, h₃⟩ := course_lift_seq.1 h₂
  obtain ⟨closing, rfl⟩ := course_closeDevice.1 hclosed
  refine ⟨answer, closing, ?_, ?_⟩
  · split at h₃
    · obtain ⟨rfl, -⟩ := course_throw.1 h₃
      rfl
    · obtain ⟨rfl, -⟩ := course_pure.1 h₃
      rfl
  · split at h₃
    next e he =>
      simpa only [rebootResult, he] using (course_throw.1 h₃).2
    next he =>
      simpa only [rebootResult, he] using (course_pure.1 h₃).2

theorem step?_of_rebootFailure {result : Except DeviceError Bool} {e : UpdateError}
    (h : rebootFailure? result = some e) : e.step? = some .bootloaderTransition := by
  rw [rebootFailure?.eq_def] at h
  split at h
  · cases h
  · cases h
    rfl
  · split at h
    · cases h
    · cases h
      rfl

theorem step?_of_rebootResult {answer : Except DeviceError Bytes} {e : UpdateError}
    (h : rebootResult answer = .error e) : e.step? = some .bootloaderTransition := by
  cases hfailure : rebootFailure? (Admin.bootromFrom answer) with
  | none => simp [rebootResult, hfailure] at h
  | some e' =>
      obtain rfl : e' = e := by simpa [rebootResult, hfailure] using h
      exact step?_of_rebootFailure hfailure

theorem WithinStep.rebootDevice :
    WithinStep (Question.Fits .bootloaderTransition) .bootloaderTransition rebootDevice := by
  refine .quiet ?_ ?_
  · intro record result h x hx
    obtain ⟨answer, closing, rfl, -⟩ := course_rebootDevice h
    simp only [List.mem_cons, List.not_mem_nil, or_false] at hx
    rcases hx with rfl | rfl | rfl
    · exact ⟨.touch, rfl⟩
    · exact ⟨.bootrom, rfl⟩
    · exact ⟨.closeInitial, rfl⟩
  · intro record e h
    obtain ⟨answer, closing, -, he⟩ := course_rebootDevice h
    exact step?_of_rebootResult he.symm

/-! ## The transition -/

variable (settings : UpdateSettings)

/-- What happens after the command. -/
theorem WithinStep.search (model : Model) :
    WithinStep Question.IsSearch .bootloaderTransition (do
      Update.tell (.sleep settings.config.settleDelay)
      Update.tell .hint
      Update.findBootloader model settings.config.retryDelay 0 none settings.config.retries) :=
  .seq (.tell (.sleep _)) fun _ => .seq (.tell .hint) fun _ => .findBootloader model _ 0 none _

theorem WithinStep.enterBootloader (target : UpdateTarget) :
    WithinStep (Question.Fits .bootloaderTransition) .bootloaderTransition
      (enterBootloader settings target) := by
  cases target with
  | bootloader model variant =>
      exact .pure _
  | device model =>
      exact .seq .rebootDevice fun _ => .mono (.search settings model) fun _ => .search

/-- A bootloader at hand needs nothing. -/
theorem course_enterBootloader_bootloader {model : Model} {variant : Variant}
    {result : Except UpdateError (BootloaderRole × Variant)} :
    Course (enterBootloader settings (.bootloader model variant)).run record result ↔
      record = [] ∧ result = .ok (.given, variant) :=
  course_pure

/-- The command comes first, right after the operator was told to touch the device.  Its answer ends
the transition, or a bootloader is looked for. -/
theorem course_enterBootloader_device {model : Model}
    {result : Except UpdateError (BootloaderRole × Variant)}
    (h : Course (enterBootloader settings (.device model)).run record result) :
    ∃ answer closing rest, record = told .touch :: ⟨.device .initial Admin.bootromCall, answer⟩ ::
        ⟨.device .initial .close, closing⟩ :: rest ∧
      ((∃ e, rebootResult answer = .error e ∧ rest = [] ∧ result = .error e) ∨
        ∃ found, rebootResult answer = .ok () ∧
          rest = told (.sleep settings.config.settleDelay) :: told .hint :: found ∧
          Course
            (findBootloader model settings.config.retryDelay 0 none settings.config.retries).run
            found result) := by
  rcases course_seq.1 h with ⟨e, hreboot, rfl⟩ | ⟨_, _, _, rfl, hreboot, h₁⟩
  · obtain ⟨answer, closing, rfl, he⟩ := course_rebootDevice hreboot
    exact ⟨answer, closing, [], rfl, .inl ⟨e, he.symm, rfl, rfl⟩⟩
  · obtain ⟨answer, closing, rfl, hok⟩ := course_rebootDevice hreboot
    obtain ⟨_, rfl, h₂⟩ := course_tell_seq.1 h₁
    obtain ⟨found, rfl, hfound⟩ := course_tell_seq.1 h₂
    exact ⟨answer, closing, _, rfl, .inr ⟨found, hok.symm, rfl, hfound⟩⟩

/-- The bootloader in its role has one variant only. -/
theorem met_of_enterBootloader {target : UpdateTarget} {role : BootloaderRole} {variant : Variant}
    (h : Course (enterBootloader settings target).run record (.ok (role, variant))) :
    Met target record role variant ∧ ∀ v, Met target record role v → v = variant := by
  cases target with
  | bootloader model given =>
      obtain ⟨rfl, hresult⟩ := (course_enterBootloader_bootloader settings).1 h
      cases hresult
      refine ⟨rfl, ?_⟩
      intro v hv
      cases hv
      rfl
  | device model =>
      obtain ⟨answer, closing, _, rfl, ⟨e, -, -, hfailed⟩ | ⟨found, -, rfl, hfound⟩⟩ :=
        course_enterBootloader_device settings h
      case inl => cases hfailed
      obtain ⟨number, -, rfl, hmem, hunique⟩ := found_of_findBootloader hfound
      refine ⟨by simp [Met, UpdateTarget.model, hmem], ?_⟩
      intro v hv
      refine hunique v ?_
      simpa [Met, UpdateTarget.model, told] using hv

end Update
end Reflash
