import Reflash.Proofs.Update.Acts

/-!
# Update.Written — runs that write an image

* `Written` — the record of such a run: everything before the image was admitted, and after it the
  update only waits for the device;
* `RunCourse.flash_cases` — all other runs leave the bootloader as it is;
* `Written.mem_cases` — every exchange has its place, so that what was asked once has one answer.
-/

namespace Reflash
namespace Update

open Dialogue

variable {primitives : Primitives} {settings : UpdateSettings} {target : UpdateTarget}
  {source : UpdateSource} {planning entering validating after record : Record} {p : Plan}
  {role : BootloaderRole} {variant : Variant} {image : Bytes} {migrations : Migrations}
  {answer : Progress × Except DeviceError Unit} {result : Except UpdateFailure UpdateOutcome}

def beforeFlash (planning entering validating : Record) : Record :=
  told (.enter .versionCheck) :: (planning ++
    told (.enter .bootloaderTransition) :: (entering ++
      told (.enter .imageValidation) :: (validating ++
        [told (.enter .flashing), told (.barStart .update none)])))

theorem planning_subset_beforeFlash : planning ⊆ beforeFlash planning entering validating := by
  intro x hx
  simp [beforeFlash, hx]

structure Written (primitives : Primitives) (settings : UpdateSettings) (target : UpdateTarget)
    (source : UpdateSource) (planning entering validating after : Record) (p : Plan)
    (role : BootloaderRole) (variant : Variant) (image : Bytes) (migrations : Migrations)
    (answer : Progress × Except DeviceError Unit) (record : Record) : Prop where
  admitted : Admitted primitives settings target source planning entering validating p role variant
    image migrations
  record_eq : record = beforeFlash planning entering validating ++
    ⟨.bootloader role (.update image), answer⟩ :: after
  aftermath : ∀ x ∈ after, x.1.IsAftermath role target.model migrations.retries
  waits : answer.2 = .ok () → Asked after (.awaitDevice target.model migrations.retries)

/-- From the flashing on, an update writes the image and then goes on as it does. -/
theorem Admitted.written {flashing rest : Record} {flashed : Except UpdateError Unit}
    (h : Admitted primitives settings target source planning entering validating p role variant
      image migrations)
    (hflash : Course (flash role image).run flashing flashed)
    (hrest : ∀ x ∈ rest, x.1.IsAftermath role target.model migrations.retries)
    (hwaits : flashed = .ok () → Asked rest (.awaitDevice target.model migrations.retries)) :
    ∃ after progress answer, flashed = answer.mapError .flashFailed ∧
      Written primitives settings target source planning entering validating after p role variant
        image migrations (progress, answer)
        (told (.enter .versionCheck) :: (planning ++
          told (.enter .bootloaderTransition) :: (entering ++
            told (.enter .imageValidation) :: (validating ++
              told (.enter .flashing) :: (flashing ++ rest))))) := by
  obtain ⟨progress, answer, bars, rfl, hbars, rfl⟩ := course_flash hflash
  refine ⟨bars ++ rest, progress, answer, rfl, h, by simp [beforeFlash], ?_, ?_⟩
  · intro x hx
    rcases List.mem_append.1 hx with hx | hx
    · exact .bar (hbars x hx)
    · exact hrest x hx
  · rintro rfl
    obtain ⟨x, hx, hq⟩ := hwaits rfl
    exact ⟨x, by simp [hx], hq⟩

theorem isAftermath_of_close {closed : Except DeviceError Unit} {retries : Nat} :
    ∀ x ∈ [(⟨.bootloader role .close, closed⟩ : Exchange Question.Answer)],
      x.1.IsAftermath role target.model retries := by
  intro x hx
  obtain rfl := List.mem_singleton.1 hx
  exact .close

theorem isAftermath_of_finalize {closed : Except DeviceError Unit} {waiting : Record}
    {expected : Version} {retries : Nat} {status : Except UpdateError Status}
    (hwait : Course (finalize target.model expected retries).run waiting status) :
    ∀ x ∈
      (⟨.bootloader role .close, closed⟩ :: told (.enter .finalizationWait) :: waiting : Record),
      x.1.IsAftermath role target.model retries := by
  intro x hx
  simp only [List.mem_cons] at hx
  rcases hx with rfl | rfl | hx
  · exact .close
  · exact .enter
  · exact .returning ((WithinStep.finalize target.model _ _).asks hwait x hx)

/-- What a failed update says follows from the answer of the bootloader. -/
inductive Reports (answer : Progress × Except DeviceError Unit) :
    Except UpdateFailure UpdateOutcome → Prop where
  | done {outcome : UpdateOutcome} (h : answer.2 = .ok ()) : Reports answer (.ok outcome)
  | late {f : UpdateFailure} (h : answer.2 = .ok ())
      (hstep : f.error.step? = some .finalizationWait) : Reports answer (.error f)
  | failed {step : UpdateStep} {cause : DeviceError} (h : answer.2 = .error cause) :
      Reports answer (.error ⟨step, .flashFailed cause⟩)

/-- An update writes no image, or one that was admitted, and after that it only waits for the
device. -/
theorem RunCourse.flash_cases (h : RunCourse primitives settings target source record result) :
    (timesAsked Question.isFlash record = 0 ∧
        ∃ f, result = .error f ∧ f.step ≠ .finalizationWait ∧ Cause f.step record f.error) ∨
      ∃ planning entering validating after p role variant image migrations answer,
        Written primitives settings target source planning entering validating after p role variant
          image migrations answer record ∧ Reports answer result := by
  cases h with
  | refused hplan hclosing =>
      have hclosed :=
        timesAsked_eq_zero (f := Question.isFlash) fun x hx => by rw [hclosing x hx]; rfl
      have hcause := (WithinStep.plan primitives settings target source).blames hplan
      refine .inl ⟨?_, _, rfl, by simp, hcause.mono fun x hx => ?_⟩
      · simp [no_flash_of_plan hplan, hclosed, told, Question.isFlash]
      · simp [hx]
  | stranded hplan henter =>
      have hcause := (WithinStep.enterBootloader settings target).blames henter
      refine .inl ⟨?_, _, rfl, by simp, hcause.mono fun x hx => ?_⟩
      · simp [no_flash_of_plan hplan, no_flash_of_enterBootloader henter, told, Question.isFlash]
      · simp [hx]
  | rejected closed hplan henter hvalidate =>
      have hcause :=
        (WithinStep.validateImage primitives settings target.model _ _).blames hvalidate
      refine .inl ⟨?_, _, rfl, by simp, hcause.mono fun x hx => ?_⟩
      · simp [no_flash_of_plan hplan, no_flash_of_enterBootloader henter,
          no_flash_of_validateImage hvalidate, told, Question.isFlash]
      · simp [hx]
  | unflashed closed h hflash =>
      obtain ⟨after, progress, answer, hanswer, hwritten⟩ :=
        h.written hflash isAftermath_of_close (by simp)
      obtain ⟨cause, rfl, rfl⟩ := mapError_eq_error.1 hanswer.symm
      exact .inr ⟨_, _, _, after, _, _, _, _, _, _, hwritten, .failed rfl⟩
  | @flashed _ _ _ _ _ _ _ _ _ _ status closed h hflash hwait =>
      obtain ⟨x, hx, hq⟩ := asked_of_finalize hwait
      obtain ⟨after, progress, answer, hanswer, hwritten⟩ :=
        h.written hflash (isAftermath_of_finalize hwait) fun _ => ⟨x, by simp [hx], hq⟩
      obtain rfl := mapError_eq_ok.1 hanswer.symm
      refine .inr ⟨_, _, _, after, _, _, _, _, _, _, hwritten, ?_⟩
      cases status with
      | ok status => exact .done rfl
      | error e => exact .late rfl (step?_of_finalize hwait)

/-! ## How often things are asked before -/

namespace Admitted

theorem flash_eq_zero (h : Admitted primitives settings target source planning entering validating p
    role variant image migrations) :
    timesAsked Question.isFlash (beforeFlash planning entering validating) = 0 := by
  simp [beforeFlash, no_flash_of_plan h.plan, no_flash_of_enterBootloader h.enter,
    no_flash_of_validateImage h.validate, told, Question.isFlash]

theorem supply_le_one (h : Admitted primitives settings target source planning entering validating p
    role variant image migrations) :
    timesAsked Question.isSupply (beforeFlash planning entering validating) ≤ 1 := by
  have hplanning := (counts_of_plan h.plan).2
  have hentering := timesAsked_eq_zero fun y hy => (quiet_entering h.enter y hy).2.2
  have hvalidating := timesAsked_eq_zero fun y hy => (quiet_validating h.validate y hy).2.2
  simp [beforeFlash, hplanning, hentering, hvalidating, told, Question.isSupply]

/-- Notes are shown in the version check or in the validation, but not in both. -/
theorem notes_eq_one (h : Admitted primitives settings target source planning entering validating p
    role variant image migrations) :
    timesAsked Question.isNotes (beforeFlash planning entering validating) = 1 := by
  have hplanning := (counts_of_plan h.plan).1
  have hentering := timesAsked_eq_zero fun y hy => (quiet_entering h.enter y hy).2.1
  have hvalidated := course_validateImage_ok primitives settings h.validate
  have hsum :
      timesAsked Question.isNotes planning + timesAsked Question.isNotes validating = 1 := by
    cases hknown : p.migrations with
    | some m =>
        -- The notes were shown in the version check, so that the validation shows none.
        obtain ⟨-, rfl⟩ := hvalidated.known m hknown
        simp [hplanning, hknown]
    | none =>
        simp [hplanning, hknown, (hvalidated.unknown hknown).2.once.1]
  simp [beforeFlash, hentering, told, Question.isNotes]
  omega

end Admitted

/-! ## What the record shows -/

namespace Written

section

variable (h : Written primitives settings target source planning entering validating after p role
  variant image migrations answer record)

include h

theorem mem_cases {x : Exchange Question.Answer} (hx : x ∈ record) :
    (∃ n, x = told n ∧ ∀ w, n ≠ .warning w) ∨ x ∈ planning ∨ x ∈ entering ∨ x ∈ validating ∨
      x = ⟨.bootloader role (.update image), answer⟩ ∨ x ∈ after := by
  rw [h.record_eq] at hx
  simp only [beforeFlash, List.cons_append, List.append_assoc, List.mem_cons, List.mem_append,
    List.not_mem_nil, false_or] at hx
  grind

theorem before_subset : beforeFlash planning entering validating ⊆ record := by
  intro x hx
  simp [h.record_eq, hx]

theorem planning_subset : planning ⊆ record :=
  List.Subset.trans planning_subset_beforeFlash h.before_subset

theorem entering_subset : entering ⊆ record := by
  intro x hx
  simp [h.record_eq, beforeFlash, hx]

/-- The bootloader is given an image once. -/
theorem flash_once : timesAsked Question.isFlash record = 1 := by
  have hafter := timesAsked_eq_zero fun x hx => (h.aftermath x hx).inert.1
  simp [h.record_eq, h.admitted.flash_eq_zero, hafter, Question.isFlash]

theorem written_mem : ⟨.bootloader role (.update image), answer⟩ ∈ record := by
  simp [h.record_eq]

theorem eq_of_mem {role' : BootloaderRole} {image' : Bytes}
    {answer' : Progress × Except DeviceError Unit}
    (hmem : ⟨.bootloader role' (.update image'), answer'⟩ ∈ record) :
    role' = role ∧ image' = image ∧ answer' = answer := by
  cases eq_of_timesAsked_le_one h.flash_once.le hmem h.written_mem rfl rfl
  exact ⟨rfl, rfl, rfl⟩

theorem eq_of_asked {role' : BootloaderRole} {image' : Bytes}
    (hasked : Asked record (.bootloader role' (.update image'))) :
    role' = role ∧ image' = image := by
  obtain ⟨answer', hmem⟩ := asked_iff.1 hasked
  obtain ⟨hrole, himage, -⟩ := h.eq_of_mem hmem
  exact ⟨hrole, himage⟩

theorem supply_once : timesAsked Question.isSupply record ≤ 1 := by
  have hafter := timesAsked_eq_zero fun x hx => (h.aftermath x hx).inert.2.2.2
  simpa [h.record_eq, hafter, Question.isSupply] using h.admitted.supply_le_one

/-- Notes on migrations are shown once, and before the image is written. -/
theorem notes_once : timesAsked Question.isNotes record = 1 := by
  have hafter := timesAsked_eq_zero (f := Question.isNotes) fun x hx => by
    have hquiet := (h.aftermath x hx).inert.2.2.1
    cases hq : x.1 with
    | confirm c => simp [hq, Question.isConfirm] at hquiet
    | _ => rfl
  simp [h.record_eq, h.admitted.notes_eq_one, hafter, Question.isNotes]

/-- The version and the status that the device reported are those the plan was made with. -/
theorem learnt : (∀ v, ReportedVersion record v → p.current = some v) ∧
    ∀ st, ReportedStatus record st → p.status = some st := by
  -- The transition sends the device nothing but the command, and later steps talk to others.
  have hplace : ∀ {call answer}, call = Admin.versionCall ∨ call = Admin.statusCall →
      ⟨.device .initial call, answer⟩ ∈ record → ⟨.device .initial call, answer⟩ ∈ planning := by
    intro call answer hcall hmem
    rcases h.mem_cases hmem with ⟨n, hn, -⟩ | hx | hx | hx | hx | hx
    · cases hn
    · exact hx
    · have hfits := (WithinStep.enterBootloader settings target).asks h.admitted.enter _ hx
      rcases hfits.initial with ⟨hstep, -⟩ | ⟨-, hother⟩
      · cases hstep
      · rcases hcall with rfl | rfl
        · exact absurd hother (by decide)
        · exact absurd hother (by decide)
    · cases ((WithinStep.validateImage primitives settings target.model variant p).asks
        h.admitted.validate _ hx).inert.2.1
    · cases hx
    · cases (h.aftermath _ hx).not_initial
  obtain ⟨hversion, hstatus⟩ := learnt_of_plan h.admitted.plan
  constructor
  · rintro v ⟨answer, hmem, hv⟩
    exact hversion v ⟨answer, hplace (.inl rfl) hmem, hv⟩
  · rintro st ⟨answer, hmem, hst⟩
    exact hstatus st ⟨answer, hplace (.inr rfl) hmem, hst⟩

/-- The image was written to the bootloader that the transition led to. -/
theorem met : Met target record role variant ∧ ∀ v, Met target record role v → v = variant := by
  obtain ⟨hmet, hunique⟩ := met_of_enterBootloader settings h.admitted.enter
  refine ⟨hmet.mono h.entering_subset, ?_⟩
  intro v hv
  refine hunique v ?_
  cases role with
  | given => exact hv
  | attempt number =>
      -- Bootloaders are waited for in the transition only.
      rcases h.mem_cases hv with ⟨n, hn, -⟩ | hx | hx | hx | hx | hx
      · cases hn
      · cases ((WithinStep.plan primitives settings target source).asks h.admitted.plan _
          hx).eq_of_await
      · exact hx
      · cases (WithinStep.validateImage primitives settings target.model variant p).asks
          h.admitted.validate _ hx
      · cases hx
      · cases (h.aftermath _ hx).not_await

theorem reported : Reported target record p.current p.status := by
  obtain ⟨surveyed, prepared, looked, required, noted, hrecord, hplan⟩ :=
    course_plan_ok primitives settings h.admitted.plan
  refine (reported_of_survey settings hplan.survey).mono fun x hx => h.planning_subset ?_
  simp [hrecord, hx]

theorem prepared : Prepared primitives target.model p.current source record p.container := by
  obtain ⟨surveyed, prepared, looked, required, noted, hrecord, hplan⟩ :=
    course_plan_ok primitives settings h.admitted.plan
  refine (prepared_of_prepare primitives settings hplan.prepare).mono fun x hx =>
    h.planning_subset ?_
  simp [hrecord, hx]

/-- There is one place where the image is written. -/
theorem split {before rest : Record} {x : Exchange Question.Answer}
    (hsplit : record = before ++ x :: rest) (hx : x.1.isFlash) :
    before = beforeFlash planning entering validating ∧
      x = ⟨.bootloader role (.update image), answer⟩ ∧ rest = after := by
  have hbefore : x ∉ beforeFlash planning entering validating := fun hmem =>
    List.countP_eq_zero.1 h.admitted.flash_eq_zero x hmem hx
  have hafter : x ∉ after := fun hmem => by
    simp [(h.aftermath x hmem).inert.1] at hx
  rw [h.record_eq] at hsplit
  rcases append_eq_split hsplit with ⟨tail, hfirst, -⟩ | ⟨tail, rfl, htail⟩
  · exact absurd (by simp [hfirst]) hbefore
  · cases tail with
    | nil =>
        obtain ⟨rfl, rfl⟩ := List.cons_eq_cons.1 htail
        exact ⟨by simp, rfl, rfl⟩
    | cons y tail =>
        obtain ⟨rfl, rfl⟩ := List.cons_eq_cons.1 htail
        exact absurd (by simp) hafter

/-- The migrations that the update goes by: those of the variant that was known beforehand, and only
if none was, those of the bootloader's variant.  Nothing is said about others. -/
theorem noted :
    migrations = Migrations.of target.model ((knownVariant? target p.status).getD variant) p.current
        p.container.version ∧
      ∃ part, part ⊆ beforeFlash planning entering validating ∧
        (∀ x ∈ record, x.1.IsMigrationTalk → x ∈ part) ∧
        Noted settings.config migrations p.status part := by
  have hchecked := course_validateImage_ok primitives settings h.admitted.validate
  obtain ⟨noted, hsub, honly, hcases⟩ := migrations_of_plan h.admitted.plan
  -- Migrations are talked about in the version check or in the validation, and not elsewhere.
  have hplace : ∀ x ∈ record, x.1.IsMigrationTalk → x ∈ noted ∨ x ∈ validating := by
    intro x hx hm
    rcases h.mem_cases hx with ⟨n, rfl, hn⟩ | hx | hx | hx | rfl | hx
    · cases hm
      exact absurd rfl (hn _)
    · exact .inl (honly x hx hm)
    · have hfits := (WithinStep.enterBootloader settings target).asks h.admitted.enter x hx
      rcases hfits.eq_of_migration hm with hstep | hstep
      · cases hstep
      · cases hstep
    · exact .inr hx
    · cases hm
    · exact absurd hm (h.aftermath x hx).not_migration
  rcases hcases with ⟨hunknown, hnone, rfl⟩ | ⟨v, hknown, hsome, hnoted⟩
  · obtain ⟨hof, hnoted⟩ := hchecked.unknown hnone
    refine ⟨by simp [hunknown, hof], validating, ?_, ?_, hnoted⟩
    · intro x hx
      simp [beforeFlash, hx]
    · intro x hx hm
      simpa using hplace x hx hm
  · obtain ⟨rfl, rfl⟩ := hchecked.known _ hsome
    refine ⟨by simp [hknown], noted, ?_, ?_, hnoted⟩
    · exact List.Subset.trans hsub planning_subset_beforeFlash
    · intro x hx hm
      simpa using hplace x hx hm

theorem warned {w : Warning} (hw : Raised settings target p.current p.status p.container w) :
    settings.config.ignores w ∧ told (.warning w) ∈ beforeFlash planning entering validating := by
  -- The warning about the file system comes with the notes, which may be after the version check.
  by_cases hlate : w = .fileSystemV2 ∧ p.migrations = none
  · obtain ⟨rfl, hnone⟩ := hlate
    have hchecked := course_validateImage_ok primitives settings h.admitted.validate
    obtain ⟨rfl, hnoted⟩ := hchecked.unknown hnone
    cases hw with
    | @fileSystemV2 v hneeded hlacks =>
        rw [fileSystemV2_of target.model v variant] at hneeded
        obtain ⟨hignored, hmem⟩ := hnoted.heard hneeded hlacks
        exact ⟨hignored, by simp [beforeFlash, hmem]⟩
  · obtain ⟨hignored, hmem⟩ := warned_of_plan h.admitted.plan hw fun hv2 hnone => hlate ⟨hv2, hnone⟩
    exact ⟨hignored, planning_subset_beforeFlash hmem⟩

/-- The source is asked for bytes only once. -/
theorem supplied_unique {data other : Bytes} (hdata : Supplied source record data)
    (hother : Supplied source record other) : other = data := by
  cases source with
  | bytes given =>
      exact hother.trans hdata.symm
  | file path =>
      cases eq_of_timesAsked_le_one h.supply_once hdata hother rfl rfl
      rfl
  | release tag =>
      obtain ⟨asset, progress, hdata⟩ := hdata
      obtain ⟨asset', progress', hother⟩ := hother
      cases eq_of_timesAsked_le_one h.supply_once hdata hother rfl rfl
      rfl

end

end Written

end Update
end Reflash
