import Reflash.Proofs.Update.Preparation

/-!
# Update.Planning — courses of the version check

The second half of the version check, and the whole of it:

* `WithinStep.plan` — the version check keeps to its step;
* `course_plan_ok` — a plan is made of a survey, a container, a look at the status, the container's
  requirements, the operator's consent, and notes on migrations, in this order.
-/

namespace Reflash
namespace Update

open Dialogue

variable (primitives : Primitives) (settings : UpdateSettings) {config : UpdateConfig}
  {step : UpdateStep} {record : Record}

/-! ## Status and requirements -/

theorem WithinStep.checkStatus (model : Model) (status : Option Status) (new : Version) :
    WithinStep Question.IsTalk .versionCheck (checkStatus settings model status new) := by
  rw [Update.checkStatus]
  split
  · exact .raise (.warning _ (by decide)) (.inl rfl)
  · exact .pure ()

theorem course_checkStatus_ok {model : Model} {status : Option Status} {new : Version}
    (h : Course (checkStatus settings model status new).run record (.ok ()))
    (hmissing : status.any (·.init.isNone)) (hmodel : model = .nk3)
    (hnew : lastWithoutStatus < new) :
    settings.config.ignores .missingStatus ∧ record = [told (.warning .missingStatus)] := by
  rw [checkStatus, if_pos ⟨hmissing, hmodel, hnew⟩] at h
  exact course_raise_ok.1 h

theorem WithinStep.checkRequirements (container : Container) :
    WithinStep Question.IsTalk .versionCheck (checkRequirements container config) := by
  rw [Update.checkRequirements]
  split
  · split
    · exact .raise (.warning _ (by decide)) (.inl rfl)
    · exact .pure ()
  · split
    · split
      · exact .confirm (.confirm _ rfl)
      · exact .throw rfl
    · exact .pure ()
  · exact .pure ()

theorem requirementsMet_of_checkRequirements {container : Container}
    (h : Course (checkRequirements container config).run record (.ok ())) :
    RequirementsMet config container record := by
  constructor
  · intro sdk hsdk hlater
    simp only [checkRequirements, hsdk, if_pos hlater] at h
    obtain ⟨hignored, rfl⟩ := course_raise_ok.1 h
    exact ⟨hignored, by simp⟩
  · intro required hsdk hclient hlater
    simp only [checkRequirements, hsdk, hclient, if_pos hlater] at h
    split at h
    next hignored =>
      have hconfirm : record = [accepted _] := course_confirm.1 h
      exact ⟨hignored, by simp [hconfirm]⟩
    next =>
      cases (course_throw.1 h).2

/-! ## Migrations -/

theorem WithinStep.checkMigrations (model : Model) (variant : Variant) (current : Option Version)
    (new : Version) (status : Option Status) (hstep : MayWarn step) :
    WithinStep Question.IsMigrationTalk step
      (checkMigrations config model variant current new status) := by
  refine .seq (.confirm (.notes _)) fun _ => ?_
  dsimp only
  split
  · exact .seq (.raise .warning hstep) fun _ => .pure _
  · exact .pure _

theorem noted_of_checkMigrations {model : Model} {variant : Variant} {current : Option Version}
    {new : Version} {status : Option Status} {migrations : Migrations}
    (h : Course (checkMigrations config model variant current new status).run record
      (.ok migrations)) :
    migrations = Migrations.of model variant current new ∧
      Noted config migrations status record := by
  obtain ⟨_, _, _, rfl, hnotes, hrest⟩ := course_seq_ok.1 h
  obtain rfl := course_confirm.1 hnotes
  split at hrest
  next hcond =>
    obtain ⟨_, _, _, rfl, hraise, hdone⟩ := course_seq_ok.1 hrest
    obtain ⟨hignored, rfl⟩ := course_raise_ok.1 hraise
    obtain ⟨rfl, hm⟩ := course_pure.1 hdone
    cases hm
    exact ⟨rfl, by simp [hcond, accepted], fun _ _ => hignored⟩
  next hcond =>
    obtain ⟨rfl, hm⟩ := course_pure.1 hrest
    cases hm
    exact ⟨rfl, by simp [hcond, accepted], fun hv2 hspace => absurd ⟨hv2, hspace⟩ hcond⟩

/-- The only failure is a device that names the simulated platform. -/
theorem WithinStep.knownVariant {p : Question → Prop} (target : UpdateTarget)
    (status : Option Status) :
    WithinStep p .versionCheck (knownVariant target status) := by
  unfold Update.knownVariant
  cases status.bind (·.platform) with
  | some platform =>
      cases hv : Variant.ofPlatform platform with
      | ok variant => simpa [hv] using .pure _
      | error e => simpa [hv] using .throw rfl
  | none =>
      cases target with
      | device model => exact .pure _
      | bootloader model variant => exact .pure _

theorem course_knownVariant_ok {target : UpdateTarget} {status : Option Status}
    {variant : Option Variant}
    (h : Course (knownVariant target status).run record (.ok variant)) :
    record = [] ∧ variant = knownVariant? target status := by
  unfold knownVariant at h
  unfold knownVariant?
  cases hplatform : status.bind (·.platform) with
  | some platform =>
      cases hv : Variant.ofPlatform platform with
      | ok v => simpa [hplatform, hv, Except.toOption] using h
      | error e => simp [hplatform, hv] at h
  | none =>
      cases target with
      | device model => simpa [hplatform] using h
      | bootloader model v => simpa [hplatform] using h

/-! ## The plan -/

theorem WithinStep.plan (target : UpdateTarget) (source : UpdateSource) :
    WithinStep (Question.Fits .versionCheck) .versionCheck
      (plan primitives settings target source) := by
  have talk : ∀ q, Question.IsTalk q → q.Fits .versionCheck := fun _ h => .inquiry (.talk h)
  refine .seq (.survey settings target) ?_
  rintro ⟨current, status⟩
  refine .seq (.mono (.prepare primitives settings _ current source) fun _ => .inquiry)
    fun container => .seq (.mono (.checkStatus settings _ status _) talk) fun _ =>
      .seq (.mono (.checkRequirements container) talk) fun _ =>
        .seq (.confirm (talk _ (.confirm _ rfl))) fun _ =>
          .seq (.knownVariant target status) fun variant => ?_
  cases variant with
  | none =>
      exact .seq (.pure _) fun _ => .pure _
  | some v =>
      refine .seq (.map (.mono ?_ fun _ => .migration)) fun _ => .pure _
      exact .checkMigrations _ v current _ status (.inl rfl)

/-- The parts that the record of a successful version check consists of, around the operator's
consent. -/
structure Planned (target : UpdateTarget) (source : UpdateSource) (p : Plan)
    (surveyed prepared looked required noted : Record) : Prop where
  survey : Course (survey settings target).run surveyed (.ok (p.current, p.status))
  prepare : Course (prepare primitives settings target.model p.current source).run prepared
    (.ok p.container)
  status : Course (checkStatus settings target.model p.status p.container.version).run looked
    (.ok ())
  requirements : Course (checkRequirements p.container settings.config).run required (.ok ())
  migrations : (knownVariant? target p.status = none ∧ p.migrations = none ∧ noted = []) ∨
    ∃ variant migrations, knownVariant? target p.status = some variant ∧
      p.migrations = some migrations ∧
      migrations = Migrations.of target.model variant p.current p.container.version ∧
      Noted settings.config migrations p.status noted

theorem course_plan_ok {target : UpdateTarget} {source : UpdateSource} {p : Plan}
    (h : Course (plan primitives settings target source).run record (.ok p)) :
    ∃ surveyed prepared looked required noted,
      record = surveyed ++ (prepared ++ (looked ++ (required ++
        accepted (.update p.current p.container.version) :: noted))) ∧
      Planned primitives settings target source p surveyed prepared looked required noted := by
  obtain ⟨surveyed, ⟨current, status⟩, _, rfl, hsurvey, h₁⟩ := course_seq_ok.1 h
  obtain ⟨prepared, container, _, rfl, hprepare, h₂⟩ := course_seq_ok.1 h₁
  obtain ⟨looked, _, _, rfl, hstatus, h₃⟩ := course_seq_ok.1 h₂
  obtain ⟨required, _, _, rfl, hrequired, h₄⟩ := course_seq_ok.1 h₃
  obtain ⟨_, _, _, rfl, hconfirm, h₅⟩ := course_seq_ok.1 h₄
  obtain ⟨_, variant, noted, rfl, hvariant, h₆⟩ := course_seq_ok.1 h₅
  obtain rfl := course_confirm.1 hconfirm
  obtain ⟨rfl, hknown⟩ := course_knownVariant_ok hvariant
  -- Without a known variant the migrations are left to the validation of the image.
  cases variant with
  | none =>
      obtain ⟨_, m, _, rfl, hm, hp⟩ := course_seq_ok.1 h₆
      obtain ⟨rfl, hnone⟩ := course_pure.1 hm
      obtain ⟨rfl, hplan⟩ := course_pure.1 hp
      cases hnone
      cases hplan
      exact ⟨surveyed, prepared, looked, required, [], rfl, hsurvey, hprepare, hstatus, hrequired,
        .inl ⟨hknown.symm, rfl, rfl⟩⟩
  | some v =>
      obtain ⟨notes, m, _, rfl, hm, hp⟩ := course_seq_ok.1 h₆
      obtain ⟨x, hchecked, hx⟩ := course_mapped.1 hm
      obtain ⟨migrations, rfl, rfl⟩ := map_eq_ok.1 hx.symm
      obtain ⟨rfl, hplan⟩ := course_pure.1 hp
      cases hplan
      obtain ⟨hof, hnoted⟩ := noted_of_checkMigrations hchecked
      exact ⟨surveyed, prepared, looked, required, _, rfl, hsurvey, hprepare, hstatus, hrequired,
        .inr ⟨v, migrations, hknown.symm, rfl, hof, by simpa using hnoted⟩⟩

/-! ## What a plan rests on -/

section

variable {primitives : Primitives} {settings : UpdateSettings} {target : UpdateTarget}
  {source : UpdateSource} {p : Plan}

theorem Noted.asks {migrations : Migrations} {status : Option Status}
    (h : Noted config migrations status record) : ∀ x ∈ record, x.1.IsMigrationTalk := by
  intro x hx
  rw [h.shown] at hx
  rcases List.mem_cons.1 hx with rfl | hx
  · exact .notes _
  · split at hx
    · obtain rfl := List.mem_singleton.1 hx
      exact .warning
    · cases hx

/-- Before consent the device is asked for its version and its status, and after that no more. -/
theorem Planned.silent {surveyed prepared looked required noted : Record}
    (h : Planned primitives settings target source p surveyed prepared looked required noted) :
    ∀ x ∈ prepared ++ (looked ++ (required ++
      accepted (.update p.current p.container.version) :: noted)), x.1.isDevice = false := by
  intro x hx
  simp only [List.mem_append, List.mem_cons] at hx
  rcases hx with hx | hx | hx | rfl | hx
  · exact ((WithinStep.prepare primitives settings _ _ _).asks h.prepare x hx).inert.2.1
  · exact ((WithinStep.checkStatus settings _ _ _).asks h.status x hx).inert.2.1
  · exact ((WithinStep.checkRequirements _).asks h.requirements x hx).inert.2.1
  · rfl
  · rcases h.migrations with ⟨-, -, rfl⟩ | ⟨variant, migrations, -, -, -, hnoted⟩
    · cases hx
    · exact (hnoted.asks x hx).inert.2.1

theorem consented_of_plan (h : Course (plan primitives settings target source).run record (.ok p)) :
    Consented primitives settings target source p.current p.status p.container record := by
  obtain ⟨surveyed, prepared, looked, required, noted, rfl, hplan⟩ :=
    course_plan_ok primitives settings h
  have hprepared := prepared_of_prepare primitives settings hplan.prepare
  refine ⟨surveyed ++ prepared, looked ++ required, noted, by simp, ?_, ?_, ?_⟩
  · exact (reported_of_survey settings hplan.survey).mono (by simp)
  · exact hprepared.mono (by simp)
  · exact (requirementsMet_of_checkRequirements hplan.requirements).mono (by simp)

/-- What the device reported is what the plan goes by. -/
theorem learnt_of_plan (h : Course (plan primitives settings target source).run record (.ok p)) :
    (∀ v, ReportedVersion record v → p.current = some v) ∧
      ∀ st, ReportedStatus record st → p.status = some st := by
  obtain ⟨surveyed, prepared, looked, required, noted, rfl, hplan⟩ :=
    course_plan_ok primitives settings h
  -- Whatever the device is asked, it is asked in the survey.
  have hfirst : ∀ call answer, ⟨.device .initial call, answer⟩ ∈ surveyed ++ (prepared ++ (looked ++
      (required ++ accepted (.update p.current p.container.version) :: noted))) →
        ⟨.device .initial call, answer⟩ ∈ surveyed := by
    intro call answer hmem
    rcases List.mem_append.1 hmem with hmem | hmem
    · exact hmem
    · cases hplan.silent _ hmem
  cases target with
  | device model =>
      obtain ⟨a₁, a₂, v, st, rfl, hv, hst, hcurrent, hstatus⟩ :=
        (course_survey_device settings).1 hplan.survey
      have hne : Admin.versionCall ≠ Admin.statusCall := by decide
      constructor
      · rintro v' ⟨answer, hmem, hv'⟩
        have hmem := hfirst _ _ hmem
        simp only [List.mem_cons, List.not_mem_nil, or_false] at hmem
        rcases hmem with hmem | hmem
        · cases hmem
          rw [hv] at hv'
          cases hv'
          exact hcurrent
        · cases hmem
      · rintro st' ⟨answer, hmem, hst'⟩
        have hmem := hfirst _ _ hmem
        simp only [List.mem_cons, List.not_mem_nil, or_false] at hmem
        rcases hmem with hmem | hmem
        · cases hmem
        · cases hmem
          rw [hst] at hst'
          cases hst'
          exact hstatus
  | bootloader model variant =>
      obtain ⟨-, rfl, -, -⟩ := (course_survey_bootloader settings).1 hplan.survey
      constructor
      · rintro v ⟨answer, hmem, -⟩
        cases List.mem_singleton.1 (hfirst _ _ hmem)
      · rintro st ⟨answer, hmem, -⟩
        cases List.mem_singleton.1 (hfirst _ _ hmem)

theorem Planned.quiet_surveyed {surveyed prepared looked required noted : Record}
    (h : Planned primitives settings target source p surveyed prepared looked required noted) :
    ∀ x ∈ surveyed, x.1.isNotes = false ∧ x.1.isSupply = false := by
  cases target with
  | device model =>
      obtain ⟨a₁, a₂, v, st, rfl, -⟩ := (course_survey_device settings).1 h.survey
      simp [Question.isNotes, Question.isSupply]
  | bootloader model variant =>
      obtain ⟨-, rfl, -⟩ := (course_survey_bootloader settings).1 h.survey
      simp [told, Question.isNotes, Question.isSupply]

/-- Where there is no room, the operator was warned. -/
theorem Noted.heard {migrations : Migrations} {status : Option Status}
    (h : Noted config migrations status record) (hneeded : migrations.fileSystemV2)
    (hlacks : lacksSpace status) :
    config.ignores .fileSystemV2 ∧ told (.warning .fileSystemV2) ∈ record := by
  refine ⟨h.room hneeded hlacks, ?_⟩
  rw [h.shown, if_pos ⟨hneeded, hlacks⟩]
  exact List.mem_cons_of_mem _ (List.mem_singleton.2 rfl)

theorem Noted.once {migrations : Migrations} {status : Option Status}
    (h : Noted config migrations status record) :
    timesAsked Question.isNotes record = 1 ∧ timesAsked Question.isSupply record = 0 := by
  refine ⟨?_, timesAsked_eq_zero fun x hx => (h.asks x hx).inert.2.2⟩
  rw [h.shown]
  split
  · rfl
  · rfl

/-- Notes are shown if the variant is known, and a container is asked for at most once. -/
theorem counts_of_plan (h : Course (plan primitives settings target source).run record (.ok p)) :
    timesAsked Question.isNotes record = (if p.migrations.isSome then 1 else 0) ∧
      timesAsked Question.isSupply record ≤ 1 := by
  obtain ⟨surveyed, prepared, looked, required, noted, rfl, hplan⟩ :=
    course_plan_ok primitives settings h
  -- Only the last part shows notes, and only the preparation asks for bytes.
  have hsurveyed : timesAsked Question.isNotes surveyed = 0 ∧
      timesAsked Question.isSupply surveyed = 0 :=
    ⟨timesAsked_eq_zero fun x hx => (hplan.quiet_surveyed x hx).1,
      timesAsked_eq_zero fun x hx => (hplan.quiet_surveyed x hx).2⟩
  have hprepared := (WithinStep.prepare primitives settings target.model p.current
    source).timesAsked_eq_zero hplan.prepare fun q hq => hq.inert.2.2
  have hsupplies := supplies_of_prepare primitives settings hplan.prepare
  have htalk : ∀ q, Question.IsTalk q → q.isNotes = false ∧ q.isSupply = false := fun q hq =>
    hq.inert.2.2
  have hlooked := WithinStep.checkStatus settings target.model p.status p.container.version
  have hrequired : WithinStep Question.IsTalk .versionCheck
      (checkRequirements p.container settings.config) := .checkRequirements p.container
  have hnoted : timesAsked Question.isNotes noted = (if p.migrations.isSome then 1 else 0) ∧
      timesAsked Question.isSupply noted = 0 := by
    rcases hplan.migrations with ⟨-, hnone, rfl⟩ | ⟨variant, migrations, -, hsome, -, hnoted⟩
    · simp [hnone]
    · simpa [hsome] using hnoted.once
  simp [hsurveyed, hprepared, hnoted, hsupplies, accepted, Question.isNotes, Question.isSupply,
    hlooked.timesAsked_eq_zero hplan.status fun q hq => (htalk q hq).1,
    hlooked.timesAsked_eq_zero hplan.status fun q hq => (htalk q hq).2,
    hrequired.timesAsked_eq_zero hplan.requirements fun q hq => (htalk q hq).1,
    hrequired.timesAsked_eq_zero hplan.requirements fun q hq => (htalk q hq).2]

/-- The second migration does not depend on the variant. -/
theorem fileSystemV2_of (model : Model) (v v' : Variant) (current : Option Version)
    (new : Version) :
    (Migrations.of model v current new).fileSystemV2 =
      (Migrations.of model v' current new).fileSystemV2 := by
  unfold Migrations.of
  split <;> rfl

/-- The operator saw every warning that there was a reason for, and had them ignored beforehand.
The one about migrations comes with the notes. -/
theorem warned_of_plan (h : Course (plan primitives settings target source).run record (.ok p))
    {w : Warning} (hw : Raised settings target p.current p.status p.container w)
    (hnoted : w = .fileSystemV2 → p.migrations ≠ none) :
    settings.config.ignores w ∧ told (.warning w) ∈ record := by
  obtain ⟨surveyed, prepared, looked, required, noted, rfl, hplan⟩ :=
    course_plan_ok primitives settings h
  cases hw with
  | fromBootloader htarget =>
      subst htarget
      obtain ⟨hignored, rfl, -, -⟩ := (course_survey_bootloader settings).1 hplan.survey
      exact ⟨hignored, by simp⟩
  | missingStatus hstatus hmodel hnew =>
      obtain ⟨hignored, rfl⟩ := course_checkStatus_ok settings hplan.status hstatus hmodel hnew
      exact ⟨hignored, by simp⟩
  | sdkVersion hsdk hlater =>
      obtain ⟨hignored, hmem⟩ :=
        (requirementsMet_of_checkRequirements hplan.requirements).library _ hsdk hlater
      exact ⟨hignored, by simp [hmem]⟩
  | @fileSystemV2 v hneeded hlacks =>
      rcases hplan.migrations with ⟨-, hnone, -⟩ | ⟨variant, m, -, -, rfl, hshown⟩
      · exact absurd hnone (hnoted rfl)
      · rw [fileSystemV2_of target.model v variant] at hneeded
        obtain ⟨hignored, hmem⟩ := hshown.heard hneeded hlacks
        exact ⟨hignored, by simp [hmem]⟩

/-- Nothing before the notes is about migrations. -/
theorem Planned.mem_noted {surveyed prepared looked required noted : Record}
    (h : Planned primitives settings target source p surveyed prepared looked required noted)
    {x : Exchange Question.Answer} (hmigration : x.1.IsMigrationTalk)
    (hx : x ∈ surveyed ++ (prepared ++ (looked ++ (required ++
      accepted (.update p.current p.container.version) :: noted)))) : x ∈ noted := by
  simp only [List.mem_append, List.mem_cons] at hx
  rcases hx with hx | hx | hx | hx | rfl | hx
  · cases target with
    | device model =>
        obtain ⟨a₁, a₂, v, st, rfl, -⟩ := (course_survey_device settings).1 h.survey
        simp only [List.mem_cons, List.not_mem_nil, or_false] at hx
        rcases hx with rfl | rfl
        · cases hmigration
        · cases hmigration
    | bootloader model variant =>
        obtain ⟨-, rfl, -⟩ := (course_survey_bootloader settings).1 h.survey
        obtain rfl := List.mem_singleton.1 hx
        cases hmigration
  · have hinquiry := (WithinStep.prepare primitives settings _ _ _).asks h.prepare x hx
    exact absurd hmigration hinquiry.not_migration
  · have htalk := (WithinStep.checkStatus settings _ _ _).asks h.status x hx
    exact absurd hmigration htalk.not_migration
  · have htalk := (WithinStep.checkRequirements _).asks h.requirements x hx
    exact absurd hmigration htalk.not_migration
  · cases hmigration
  · exact hx

/-- Migrations that are known beforehand are those of the known variant, and then all that is said
about migrations is about these. -/
theorem migrations_of_plan
    (h : Course (plan primitives settings target source).run record (.ok p)) :
    ∃ noted, noted ⊆ record ∧ (∀ x ∈ record, x.1.IsMigrationTalk → x ∈ noted) ∧
      ((knownVariant? target p.status = none ∧ p.migrations = none ∧ noted = []) ∨
        ∃ variant, knownVariant? target p.status = some variant ∧
          p.migrations = some (Migrations.of target.model variant p.current p.container.version) ∧
          Noted settings.config (Migrations.of target.model variant p.current p.container.version)
            p.status noted) := by
  obtain ⟨surveyed, prepared, looked, required, noted, rfl, hplan⟩ :=
    course_plan_ok primitives settings h
  refine ⟨noted, fun x hx => by simp [hx], fun x hx hm => hplan.mem_noted hm hx, ?_⟩
  rcases hplan.migrations with hunknown | ⟨variant, m, hknown, hsome, rfl, hnoted⟩
  · exact .inl hunknown
  · exact .inr ⟨variant, hknown, hsome, hnoted⟩

end

end Update
end Reflash
