import Reflash.Proofs.Update.Acts

/-!
# Update.Warnings — which warnings are shown and which stop an update

* `Obeys` — a part of an update goes by the warnings that are to be ignored, with the rules that
  pass this from the pieces of a part to the part;
* `Obeys.plan`, `Obeys.validateImage` — the parts that raise warnings, put together from their
  pieces;
* `RunCourse.showsIgnored` — only ignored warnings are shown;
* `RunCourse.stopped_by_warning` — only other ones stop an update.
-/

namespace Reflash
namespace Update

open Dialogue

/-! ## Warnings that are shown, and warnings that stop -/

def Question.isWarning : Question → Bool
  | .tell (.warning _) => true
  | _ => false

theorem Question.isWarning_of_isBar {q : Question} {bar : Bar} (h : q.isBar bar) :
    q.isWarning = false := by
  cases q with
  | tell n =>
      cases n with
      | warning w => cases h
      | _ => rfl
  | _ => rfl

/-- Only warnings that are to be ignored are shown. -/
def ShowsIgnored (config : UpdateConfig) (record : Record) : Prop :=
  ∀ w, told (.warning w) ∈ record → config.ignores w

section

variable {config : UpdateConfig} {first rest : Record} {x : Exchange Question.Answer}

@[simp] theorem showsIgnored_nil : ShowsIgnored config [] := by
  intro w hmem
  cases hmem

@[simp] theorem showsIgnored_append :
    ShowsIgnored config (first ++ rest) ↔ ShowsIgnored config first ∧ ShowsIgnored config rest := by
  simp only [ShowsIgnored, List.mem_append, or_imp, forall_and]

theorem showsIgnored_cons (hx : x.1.isWarning = false) :
    ShowsIgnored config (x :: rest) ↔ ShowsIgnored config rest := by
  have hother : ∀ w, told (.warning w) ≠ x := by
    rintro w rfl
    cases hx
  simp only [ShowsIgnored, List.mem_cons, hother, false_or]

@[simp] theorem showsIgnored_enter {step : UpdateStep} :
    ShowsIgnored config (told (.enter step) :: rest) ↔ ShowsIgnored config rest :=
  showsIgnored_cons rfl

@[simp] theorem showsIgnored_close {role : BootloaderRole} {answer : Except DeviceError Unit} :
    ShowsIgnored config (⟨.bootloader role .close, answer⟩ :: rest) ↔ ShowsIgnored config rest :=
  showsIgnored_cons rfl

theorem showsIgnored_of_quiet (h : ∀ x ∈ rest, x.1.isWarning = false) :
    ShowsIgnored config rest := by
  intro w hmem
  cases h _ hmem

end

/-- A part of an update shows a warning only if it is ignored, and fails with one only if it is not,
unless the operator's refusal said so. -/
structure Obeys {α : Type} (config : UpdateConfig) (m : StepM α) : Prop where
  shows : ∀ {record result}, Course m.run record result → ShowsIgnored config record
  stops : ∀ {record w}, Course m.run record (.error (.warning w)) →
    ¬ config.ignores w ∨ ∃ c, refused c (.warning w) ∈ record

namespace Obeys

variable {α β : Type} {config : UpdateConfig}

/-- A part that has nothing to do with warnings. -/
theorem quiet {m : StepM α}
    (hasks : ∀ {record result}, Course m.run record result → ∀ x ∈ record, x.1.isWarning = false)
    (hfails : ∀ {record e}, Course m.run record (.error e) → e.step?.isSome) : Obeys config m where
  shows := fun h => showsIgnored_of_quiet (hasks h)
  stops := by
    intro record w h
    cases hfails h

theorem ofExcept {x : Except UpdateError α} (hx : ∀ e, x = .error e → e.step?.isSome) :
    Obeys config (ExceptT.mk (Pure.pure x) : StepM α) := by
  refine quiet ?_ ?_
  · rintro record result h
    obtain ⟨rfl, -⟩ := course_mk_pure.1 h
    simp
  · rintro record e h
    exact hx e (course_mk_pure.1 h).2.symm

theorem pure (a : α) : Obeys config (Pure.pure a : StepM α) :=
  ofExcept (x := .ok a) (by rintro e ⟨⟩)

theorem throw {e : UpdateError} (he : e.step?.isSome) : Obeys config (throw e : StepM α) :=
  ofExcept (x := .error e) (by rintro _ ⟨⟩; exact he)

theorem ofMapError {ε : Type} {x : Except ε α} {wrap : ε → UpdateError}
    (hwrap : ∀ e, (wrap e).step?.isSome) :
    Obeys config (ExceptT.mk (Pure.pure (x.mapError wrap)) : StepM α) := by
  refine ofExcept ?_
  intro e he
  obtain ⟨cause, -, rfl⟩ := mapError_eq_error.1 he
  exact hwrap cause

theorem asking {q : Question} {f : q.Answer → Except UpdateError α} (hq : q.isWarning = false)
    (hf : ∀ answer e, f answer = .error e → e.step?.isSome) :
    Obeys config (ExceptT.mk (f <$> query q) : StepM α) := by
  refine quiet ?_ ?_
  · rintro record result h
    obtain ⟨answer, hanswer, -⟩ := course_map.1 h
    obtain rfl := course_query.1 hanswer
    simpa using hq
  · rintro record e h
    obtain ⟨answer, -, he⟩ := course_map.1 h
    exact hf answer e he.symm

/-- A question whose failures are wrapped. -/
theorem wrapped {ε : Type} {q : Question} {f : q.Answer → Except ε α} {g : ε → UpdateError}
    (hq : q.isWarning = false) (hg : ∀ e, (g e).step?.isSome) :
    Obeys config (ExceptT.mk ((fun answer => (f answer).mapError g) <$> query q) : StepM α) := by
  refine asking hq ?_
  intro answer e he
  obtain ⟨cause, -, rfl⟩ := mapError_eq_error.1 he
  exact hg cause

theorem ask {q : Question} (hq : q.isWarning = false) : Obeys config (ask q) :=
  asking (f := .ok) hq (by rintro answer e ⟨⟩)

theorem confirm (c : Confirmation) : Obeys config (confirm c) where
  shows := by
    intro record result h w hmem
    obtain rfl := course_confirm.1 h
    cases List.mem_singleton.1 hmem
  stops := by
    intro record w h
    obtain rfl := course_confirm.1 h
    exact .inr ⟨c, List.mem_singleton_self _⟩

theorem raise (w : Warning) : Obeys config (raise config w) := by
  rw [Update.raise]
  -- An ignored warning is shown, and nothing is thrown; for any other one it is the other way
  -- round.
  split
  next hignored =>
    constructor
    · intro record result h w' hmem
      obtain ⟨rfl, -⟩ := course_tell.1 h
      cases List.mem_singleton.1 hmem
      exact hignored
    · intro record w' h
      cases (course_tell.1 h).2
  next hstops =>
    constructor
    · intro record result h w' hmem
      obtain ⟨rfl, -⟩ := course_throw.1 h
      cases hmem
    · intro record w' h
      cases (course_throw.1 h).2
      exact .inl hstops

theorem seq {m : StepM β} {f : β → StepM α} (hm : Obeys config m)
    (hf : ∀ b, Obeys config (f b)) : Obeys config (m >>= f) where
  shows := by
    intro record result h
    rcases course_seq.1 h with ⟨e, hfirst, -⟩ | ⟨first, b, rest, rfl, hfirst, hrest⟩
    · exact hm.shows hfirst
    · exact showsIgnored_append.2 ⟨hm.shows hfirst, (hf b).shows hrest⟩
  stops := by
    intro record w h
    rcases course_seq.1 h with ⟨e, hfirst, he⟩ | ⟨first, b, rest, rfl, hfirst, hrest⟩
    · cases he
      exact hm.stops hfirst
    · -- A refusal in what follows is one in the whole part.
      refine ((hf b).stops hrest).imp_right ?_
      rintro ⟨c, hmem⟩
      exact ⟨c, List.mem_append_right _ hmem⟩

theorem map {m : StepM β} {f : β → α} (hm : Obeys config m) : Obeys config (f <$> m) := by
  rw [← bind_pure_comp]
  exact .seq hm fun b => .pure (f b)

/-- Most steps have nothing to do with warnings. -/
theorem ofWithinStep {p : Question → Prop} {step : UpdateStep} {m : StepM α}
    (h : WithinStep p step m) (hp : ∀ q, p q → q.isWarning = false) (hstep : ¬ MayWarn step) :
    Obeys config m where
  shows := fun hcourse => showsIgnored_of_quiet fun x hx => hp x.1 (h.asks hcourse x hx)
  stops := by
    intro record w hcourse
    -- No error of a step is a warning, and the step raises none, so that a refusal is left.
    cases h.blames hcourse with
    | own hown => cases hown
    | warning w' he hmay => exact absurd hmay hstep
    | refusal c hmem => exact .inr ⟨c, hmem⟩

end Obeys

/-! ## The parts of the steps -/

section

variable (primitives : Primitives) (settings : UpdateSettings) {config : UpdateConfig}

theorem Obeys.survey (target : UpdateTarget) : Obeys settings.config (survey settings target) := by
  cases target with
  | device model =>
      refine .seq ?_ fun version => .seq ?_ fun status => .pure _
      · rw [withDevice_eq Admin.run_version]
        exact .wrapped rfl fun _ => rfl
      · rw [withDevice_eq Admin.run_status]
        exact .wrapped rfl fun _ => rfl
  | bootloader model variant => exact .seq (.raise .fromBootloader) fun _ => .pure _

theorem Obeys.parseContainer (model : Model) (tag : Option String) (data : Bytes) :
    Obeys config (parseContainer primitives model tag data) :=
  .ofMapError fun _ => rfl

theorem Obeys.checkVersion (current : Option Version) (new : Version) :
    Obeys config (checkVersion current new) := by
  refine .seq (.ofExcept ?_) ?_
  · intro e he
    obtain ⟨v, -, rfl⟩ := compareVersions_error he
    rfl
  · intro same
    cases same with
    | none => exact .pure ()
    | some v => exact .confirm _

theorem Obeys.openContainer (model : Model) (current : Option Version) (data : Bytes) :
    Obeys config (openContainer primitives model current data) :=
  .seq (.parseContainer primitives model none data) fun container =>
    .seq (.checkVersion current container.version) fun _ => .pure container

theorem Obeys.showProgress {bar : Bar} (progress : Progress) :
    Obeys config (showProgress bar progress) := by
  refine .quiet ?_ ?_
  · intro record result h x hx
    exact Question.isWarning_of_isBar ((course_showProgress h).1 x hx)
  · intro record e h
    cases (course_showProgress h).2

theorem Obeys.downloadAsset (asset : Asset) : Obeys config (downloadAsset asset) := by
  refine .seq (.ask rfl) fun _ => .seq (.ask rfl) ?_
  rintro ⟨progress, result⟩
  refine .seq (.showProgress progress) fun _ => .seq (.ask rfl) fun _ => ?_
  cases result with
  | ok data => exact .pure data
  | error e => exact .throw rfl

theorem Obeys.downloadContainer (model : Model) (release : Release) (version : Version) :
    Obeys config (downloadContainer primitives model release version) := by
  refine .seq (.ofMapError fun _ => rfl) fun asset => .seq (.downloadAsset asset) fun data =>
    .seq (.parseContainer primitives model _ data) fun container => ?_
  split
  · exact .pure container
  · exact .throw rfl

theorem Obeys.findRelease (tag : Option String) : Obeys config (findRelease tag) := by
  cases tag with
  | some tag =>
      exact .wrapped (q := .release tag) (f := id) (g := .release (.lookUp tag)) rfl fun _ => rfl
  | none =>
      exact .wrapped (q := .latestRelease) (f := id) (g := .release .lookUpLatest) rfl fun _ => rfl

theorem Obeys.prepare (model : Model) (current : Option Version) (source : UpdateSource) :
    Obeys config (prepare primitives settings model current source) := by
  cases source with
  | bytes data =>
      exact .openContainer primitives model current data
  | file path =>
      refine .seq (.ask rfl) fun answer => ?_
      cases answer with
      | ok data => exact .openContainer primitives model current data
      | error fault => exact .throw rfl
  | release tag =>
      have hrest : Obeys config (do
          let release ← Update.findRelease tag
          let version ← ExceptT.mk
            (Pure.pure (release.version.mapError (UpdateError.badTag release.tag)))
          Update.checkVersion current version
          Update.confirm (.download current version)
          Update.downloadContainer primitives model release version) :=
        .seq (.findRelease tag) fun release => .seq (.ofMapError fun _ => rfl) fun version =>
          .seq (.checkVersion current version) fun _ => .seq (.confirm _) fun _ =>
            .downloadContainer primitives model release version
      rw [Update.prepare]
      -- Without a repository nothing of this is reached.
      split
      · exact .seq (.throw rfl) fun _ => hrest
      · exact hrest

theorem Obeys.checkStatus (model : Model) (status : Option Status) (new : Version) :
    Obeys settings.config (checkStatus settings model status new) := by
  rw [Update.checkStatus]
  split
  · exact .raise .missingStatus
  · exact .pure ()

theorem Obeys.checkRequirements (container : Container) :
    Obeys config (checkRequirements container config) := by
  rw [Update.checkRequirements]
  split
  · split
    · exact .raise .sdkVersion
    · exact .pure ()
  · split
    · split
      · exact .confirm _
      · exact .throw rfl
    · exact .pure ()
  · exact .pure ()

theorem Obeys.knownVariant (target : UpdateTarget) (status : Option Status) :
    Obeys config (knownVariant target status) := by
  unfold Update.knownVariant
  split
  · split
    · exact .pure _
    · exact .throw rfl
  · exact .pure _
  · exact .pure _

theorem Obeys.checkMigrations (model : Model) (variant : Variant) (current : Option Version)
    (new : Version) (status : Option Status) :
    Obeys config (checkMigrations config model variant current new status) := by
  refine .seq (.confirm _) fun _ => ?_
  dsimp only
  -- The warning is raised after the notes, if there is not enough space.
  split
  · exact .seq (.raise .fileSystemV2) fun _ => .pure _
  · exact .pure _

theorem Obeys.plan (target : UpdateTarget) (source : UpdateSource) :
    Obeys settings.config (plan primitives settings target source) := by
  refine .seq (.survey settings target) ?_
  rintro ⟨current, status⟩
  refine .seq (.prepare primitives settings target.model current source) fun container =>
    .seq (.checkStatus settings _ status _) fun _ => .seq (.checkRequirements container) fun _ =>
      .seq (.confirm _) fun _ => .seq (.knownVariant target status) fun variant => ?_
  -- If the variant is not known yet, migrations are looked at when the image is validated.
  cases variant with
  | none => exact .seq (.pure _) fun _ => .pure _
  | some v => exact .seq (.map (.checkMigrations _ v current _ status)) fun _ => .pure _

theorem Obeys.validateImage (model : Model) (variant : Variant) (p : Plan) :
    Obeys settings.config (validateImage primitives settings model variant p) := by
  rw [Update.validateImage]
  split
  · split
    · exact .throw rfl
    · split
      · exact .pure _
      · exact .seq (.checkMigrations model variant _ _ _) fun _ => .pure _
  · exact .throw rfl

end

/-! ## The whole update -/

section

variable {primitives : Primitives} {settings : UpdateSettings} {target : UpdateTarget}
  {source : UpdateSource} {record : Record} {result : Except UpdateFailure UpdateOutcome}

/-- In the other steps no warning has its place. -/
theorem Question.Fits.isWarning {q : Question} {step : UpdateStep} (h : q.Fits step)
    (hstep : ¬ MayWarn step) : q.isWarning = false := by
  cases h with
  | inquiry h => exact absurd (.inl rfl) hstep
  | migration h => exact absurd (.inl rfl) hstep
  | lateMigration h => exact absurd (.inr rfl) hstep
  | search h =>
      cases h with
      | _ => rfl
  | bar h => exact isWarning_of_isBar h
  | returning h =>
      cases h with
      | bar h => exact isWarning_of_isBar h
      | _ => rfl
  | _ => rfl

theorem Obeys.enterBootloader : Obeys settings.config (enterBootloader settings target) :=
  .ofWithinStep (.enterBootloader settings target) (fun _ hq => hq.isWarning (by decide))
    (by decide)

theorem Obeys.flash {config : UpdateConfig} (role : BootloaderRole) (image : Bytes) :
    Obeys config (flash role image) :=
  .ofWithinStep (.flash role image) (fun _ hq => hq.isWarning (by decide)) (by decide)

theorem Obeys.finalize {config : UpdateConfig} (model : Model) (expected : Version)
    (retries : Nat) :
    Obeys config (finalize model expected retries) :=
  .ofWithinStep (.finalize model expected retries)
    (fun _ hq => Question.Fits.isWarning (.returning hq) (by decide)) (by decide)

theorem RunCourse.showsIgnored
    (h : RunCourse primitives settings target source record result) :
    ShowsIgnored settings.config record := by
  cases h with
  | refused hplan hclosing =>
      have hclosed : ShowsIgnored settings.config _ := showsIgnored_of_quiet fun x hx => by
        rw [hclosing x hx]
        rfl
      simp [(Obeys.plan primitives settings target source).shows hplan, hclosed]
  | stranded hplan henter =>
      simp [(Obeys.plan primitives settings target source).shows hplan,
        Obeys.enterBootloader.shows henter]
  | rejected closed hplan henter hvalidate =>
      simp [(Obeys.plan primitives settings target source).shows hplan,
        Obeys.enterBootloader.shows henter,
        (Obeys.validateImage primitives settings target.model _ _).shows hvalidate]
  | unflashed closed h hflash =>
      simp [(Obeys.plan primitives settings target source).shows h.plan,
        Obeys.enterBootloader.shows h.enter,
        (Obeys.validateImage primitives settings target.model _ _).shows h.validate,
        (Obeys.flash _ _).shows hflash]
  | flashed closed h hflash hwait =>
      simp [(Obeys.plan primitives settings target source).shows h.plan,
        Obeys.enterBootloader.shows h.enter,
        (Obeys.validateImage primitives settings target.model _ _).shows h.validate,
        (Obeys.flash _ _).shows hflash, (Obeys.finalize target.model _ _).shows hwait]

/-- A refusal may claim to be a warning; all other warnings that stop an update are not ignored. -/
theorem RunCourse.stopped_by_warning {step : UpdateStep} {w : Warning}
    (h : RunCourse primitives settings target source record (.error ⟨step, .warning w⟩)) :
    ¬ settings.config.ignores w ∨ ∃ c, Update.refused c (.warning w) ∈ record := by
  -- A refusal in one of the steps is one in the whole record.
  have hwhole : ∀ {part : Record}, part ⊆ record →
      (¬ settings.config.ignores w ∨ ∃ c, Update.refused c (.warning w) ∈ part) →
        ¬ settings.config.ignores w ∨ ∃ c, Update.refused c (.warning w) ∈ record := by
    intro part hsub
    refine Or.imp_right ?_
    rintro ⟨c, hmem⟩
    exact ⟨c, hsub hmem⟩
  generalize hfailed :
    (Except.error ⟨step, .warning w⟩ : Except UpdateFailure UpdateOutcome) = failure at h
  cases h with
  | refused hplan hclosing =>
      cases hfailed
      exact hwhole (fun x hx => by simp [hx])
        ((Obeys.plan primitives settings target source).stops hplan)
  | stranded hplan henter =>
      cases hfailed
      exact hwhole (fun x hx => by simp [hx]) (Obeys.enterBootloader.stops henter)
  | rejected closed hplan henter hvalidate =>
      cases hfailed
      exact hwhole (fun x hx => by simp [hx])
        ((Obeys.validateImage primitives settings target.model _ _).stops hvalidate)
  | unflashed closed h hflash =>
      cases hfailed
      exact hwhole (fun x hx => by simp [hx]) ((Obeys.flash _ _).stops hflash)
  | flashed closed h hflash hwait =>
      obtain ⟨e, hstatus, he⟩ := mapError_eq_error.1 hfailed.symm
      cases he
      obtain rfl := map_eq_error.1 hstatus
      exact hwhole (fun x hx => by simp [hx]) ((Obeys.finalize target.model _ _).stops hwait)

end

end Update
end Reflash
