import Reflash.Proofs.Dialogue.CutShort
import Reflash.Proofs.Update.States
import Reflash.Proofs.Update.Warnings

/-!
# Update.IgnoredWarnings — what it changes to ignore more warnings

* `Updater.ignoring` — the same updater with other warnings to ignore;
* `StopsEarlier`, `EndsEarlier` — the same part of an update, but for warnings that only one of them
  ignores;
* `endsEarlier_run` — a whole update with fewer warnings to ignore is the other one cut short;
* `ignoring_only_removes_stops` — so that the two runs are the same up to the warning that stops the
  first;
* `refused_with_ignored_warning` — an operator may refuse with a warning, be it ignored or not.
-/

namespace Reflash

def UpdateConfig.ignoring (config : UpdateConfig) (warnings : List Warning) : UpdateConfig :=
  { config with ignored := warnings }

def UpdateSettings.ignoring (settings : UpdateSettings) (warnings : List Warning) :
    UpdateSettings :=
  { settings with config := settings.config.ignoring warnings }

def Updater.ignoring (u : Updater) (warnings : List Warning) : Updater :=
  { u with settings := u.settings.ignoring warnings }

theorem UpdateConfig.ignores_ignoring {config : UpdateConfig} {warnings : List Warning}
    {w : Warning} : (config.ignoring warnings).ignores w ↔ w ∈ warnings := by
  simp [ignores, ignoring]

namespace Update

open Dialogue

/-! ## Stopping earlier -/

/-- A warning that is not to be ignored. -/
def Unignored (ignored : List Warning) (e : UpdateError) : Prop :=
  ∃ w, e = .warning w ∧ w ∉ ignored

/-- The same part of an update, except that it may stop for warnings that are not to be ignored. -/
abbrev StopsEarlier {α : Type} (ignored : List Warning) (m m' : StepM α) : Prop :=
  CutShort (fun q : Question => q.isClose) (Unignored ignored) m.run m'.run

/-- The same for several steps, with which connections have to be let go of. -/
abbrev EndsEarlier {α : Type} (ignored : List Warning) (m m' : UpdateM α) : Prop :=
  CutShort (fun q : Question => q.isClose) (fun f => Unignored ignored f.error) m.run m'.run

section

variable {α : Type} {ignored : List Warning}

theorem StopsEarlier.ite {condition : Prop} [Decidable condition] {m m' other : StepM α}
    (h : StopsEarlier ignored m m') :
    StopsEarlier ignored (if condition then m else other) (if condition then m' else other) := by
  split
  · exact h
  · exact .same _

theorem StopsEarlier.inStep {step : UpdateStep} {m m' : StepM α} (h : StopsEarlier ignored m m') :
    EndsEarlier ignored (inStep step m) (inStep step m') :=
  CutShort.adapt (CutShort.seq (.same _) fun _ => h) fun _ he => he

theorem EndsEarlier.onFailure {m m' : UpdateM α} (h : EndsEarlier ignored m m')
    (role : DeviceRole) :
    EndsEarlier ignored (onFailure m (closeDevice role)) (onFailure m' (closeDevice role)) :=
  CutShort.bind h (fun _ => .same _) fun _ he => .ask rfl fun _ => .failed he

theorem EndsEarlier.thenAlways {m m' : UpdateM α} (h : EndsEarlier ignored m m')
    (role : BootloaderRole) :
    EndsEarlier ignored (thenAlways m (closeBootloader role))
      (thenAlways m' (closeBootloader role)) :=
  CutShort.bind h (fun _ => .same _) fun _ he => .ask rfl fun _ => .failed he

end

section

variable (primitives : Primitives) (settings : UpdateSettings) {fewer more : List Warning}
  (hsub : fewer ⊆ more)

include hsub

theorem stopsEarlier_raise (config : UpdateConfig) (w : Warning) :
    StopsEarlier fewer (raise (config.ignoring fewer) w) (raise (config.ignoring more) w) := by
  by_cases hw : w ∈ fewer
  · have hfewer : (config.ignoring fewer).ignores w := UpdateConfig.ignores_ignoring.2 hw
    have hmore : (config.ignoring more).ignores w := UpdateConfig.ignores_ignoring.2 (hsub hw)
    rw [raise, raise, if_pos hfewer, if_pos hmore]
    exact .same _
  · -- The stricter part ends with the warning, whatever the other one does.
    have hfewer : ¬ (config.ignoring fewer).ignores w := fun h =>
      hw (UpdateConfig.ignores_ignoring.1 h)
    rw [raise, if_neg hfewer]
    exact .cut (.failed ⟨w, rfl, hw⟩)

theorem stopsEarlier_survey (target : UpdateTarget) :
    StopsEarlier fewer (survey (settings.ignoring fewer) target)
      (survey (settings.ignoring more) target) := by
  cases target with
  | device model => exact .same _
  | bootloader model variant =>
      exact (stopsEarlier_raise hsub settings.config .fromBootloader).seq fun _ => .same _

theorem stopsEarlier_checkStatus (model : Model) (status : Option Status) (new : Version) :
    StopsEarlier fewer (checkStatus (settings.ignoring fewer) model status new)
      (checkStatus (settings.ignoring more) model status new) :=
  .ite (stopsEarlier_raise hsub settings.config .missingStatus)

theorem stopsEarlier_checkRequirements (container : Container) (config : UpdateConfig) :
    StopsEarlier fewer (checkRequirements container (config.ignoring fewer))
      (checkRequirements container (config.ignoring more)) := by
  unfold checkRequirements
  split
  next sdk hsdk => exact .ite (stopsEarlier_raise hsub config .sdkVersion)
  next required hsdk hclient => exact .same _
  next hsdk hclient => exact .same _

theorem stopsEarlier_checkMigrations (config : UpdateConfig) (model : Model) (variant : Variant)
    (current : Option Version) (new : Version) (status : Option Status) :
    StopsEarlier fewer (checkMigrations (config.ignoring fewer) model variant current new status)
      (checkMigrations (config.ignoring more) model variant current new status) :=
  CutShort.seq (.same _) fun _ =>
    StopsEarlier.ite ((stopsEarlier_raise hsub config .fileSystemV2).seq fun _ => .same _)

theorem stopsEarlier_plan (target : UpdateTarget) (source : UpdateSource) :
    StopsEarlier fewer (plan primitives (settings.ignoring fewer) target source)
      (plan primitives (settings.ignoring more) target source) := by
  refine (stopsEarlier_survey settings hsub target).seq ?_
  rintro ⟨current, status⟩
  refine CutShort.seq (.same _) fun container =>
    (stopsEarlier_checkStatus settings hsub target.model status container.version).seq fun _ =>
      (stopsEarlier_checkRequirements hsub container settings.config).seq fun _ =>
        CutShort.seq (.same _) fun _ => CutShort.seq (.same _) fun variant => ?_
  cases variant with
  | none => exact .same _
  | some v =>
      have hchecked :=
        stopsEarlier_checkMigrations hsub settings.config target.model v current container.version
          status
      exact hchecked.map.seq fun _ => .same _

theorem stopsEarlier_validateImage (model : Model) (variant : Variant) (p : Plan) :
    StopsEarlier fewer (validateImage primitives (settings.ignoring fewer) model variant p)
      (validateImage primitives (settings.ignoring more) model variant p) := by
  -- Which images are accepted does not depend on the warnings that are ignored.
  have hanchors : ∀ warnings, anchors (settings.ignoring warnings) model = anchors settings model :=
    fun _ => rfl
  unfold validateImage
  simp only [hanchors]
  split
  next image hheld =>
    split
    next e hinvalid => exact .same _
    next info hvalid =>
      split
      next migrations hplanned => exact .same _
      next hlate =>
        exact (stopsEarlier_checkMigrations hsub settings.config model variant p.current _
          p.status).seq fun _ => .same _
  next hnone => exact .same _

theorem endsEarlier_install (model : Model) (role : BootloaderRole) (variant : Variant) (p : Plan) :
    EndsEarlier fewer (install primitives (settings.ignoring fewer) model role variant p)
      (install primitives (settings.ignoring more) model role variant p) := by
  refine EndsEarlier.thenAlways (CutShort.seq (StopsEarlier.inStep ?_) fun _ => .same _) role
  exact stopsEarlier_validateImage primitives settings hsub model variant p

theorem endsEarlier_planned (target : UpdateTarget) (source : UpdateSource) :
    EndsEarlier fewer (planned primitives (settings.ignoring fewer) target source)
      (planned primitives (settings.ignoring more) target source) := by
  -- A device that was opened is let go of if the planning fails, a bootloader is not.
  have hplan : EndsEarlier fewer
      (inStep .versionCheck (plan primitives (settings.ignoring fewer) target source))
      (inStep .versionCheck (plan primitives (settings.ignoring more) target source)) :=
    (stopsEarlier_plan primitives settings hsub target source).inStep
  cases target with
  | device model => exact hplan.onFailure .initial
  | bootloader model variant => exact hplan

theorem endsEarlier_run (target : UpdateTarget) (source : UpdateSource) :
    EndsEarlier fewer (run primitives (settings.ignoring fewer) target source)
      (run primitives (settings.ignoring more) target source) := by
  refine (endsEarlier_planned primitives settings hsub target source).seq fun p => ?_
  refine CutShort.seq (.same _) ?_
  rintro ⟨role, variant⟩
  -- Only planning and installation read which warnings are ignored.
  exact (endsEarlier_install primitives settings hsub target.model role variant p).seq
    fun _ => .same _

end

/-! ## Two runs in the same surroundings -/

def withoutCloses (record : Record) : Record :=
  record.filter fun x => !x.1.isClose

/-- What is only let go of leaves no trace. -/
theorem withoutCloses_append_of_closes {common ends : Record} (h : ∀ x ∈ ends, x.1.isClose) :
    withoutCloses (common ++ ends) = withoutCloses common := by
  have hnone : withoutCloses ends = [] := List.filter_eq_nil_iff.2 fun x hx => by simp [h x hx]
  rw [withoutCloses, List.filter_append]
  exact (congrArg (_ ++ ·) hnone).trans (List.append_nil _)

section

variable {σ : Type} {primitives : Primitives} {u : Updater} {target : UpdateTarget}
  {source : UpdateSource} {w : Surroundings Question.Answer σ} {s : σ}

theorem run_update :
    (u.update primitives target source).run w s =
      let outcome := (run primitives u.settings target source).run.run w s
      ⟨({ u with state := .after outcome.result }, outcome.result.mapError UpdateFailure.error),
        outcome.record, outcome.state⟩ := by
  rw [Updater.update, run_bind]
  simp [Dialogue.run]

/-- The two runs are the same, or the stricter one has stopped for a warning where the other one
goes on. -/
theorem ignoring_cases {fewer more : List Warning} (hsub : fewer ⊆ more) :
    let strict := ((u.ignoring fewer).update primitives target source).run w s
    let lenient := ((u.ignoring more).update primitives target source).run w s
    (strict.result.2 = lenient.result.2 ∧ strict.result.1.state = lenient.result.1.state ∧
        strict.record = lenient.record ∧ strict.state = lenient.state) ∨
      ∃ x common ends rest, strict.result.2 = .error (.warning x) ∧ x ∉ fewer ∧
        strict.record = common ++ ends ∧ lenient.record = common ++ rest ∧
        ∀ y ∈ ends, y.1.isClose := by
  intro strict lenient
  have hstrict : strict = _ := run_update
  have hlenient : lenient = _ := run_update
  rw [hstrict, hlenient]
  rcases (endsEarlier_run primitives u.settings hsub target source).run w s with heq |
    ⟨⟨step, e⟩, common, ends, rest, he, ⟨x, rfl, hx⟩, hrecord, hrecord', hcloses⟩
  · have hsame : (run primitives (u.ignoring fewer).settings target source).run.run w s =
        (run primitives (u.ignoring more).settings target source).run.run w s := heq
    rw [hsame]
    exact .inl ⟨rfl, rfl, rfl, rfl⟩
  · exact .inr ⟨x, common, ends, rest, congrArg (Except.mapError UpdateFailure.error) he, hx,
      hrecord, hrecord', hcloses⟩

/-- But for what is let go of in the end, the stricter run is the beginning of the other one. -/
theorem withoutCloses_ignoring {fewer more : List Warning} (hsub : fewer ⊆ more) :
    let strict := ((u.ignoring fewer).update primitives target source).run w s
    let lenient := ((u.ignoring more).update primitives target source).run w s
    withoutCloses strict.record <+: withoutCloses lenient.record := by
  intro strict lenient
  rcases ignoring_cases hsub with ⟨-, -, hsame, -⟩ |
    ⟨x, common, ends, rest, -, -, hstrict, hlenient, hcloses⟩
  · have hrecord : strict.record = lenient.record := hsame
    exact ⟨[], by rw [List.append_nil, hrecord]⟩
  · rw [hstrict, hlenient, withoutCloses_append_of_closes hcloses]
    exact (List.prefix_append common rest).filter _

end

/-- Ignoring more warnings changes nothing unless the update stops for a warning, and then it goes
on from there.  A warning is shown only if it is ignored, and stops an update only if it is not, as
long as no refusal of the operator passes for a warning. -/
theorem ignoring_only_removes_stops {σ : Type} (primitives : Primitives) (u : Updater)
    (fewer more : List Warning) (hsub : fewer ⊆ more) (target : UpdateTarget)
    (source : UpdateSource) (w : Surroundings Question.Answer σ) (s : σ) :
    let strict := ((u.ignoring fewer).update primitives target source).run w s
    let lenient := ((u.ignoring more).update primitives target source).run w s
    ((∀ x, strict.result.2 ≠ .error (.warning x)) →
      strict.result.2 = lenient.result.2 ∧ strict.result.1.state = lenient.result.1.state ∧
        strict.record = lenient.record ∧ strict.state = lenient.state) ∧
    (∀ x, strict.result.2 = .error (.warning x) →
      withoutCloses strict.record <+: withoutCloses lenient.record ∧
        (x ∉ fewer ∨ ∃ c, refused c (.warning x) ∈ strict.record) ∧
        (RefusesByAborting w → x ∉ fewer)) ∧
    (∀ x, told (.warning x) ∈ strict.record → x ∈ fewer) := by
  intro strict lenient
  obtain ⟨result, hrun, hresult⟩ : ∃ result,
      RunCourse primitives (u.settings.ignoring fewer) target source strict.record result ∧
        strict.result = ({ u.ignoring fewer with state := .after result },
          result.mapError UpdateFailure.error) :=
    runCourse_of_update (u.ignoring fewer) w s
  refine ⟨?_, ?_, ?_⟩
  · intro hunwarned
    refine (ignoring_cases hsub).resolve_right ?_
    rintro ⟨x, -, -, -, hstopped, -⟩
    exact hunwarned x hstopped
  · intro x hstopped
    -- The record of the stricter run alone tells why it has stopped.
    have hunignored : x ∉ fewer ∨ ∃ c, refused c (.warning x) ∈ strict.record := by
      rw [hresult] at hstopped
      obtain ⟨⟨step, e⟩, rfl, he⟩ := mapError_eq_error.1 hstopped
      cases he
      exact hrun.stopped_by_warning.imp_left fun h hx => h (UpdateConfig.ignores_ignoring.2 hx)
    refine ⟨withoutCloses_ignoring hsub, hunignored, ?_⟩
    intro hrefusals
    refine hunignored.resolve_right ?_
    rintro ⟨c, hmem⟩
    obtain ⟨s', hanswer⟩ := answer_of_mem_record hmem
    cases hrefusals s' c _ hanswer
  · intro x hmem
    exact UpdateConfig.ignores_ignoring.1 (hrun.showsIgnored x hmem)

/-- No room for a migration that is only known of once the bootloader is met. -/
def Trial.cramped : Trial.Scene where
  status := [0, 3, 0, 0]

def Trial.Scene.runIgnoring (scene : Trial.Scene) (ignored : List Warning) :
    Outcome Question.Answer Unit (Updater × Except UpdateError UpdateOutcome) :=
  ((Trial.updater.ignoring ignored).update Trial.primitives (.device .nk3) (.bytes [0])).run
    scene.surroundings ()

theorem Trial.Scene.refusesByAborting (scene : Trial.Scene) :
    RefusesByAborting scene.surroundings := by
  intro s c e he
  have hanswer : (if scene.refuses c then .error .aborted else .ok ()) = Except.error e := he
  split at hanswer
  · exact (Except.error.inj hanswer).symm
  · cases hanswer

/-- The warning stops the one update, and the other one goes on and writes the image. -/
theorem ignoring_only_removes_stops_trial :
    let fewer : List Warning := [.missingStatus]
    let more : List Warning := [.fileSystemV2, .missingStatus]
    let strict := Trial.cramped.runIgnoring fewer
    let lenient := Trial.cramped.runIgnoring more
    fewer ⊆ more ∧ strict.result.2 = .error (.warning .fileSystemV2) ∧
      withoutCloses strict.record <+: withoutCloses lenient.record ∧
      RefusesByAborting Trial.cramped.surroundings ∧ .fileSystemV2 ∉ fewer ∧
      told (.warning .fileSystemV2) ∉ strict.record ∧
      told (.warning .fileSystemV2) ∈ lenient.record ∧ Flashed lenient.record := by
  intro fewer more strict lenient
  have hsub : fewer ⊆ more := List.subset_cons_self _ _
  have hstopped : strict.result.2 = .error (.warning .fileSystemV2) := by rfl
  obtain ⟨-, hstops, hshows⟩ :=
    ignoring_only_removes_stops Trial.primitives Trial.updater fewer more hsub (.device .nk3)
      (.bytes [0]) Trial.cramped.surroundings ()
  obtain ⟨hbeginning, -, hunignored⟩ := hstops _ hstopped
  have hrefuses := Trial.cramped.refusesByAborting
  refine ⟨hsub, hstopped, hbeginning, hrefuses, hunignored hrefuses, ?_, ?_, ?_⟩
  · intro hmem
    exact hunignored hrefuses (hshows _ hmem)
  · exact List.mem_of_getElem? (i := 14) rfl
  · exact ⟨.attempt 1, [2], [], List.mem_of_getElem? (i := 17) rfl⟩

/-- An operator who is shown a warning that is to be ignored, and refuses with it. -/
def Trial.contrary : Surroundings Question.Answer Unit :=
  fun s q =>
    match q with
    | .confirm (.notes _) => (.error (.warning .fileSystemV2), s)
    | q => Trial.cramped.surroundings s q

/-- What a refusal says is how the update ends, so that it may fail with a warning that is
ignored. -/
theorem refused_with_ignored_warning :
    let ignored : List Warning := [.fileSystemV2]
    let outcome := ((Trial.updater.ignoring ignored).update Trial.primitives (.device .nk3)
      (.bytes [0])).run Trial.contrary ()
    outcome.result.2 = .error (.warning .fileSystemV2) ∧
      ¬ ∀ x, outcome.result.2 = .error (.warning x) → x ∉ ignored := by
  intro ignored outcome
  have hstopped : outcome.result.2 = .error (.warning .fileSystemV2) := by rfl
  refine ⟨hstopped, fun h => ?_⟩
  exact h _ hstopped List.mem_cons_self

end Update
end Reflash
