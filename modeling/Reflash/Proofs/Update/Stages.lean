import Reflash.Proofs.Dialogue.Asks
import Reflash.Proofs.Update.Course

/-!
# Update.Stages — an update before, at and after its container

The version check surveys the device, gets a container and goes through it; what the update does
after that follows from the plan alone.

* `conclude` — what the version check does with the container; `PlanCourse` — how far it gets;
* `carryOut` — what follows the version check, with the questions that it asks: `Question.Follows`.
-/

namespace Reflash
namespace Update

open Dialogue

variable (primitives : Primitives) (settings : UpdateSettings) (target : UpdateTarget)
  (source : UpdateSource)

/-! ## The version check -/

/-- Looks at the status, at what the container asks for and at migrations, with the operator's
consent. -/
def conclude (current : Option Version) (status : Option Status) (container : Container) :
    StepM Plan := do
  checkStatus settings target.model status container.version
  checkRequirements container settings.config
  confirm (.update current container.version)
  let migrations ← match ← knownVariant target status with
    | some variant =>
        some <$> checkMigrations settings.config target.model variant current container.version
          status
    | none => pure none
  return { current, status, container, migrations }

theorem plan_eq :
    plan primitives settings target source =
      survey settings target >>= fun known =>
        prepare primitives settings target.model known.1 source >>=
          conclude settings target known.1 known.2 :=
  rfl

inductive PlanCourse : Record → Except UpdateError Plan → Prop where
  | unknown {surveying : Record} {e : UpdateError}
      (hsurvey : Course (survey settings target).run surveying (.error e)) :
      PlanCourse surveying (.error e)
  | unprepared {surveying preparing : Record} {current : Option Version} {status : Option Status}
      {e : UpdateError}
      (hsurvey : Course (survey settings target).run surveying (.ok (current, status)))
      (hprepare : Course (prepare primitives settings target.model current source).run preparing
        (.error e)) :
      PlanCourse (surveying ++ preparing) (.error e)
  | concluded {surveying preparing concluding : Record} {current : Option Version}
      {status : Option Status} {container : Container} {result : Except UpdateError Plan}
      (hsurvey : Course (survey settings target).run surveying (.ok (current, status)))
      (hprepare : Course (prepare primitives settings target.model current source).run preparing
        (.ok container))
      (hconclude :
        Course (conclude settings target current status container).run concluding result) :
      PlanCourse (surveying ++ (preparing ++ concluding)) result

/-! ## After the version check -/

def carryOut (p : Plan) : UpdateM UpdateOutcome := do
  let (role, variant) ← inStep .bootloaderTransition (enterBootloader settings target)
  let migrations ← install primitives settings target.model role variant p
  let status ← inStep .finalizationWait
    (finalize target.model p.container.version migrations.retries)
  return { version := p.container.version, status }

theorem run_eq :
    run primitives settings target source =
      planned primitives settings target source >>= carryOut primitives settings target :=
  rfl

/-- Questions that are asked after the version check. -/
inductive Question.Follows : Question → Prop where
  | enter (step : UpdateStep) : Follows (.tell (.enter step))
  | fits {q : Question} {step : UpdateStep} (h : q.Fits step) (hstep : step ≠ .versionCheck) :
      Follows q
  | closeBootloader (role : BootloaderRole) : Follows (.bootloader role .close)

variable {primitives settings target source} {record : Record}

theorem planCourse_of_plan {result : Except UpdateError Plan}
    (h : Course (plan primitives settings target source).run record result) :
    PlanCourse primitives settings target source record result := by
  rw [plan_eq] at h
  rcases course_seq.1 h with ⟨e, hsurvey, rfl⟩ | ⟨surveying, ⟨current, status⟩, _, rfl, hsurvey, h₁⟩
  · exact .unknown hsurvey
  rcases course_seq.1 h₁ with ⟨e, hprepare, rfl⟩ | ⟨preparing, container, _, rfl, hprepare, h₂⟩
  · exact .unprepared hsurvey hprepare
  · exact .concluded hsurvey hprepare h₂

/-- An update ends with its version check, or else its plan is carried out. -/
theorem course_stages {result : Except UpdateFailure UpdateOutcome}
    (h : Course (run primitives settings target source).run record result) :
    (∃ planning closing e, record = told (.enter .versionCheck) :: (planning ++ closing) ∧
        result = .error ⟨.versionCheck, e⟩ ∧
        Course (plan primitives settings target source).run planning (.error e) ∧
        ∀ x ∈ closing, x.1 = .device .initial .close) ∨
      ∃ planning following p, record = told (.enter .versionCheck) :: (planning ++ following) ∧
        Course (plan primitives settings target source).run planning (.ok p) ∧
        Course (carryOut primitives settings target p).run following result := by
  rw [run_eq] at h
  rcases course_seq.1 h with ⟨f, hplanned, rfl⟩ | ⟨_, p, following, rfl, hplanned, hfollowing⟩
  · rcases course_planned hplanned with ⟨_, _, -, hf, -⟩ | ⟨planning, closing, e, rfl, hf, hrest⟩
    · cases hf
    · cases hf
      exact .inl ⟨planning, closing, e, rfl, rfl, hrest⟩
  · rcases course_planned hplanned with ⟨planning, _, rfl, hp, hplan⟩ | ⟨_, _, _, -, hp, -⟩
    · cases hp
      exact .inr ⟨planning, following, p, rfl, hplan, hfollowing⟩
    · cases hp

/-! ## What is asked -/

section

variable {α : Type} {p : Question → Prop}

theorem asks_inStep {step : UpdateStep} {m : StepM α} (henter : p (.tell (.enter step)))
    (hm : Asks p m.run) : Asks p (inStep step m).run := by
  intro record result h x hx
  obtain ⟨rest, answer, rfl, hrest, -⟩ := course_inStep.1 h
  rcases List.mem_cons.1 hx with rfl | hx
  · exact henter
  · exact hm hrest x hx

theorem asks_thenAlways {ε : Type} {m : ExceptT ε (Dialogue Question.Answer) α}
    {last : Dialogue Question.Answer Unit} (hm : Asks p m.run) (hlast : Asks p last) :
    Asks p (thenAlways m last).run := by
  intro record result h x hx
  obtain ⟨first, rest, rfl, hfirst, hrest⟩ := course_thenAlways.1 h
  rcases List.mem_append.1 hx with hx | hx
  · exact hm hfirst x hx
  · exact hlast hrest x hx

theorem asks_closeBootloader {role : BootloaderRole} (h : p (.bootloader role .close)) :
    Asks p (closeBootloader role) := by
  intro record u hcourse x hx
  obtain ⟨answer, rfl⟩ := course_closeBootloader.1 hcourse
  obtain rfl := List.mem_singleton.1 hx
  exact h

/-- A step after the version check asks what has its place in it. -/
theorem asks_laterStep {step : UpdateStep} {m : StepM α}
    (hm : WithinStep (Question.Fits step) step m) (hstep : step ≠ .versionCheck) :
    Asks Question.Follows (inStep step m).run :=
  asks_inStep (.enter step) fun _ _ h x hx => .fits (hm.asks h x hx) hstep

end

theorem asks_install (role : BootloaderRole) (variant : Variant) (p : Plan) :
    Asks Question.Follows (install primitives settings target.model role variant p).run := by
  refine asks_thenAlways (.seq ?_ ?_) (asks_closeBootloader (.closeBootloader role))
  · refine asks_laterStep (.mono (.validateImage primitives settings target.model variant p) ?_)
      (by decide)
    exact fun _ => .lateMigration
  · rintro ⟨image, migrations⟩
    exact .seq (asks_laterStep (.flash role image) (by decide)) fun _ => .done _

theorem asks_carryOut (p : Plan) :
    Asks Question.Follows (carryOut primitives settings target p).run := by
  refine .seq (asks_laterStep (.enterBootloader settings target) (by decide)) ?_
  rintro ⟨role, variant⟩
  refine .seq (asks_install role variant p) fun migrations => .seq ?_ fun status => .done _
  refine asks_laterStep (.mono (.finalize target.model p.container.version migrations.retries) ?_)
    (by decide)
  exact fun _ => .returning

end Update
end Reflash
