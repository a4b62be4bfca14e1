import Reflash.Proofs.Result
import Reflash.Proofs.Update.Stages

/-!
# Update.Verdict — what the policy says about a container

If the operator agrees to everything, the checks of an update say what follows from the settings,
the installed version and the container.

* `verdict` — what they say;
* `leadsTo_checkVersion`, `leadsTo_checkRequirements` — that they say it;
* `verdictBy`, `leadsTo_checkVersionBy`, `leadsTo_checkRequirementsBy` — the same by any answers of
  an operator;
* `Ready`, `leadsTo_plan` — with a device that nothing is wrong with, the version check says nothing
  else.
-/

namespace Reflash
namespace Update

open Dialogue

/-! ## Without an operator -/

def warningVerdict (config : UpdateConfig) (w : Warning) : Except UpdateError Unit :=
  if config.ignores w then .ok () else .error (.warning w)

def requirementsVerdict (container : Container) (config : UpdateConfig) : Except UpdateError Unit :=
  match container.sdk, container.client with
  | some sdk, _ => if config.sdkVersion < sdk then warningVerdict config .sdkVersion else .ok ()
  | none, some required =>
      if clientVersion < required then
        if config.ignoreClientVersion then .ok ()
        else .error (.outdatedClient required clientVersion)
      else .ok ()
  | none, none => .ok ()

def verdict (config : UpdateConfig) (current : Option Version) (container : Container) :
    Except UpdateError Unit := do
  let _ ← compareVersions current container.version
  requirementsVerdict container config

theorem error_of_requirementsVerdict {config : UpdateConfig} {container : Container}
    {e : UpdateError} (h : requirementsVerdict container config = .error e) :
    e = .warning .sdkVersion ∨ ∃ required, e = .outdatedClient required clientVersion := by
  rw [requirementsVerdict] at h
  split at h
  · split at h
    · rw [warningVerdict] at h
      split at h
      · cases h
      · cases h
        exact .inl rfl
    · cases h
  · split at h
    · split at h
      · cases h
      · cases h
        exact .inr ⟨_, rfl⟩
    · cases h
  · cases h

/-! ## By the answers of an operator -/

def comparisonBy (consents : Confirmation → Except UpdateError Unit) :
    Option Version → Except UpdateError Unit
  | some same => consents (.sameVersion same)
  | none => .ok ()

def requirementsBy (consents : Confirmation → Except UpdateError Unit) (container : Container)
    (config : UpdateConfig) : Except UpdateError Unit :=
  match container.sdk, container.client with
  | some sdk, _ => if config.sdkVersion < sdk then warningVerdict config .sdkVersion else .ok ()
  | none, some required =>
      if clientVersion < required then
        if config.ignoreClientVersion then consents (.clientVersion clientVersion required)
        else .error (.outdatedClient required clientVersion)
      else .ok ()
  | none, none => .ok ()

def verdictBy (consents : Confirmation → Except UpdateError Unit) (config : UpdateConfig)
    (current : Option Version) (container : Container) : Except UpdateError Unit := do
  comparisonBy consents (← compareVersions current container.version)
  requirementsBy consents container config

theorem leadsTo_raise {expects : Exchange Question.Answer → Prop} (config : UpdateConfig)
    (w : Warning) :
    LeadsTo expects (raise config w).run (warningVerdict config w) := by
  rw [raise, warningVerdict]
  split
  · exact fun _ _ h _ => (course_tell.1 h).2
  · exact .ofExcept _

section

variable {expects : Exchange Question.Answer → Prop}
  {consents : Confirmation → Except UpdateError Unit}
  (hanswers : ∀ c answer, expects ⟨.confirm c, answer⟩ → answer = consents c)

include hanswers in
theorem leadsTo_confirmBy (c : Confirmation) : LeadsTo expects (confirm c).run (consents c) :=
  .query (hanswers c)

include hanswers in
theorem leadsTo_checkVersionBy (current : Option Version) (new : Version) :
    LeadsTo expects (checkVersion current new).run
      (compareVersions current new >>= comparisonBy consents) := by
  refine .andThen (.ofExcept _) fun same _ => ?_
  cases same with
  | none => exact .pure ()
  | some same => exact leadsTo_confirmBy hanswers _

include hanswers in
theorem leadsTo_checkRequirementsBy (container : Container) (config : UpdateConfig) :
    LeadsTo expects (checkRequirements container config).run
      (requirementsBy consents container config) := by
  rw [checkRequirements, requirementsBy]
  cases container.sdk with
  | some sdk =>
      by_cases hnewer : config.sdkVersion < sdk
      · simpa only [if_pos hnewer] using leadsTo_raise config .sdkVersion
      · simpa only [if_neg hnewer] using LeadsTo.pure ()
  | none =>
      cases container.client with
      | none => exact .pure ()
      | some required =>
          by_cases houtdated : clientVersion < required
          · simp only [if_pos houtdated]
            cases config.ignoreClientVersion with
            | true => exact leadsTo_confirmBy hanswers _
            | false => exact .ofExcept _
          · simpa only [if_neg houtdated] using LeadsTo.pure ()

end

/-! ## With an operator who agrees -/

section

variable {expects : Exchange Question.Answer → Prop}
  (hconsent : ∀ c answer, expects ⟨.confirm c, answer⟩ → answer = .ok ())

include hconsent in
theorem leadsTo_confirm (c : Confirmation) : LeadsTo expects (confirm c).run (.ok ()) :=
  leadsTo_confirmBy hconsent c

include hconsent in
theorem leadsTo_checkVersion (current : Option Version) (new : Version) :
    LeadsTo expects (checkVersion current new).run
      (compareVersions current new >>= fun _ => .ok ()) := by
  have hagreed : comparisonBy (fun _ => .ok ()) = fun _ => .ok () := by
    funext same
    cases same with
    | none => rfl
    | some same => rfl
  have hleads := leadsTo_checkVersionBy hconsent current new
  rwa [hagreed] at hleads

include hconsent in
theorem leadsTo_checkRequirements (container : Container) (config : UpdateConfig) :
    LeadsTo expects (checkRequirements container config).run
      (requirementsVerdict container config) := by
  have hleads := leadsTo_checkRequirementsBy hconsent container config
  exact hleads

end

/-! ## With a device that nothing is wrong with -/

/-- A status that neither raises a warning nor hides the variant. -/
structure Ready (status : Status) : Prop where
  initialized : status.init.isSome
  variant : status.platform = some .lpc55 ∨ status.platform = some .nrf52
  space : ∃ blocks, status.ifsBlocks = some blocks ∧ 5 ≤ blocks

/-- The operator agrees, and the device tells this version and this status. -/
structure Favourable (v : Version) (status : Status) (x : Exchange Question.Answer) : Prop where
  consent : ∀ c answer, x = ⟨.confirm c, answer⟩ → answer = .ok ()
  version : ∀ answer, x = ⟨.device .initial Admin.versionCall, answer⟩ →
    Admin.versionFrom answer = .ok v
  status : ∀ answer, x = ⟨.device .initial Admin.statusCall, answer⟩ →
    Admin.statusFrom answer = .ok status

variable {primitives : Primitives} {settings : UpdateSettings} {model : Model} {v : Version}
  {status : Status}

theorem Ready.known (h : Ready status) :
    ∃ platform variant, status.platform = some platform ∧
      Variant.ofPlatform platform = .ok variant := by
  rcases h.variant with hplatform | hplatform
  · exact ⟨.lpc55, .lpc55, hplatform, rfl⟩
  · exact ⟨.nrf52, .nrf52, hplatform, rfl⟩

theorem Ready.not_lacksSpace (h : Ready status) : lacksSpace (some status) = false := by
  obtain ⟨blocks, hblocks, henough⟩ := h.space
  have hblocked : ¬ blocks < migrationBlocks := Nat.not_lt.2 henough
  simp [lacksSpace, hblocks, hblocked]

theorem leadsTo_survey :
    LeadsTo (Favourable v status) (survey settings (.device model)).run
      (.ok (some v, some status)) := by
  have hversion : LeadsTo (Favourable v status)
      (withDevice .initial (.device .versionCheck .readVersion) Admin.version).run (.ok v) := by
    rw [withDevice_eq Admin.run_version]
    refine .asking fun answer h => ?_
    rw [h.version answer rfl]
    rfl
  have hstatus : LeadsTo (Favourable v status)
      (withDevice .initial (.device .versionCheck .readStatus) Admin.status).run (.ok status) := by
    rw [withDevice_eq Admin.run_status]
    refine .asking fun answer h => ?_
    rw [h.status answer rfl]
    rfl
  exact hversion.seq (hstatus.seq (.pure _))

theorem leadsTo_prepare (data : Bytes) :
    LeadsTo (Favourable v status) (prepare primitives settings model (some v) (.bytes data)).run
      ((Container.parse primitives data model).mapError (.container none) >>= fun container =>
        compareVersions (some v) container.version >>= fun _ => .ok container) := by
  refine .andThen (.ofExcept _) fun container _ => ?_
  have hcheck : LeadsTo (Favourable v status) (checkVersion (some v) container.version).run
      (compareVersions (some v) container.version >>= fun _ => .ok ()) :=
    leadsTo_checkVersion (fun c answer h => h.consent c answer rfl) _ _
  simpa only [LawfulMonad.bind_assoc, Result.ok_bind] using
    hcheck.andThen fun _ _ => .pure container

theorem leadsTo_checkStatus (h : Ready status) {new : Version} :
    LeadsTo (Favourable v status) (checkStatus settings model (some status) new).run (.ok ()) := by
  have hinit : status.init.isNone = false := by simp [h.initialized]
  rw [checkStatus, if_neg (by simp [hinit])]
  exact .pure ()

theorem leadsTo_checkMigrations (h : Ready status) {config : UpdateConfig} {variant : Variant}
    {current : Option Version} {new : Version} :
    LeadsTo (Favourable v status)
      (checkMigrations config model variant current new (some status)).run
      (.ok (Migrations.of model variant current new)) := by
  refine .seq (leadsTo_confirm (fun c answer h => h.consent c answer rfl) _) ?_
  rw [if_neg (by simp [h.not_lacksSpace])]
  exact .pure _

theorem leadsTo_conclude (h : Ready status) {platform : Platform} {variant : Variant}
    {container : Container} (hplatform : status.platform = some platform)
    (hvariant : Variant.ofPlatform platform = .ok variant) :
    LeadsTo (Favourable v status)
      (conclude settings (.device model) (some v) (some status) container).run
      (requirementsVerdict container settings.config >>= fun _ =>
        .ok ⟨some v, some status, container,
          some (.of model variant (some v) container.version)⟩) := by
  have hconsent : ∀ c answer, Favourable v status ⟨.confirm c, answer⟩ → answer = .ok () :=
    fun c answer h => h.consent c answer rfl
  have hknown : LeadsTo (Favourable v status) (knownVariant (.device model) (some status)).run
      (.ok (some variant)) := by
    simpa only [knownVariant, Option.bind_some, hplatform, hvariant] using LeadsTo.pure _
  refine .seq (leadsTo_checkStatus h)
    (.andThen (leadsTo_checkRequirements hconsent _ _) fun _ _ => ?_)
  exact .seq (leadsTo_confirm hconsent _)
    (.seq hknown (.seq (.mapped (leadsTo_checkMigrations h)) (.pure _)))

/-- The version check refuses what cannot be parsed and what the policy refuses, and nothing
else. -/
theorem leadsTo_plan (h : Ready status) (data : Bytes) :
    ∃ p : Container → Plan, LeadsTo (Favourable v status)
      (plan primitives settings (.device model) (.bytes data)).run
      ((Container.parse primitives data model).mapError (.container none) >>= fun container =>
        verdict settings.config (some v) container >>= fun _ => .ok (p container)) := by
  obtain ⟨platform, variant, hplatform, hvariant⟩ := h.known
  refine ⟨fun container => ⟨some v, some status, container,
    some (.of model variant (some v) container.version)⟩, ?_⟩
  rw [plan_eq]
  refine leadsTo_survey.seq ?_
  have hprepared : LeadsTo (Favourable v status)
      (prepare primitives settings model (some v) (.bytes data)).run _ := leadsTo_prepare data
  -- The comparison belongs to getting the container, and the requirements to what is done with it;
  -- between them the status is looked at, which says nothing here.
  simpa only [verdict, UpdateTarget.model, LawfulMonad.bind_assoc, Result.ok_bind] using
    hprepared.andThen fun container _ => leadsTo_conclude h hplatform hvariant

end Update
end Reflash
