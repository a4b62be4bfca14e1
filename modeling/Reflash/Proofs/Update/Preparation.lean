import Reflash.Proofs.Update.Step
import Reflash.Proofs.Version

/-!
# Update.Preparation — courses of the survey and of getting a container

The first half of the version check: what its parts keep to, and what is known when they succeed.

* `reported_of_survey` — what the device told about itself;
* `prepared_of_prepare` — the source gave a container, and its version passed the comparison with
  the installed one;
* `supplies_of_prepare` — a container is asked for at most once.
-/

namespace Reflash
namespace Update

open Dialogue

variable (primitives : Primitives) (settings : UpdateSettings) {config : UpdateConfig}
  {p : Question → Prop} {step : UpdateStep} {record : Record}

/-! ## Warnings -/

theorem course_raise_ok {w : Warning} {u : Unit} :
    Course (raise config w).run record (.ok u) ↔
      config.ignores w ∧ record = [told (.warning w)] := by
  rw [raise]
  split
  next hignored =>
    simp [hignored, course_tell]
  next hignored =>
    simp [hignored]

theorem WithinStep.raise {w : Warning} (hw : p (.tell (.warning w))) (hstep : MayWarn step) :
    WithinStep p step (raise config w) := by
  rw [Update.raise]
  split
  · exact .tell hw
  · exact .throwWarning w hstep

/-! ## Versions -/

theorem compareVersions_error {current : Option Version} {new : Version} {e : UpdateError}
    (h : compareVersions current new = .error e) :
    ∃ v, current = some v ∧ e = .downgrade v new := by
  cases current with
  | none =>
      cases h
  | some v =>
      rw [compareVersions] at h
      split at h
      · cases h
        exact ⟨v, rfl, rfl⟩
      · split at h
        · cases h
        · split at h <;> cases h

/-- What passed the comparison is not older than the installed version. -/
theorem rank_le_of_compareVersions {current new : Version} {same : Option Version}
    (h : compareVersions (some current) new = .ok same) : current.rank ≤ new.rank := by
  rw [compareVersions] at h
  split at h
  next holder => cases h
  next holder =>
    rw [Version.core_lt_core_iff] at holder
    exact not_lt.1 holder

theorem WithinStep.checkVersion (current : Option Version) (new : Version) :
    WithinStep Question.IsTalk .versionCheck (checkVersion current new) := by
  rw [Update.checkVersion]
  refine .seq (.ofExcept ?_) ?_
  · intro e he
    obtain ⟨v, -, rfl⟩ := compareVersions_error he
    rfl
  · intro same
    cases same with
    | none => exact .pure ()
    | some v => exact .confirm (.confirm _ rfl)

/-- A version that is installed already is what the comparison comes to. -/
theorem compareVersions_of_level {current new : Version} {same : Option Version}
    (h : compareVersions (some current) new = .ok same) (hlevel : current.Level new) :
    ∃ v, same = some v := by
  simp only [compareVersions, hlevel, not_true, if_false] at h
  split at h
  · cases h
  · split at h
    · cases h
      exact ⟨_, rfl⟩
    · cases h
      exact ⟨_, rfl⟩

theorem passed_of_checkVersion {current : Option Version} {new : Version}
    (h : Course (checkVersion current new).run record (.ok ())) : Passed current new record := by
  rw [checkVersion, course_seq_ok] at h
  obtain ⟨first, same, rest, rfl, hfirst, hrest⟩ := h
  obtain ⟨rfl, hsame⟩ := course_ofExcept.1 hfirst
  refine ⟨⟨same, hsame.symm⟩, ?_⟩
  rintro v rfl hlevel
  obtain ⟨v', rfl⟩ := compareVersions_of_level hsame.symm hlevel
  have hconfirm : rest = [accepted (.sameVersion v')] := course_confirm.1 hrest
  exact ⟨v', hsame.symm, by simp [hconfirm]⟩

/-! ## The survey -/

theorem withDevice_eq {α : Type} {role : DeviceRole} {wrap : DeviceError → UpdateError}
    {m : DeviceM α} {call : Call} {f : call.Answer → Except DeviceError α}
    (h : m.run = f <$> query call) :
    withDevice role wrap m =
      ExceptT.mk
        ((fun answer => (f answer).mapError wrap) <$> query (Question.device role call)) := by
  rw [withDevice, attempt, h]
  rfl

theorem course_readVersion {role : DeviceRole} {wrap : DeviceError → UpdateError}
    {result : Except UpdateError Version} :
    Course (withDevice role wrap Admin.version).run record result ↔
      ∃ answer, record = [⟨.device role Admin.versionCall, answer⟩] ∧
        result = (Admin.versionFrom answer).mapError wrap := by
  rw [withDevice_eq Admin.run_version, ExceptT.run_mk, course_map]
  simp only [course_query]

theorem course_readStatus {role : DeviceRole} {wrap : DeviceError → UpdateError}
    {result : Except UpdateError Status} :
    Course (withDevice role wrap Admin.status).run record result ↔
      ∃ answer, record = [⟨.device role Admin.statusCall, answer⟩] ∧
        result = (Admin.statusFrom answer).mapError wrap := by
  rw [withDevice_eq Admin.run_status, ExceptT.run_mk, course_map]
  simp only [course_query]

/-- A conversation with a device that is one call. -/
theorem WithinStep.withDevice {α : Type} {role : DeviceRole} {wrap : DeviceError → UpdateError}
    {m : DeviceM α} {call : Call} {f : call.Answer → Except DeviceError α}
    (h : m.run = f <$> query call) (hcall : p (.device role call))
    (hwrap : ∀ e, (wrap e).step? = some step) : WithinStep p step (withDevice role wrap m) := by
  rw [withDevice_eq h]
  refine .asking hcall rfl ?_
  intro answer e he
  obtain ⟨cause, -, rfl⟩ := mapError_eq_error.1 he
  exact hwrap cause

theorem WithinStep.survey (target : UpdateTarget) :
    WithinStep (Question.Fits .versionCheck) .versionCheck (survey settings target) := by
  cases target with
  | device model =>
      refine .seq ?_ fun version => .seq ?_ fun status => .pure _
      · exact .withDevice Admin.run_version .version fun _ => rfl
      · exact .withDevice Admin.run_status .status fun _ => rfl
  | bootloader model variant =>
      exact .seq (.raise (.inquiry (.talk (.warning _ (by decide)))) (.inl rfl)) fun _ => .pure _

/-- The device is asked once for its version and once for its status. -/
theorem course_survey_device {model : Model} {current : Option Version} {status : Option Status} :
    Course (survey settings (.device model)).run record (.ok (current, status)) ↔
      ∃ a₁ a₂ v st, record = [⟨.device .initial Admin.versionCall, a₁⟩,
          ⟨.device .initial Admin.statusCall, a₂⟩] ∧
        Admin.versionFrom a₁ = .ok v ∧ Admin.statusFrom a₂ = .ok st ∧
        current = some v ∧ status = some st := by
  simp only [survey, course_seq_ok, course_readVersion, course_readStatus, course_pure]
  constructor
  · rintro ⟨_, v, _, rfl, ⟨a₁, rfl, hv⟩, _, st, _, rfl, ⟨a₂, rfl, hst⟩, rfl, hresult⟩
    cases hresult
    exact ⟨a₁, a₂, v, st, rfl, mapError_eq_ok.1 hv.symm, mapError_eq_ok.1 hst.symm, rfl, rfl⟩
  · rintro ⟨a₁, a₂, v, st, rfl, hv, hst, rfl, rfl⟩
    exact ⟨[_], v, [_], rfl, ⟨a₁, rfl, (mapError_eq_ok.2 hv).symm⟩, [_], st, [], rfl,
      ⟨a₂, rfl, (mapError_eq_ok.2 hst).symm⟩, rfl, rfl⟩

theorem course_survey_bootloader {model : Model} {variant : Variant} {current : Option Version}
    {status : Option Status} :
    Course (survey settings (.bootloader model variant)).run record (.ok (current, status)) ↔
      settings.config.ignores .fromBootloader ∧ record = [told (.warning .fromBootloader)] ∧
        current = none ∧ status = none := by
  simp only [survey, course_seq_ok, course_raise_ok, course_pure]
  constructor
  · rintro ⟨_, _, _, rfl, ⟨hignored, rfl⟩, rfl, hresult⟩
    cases hresult
    exact ⟨hignored, rfl, rfl, rfl⟩
  · rintro ⟨hignored, rfl, rfl, rfl⟩
    exact ⟨_, (), [], rfl, ⟨hignored, rfl⟩, rfl, rfl⟩

theorem reported_of_survey {target : UpdateTarget} {current : Option Version}
    {status : Option Status}
    (h : Course (survey settings target).run record (.ok (current, status))) :
    Reported target record current status := by
  cases target with
  | device model =>
      obtain ⟨a₁, a₂, v, st, rfl, hv, hst, rfl, rfl⟩ := (course_survey_device settings).1 h
      exact ⟨v, st, rfl, rfl, ⟨a₁, by simp, hv⟩, ⟨a₂, by simp, hst⟩⟩
  | bootloader model variant =>
      obtain ⟨-, -, rfl, rfl⟩ := (course_survey_bootloader settings).1 h
      exact ⟨rfl, rfl⟩

/-! ## The container -/

theorem course_parseContainer_ok {model : Model} {tag : Option String} {data : Bytes}
    {container : Container} :
    Course (parseContainer primitives model tag data).run record (.ok container) ↔
      record = [] ∧ Container.parse primitives data model = .ok container := by
  rw [parseContainer, course_ofExcept, eq_comm (a := Except.ok container), mapError_eq_ok]

theorem WithinStep.parseContainer (model : Model) (tag : Option String) (data : Bytes) :
    WithinStep p .versionCheck (parseContainer primitives model tag data) :=
  .ofMapError fun _ => rfl

theorem WithinStep.openContainer (model : Model) (current : Option Version) (data : Bytes) :
    WithinStep Question.IsInquiry .versionCheck
      (openContainer primitives model current data) :=
  .seq (.parseContainer primitives model none data) fun container =>
    .seq (.mono (.checkVersion current container.version) fun _ => .talk) fun _ => .pure container

theorem WithinStep.findRelease (tag : Option String) :
    WithinStep Question.IsInquiry .versionCheck (findRelease tag) := by
  cases tag with
  | some tag =>
      refine .attempt (fun h => ?_) fun _ => rfl
      rw [course_query.1 h]
      simpa using ⟨.release tag, rfl⟩
  | none =>
      refine .attempt (fun h => ?_) fun _ => rfl
      rw [course_query.1 h]
      simpa using ⟨.latestRelease, rfl⟩

/-- Showing progress cannot fail. -/
theorem course_showProgress {bar : Bar} {progress : Progress} {result : Except UpdateError Unit}
    (h : Course (showProgress bar progress).run record result) :
    (∀ x ∈ record, x.1.isBar bar) ∧ result = .ok () := by
  rw [showProgress] at h
  induction progress generalizing record with
  | nil =>
      obtain ⟨rfl, rfl⟩ := course_pure.1 h
      simp
  | cons report rest ih =>
      obtain ⟨later, rfl, hlater⟩ := course_tell_seq.1 h
      obtain ⟨hbars, rfl⟩ := ih hlater
      refine ⟨?_, rfl⟩
      intro x hx
      rcases List.mem_cons.1 hx with rfl | hx
      · simp [told, Question.isBar]
      · exact hbars x hx

theorem course_showProgress_seq {bar : Bar} {progress : Progress} {f : Unit → StepM α}
    {result : Except UpdateError α}
    (h : Course (showProgress bar progress >>= f).run record result) :
    ∃ bars rest, record = bars ++ rest ∧ (∀ x ∈ bars, x.1.isBar bar) ∧
      Course (f ()).run rest result := by
  rcases course_seq.1 h with ⟨e, hshown, -⟩ | ⟨bars, _, rest, rfl, hshown, hrest⟩
  · cases (course_showProgress hshown).2
  · exact ⟨bars, rest, rfl, (course_showProgress hshown).1, hrest⟩

theorem WithinStep.showProgress {bar : Bar} (progress : Progress)
    (hbar : ∀ q : Question, q.isBar bar → p q) :
    WithinStep p step (showProgress bar progress) := by
  refine .quiet ?_ ?_
  · intro record result h x hx
    have hx := (course_showProgress h).1 x hx
    refine ⟨hbar _ hx, ?_⟩
    obtain ⟨n, hn⟩ := Question.tell_of_isBar hx
    rw [hn]
    rfl
  · intro record e h
    cases (course_showProgress h).2

theorem WithinStep.downloadAsset (asset : Asset) :
    WithinStep Question.IsInquiry .versionCheck (downloadAsset asset) := by
  refine .seq (.tell (.bar rfl)) fun _ => .seq (.ask (.download asset) rfl) ?_
  rintro ⟨progress, result⟩
  refine .seq (.showProgress progress fun _ => .bar) fun _ =>
    .seq (.tell (.bar rfl)) fun _ => ?_
  cases result with
  | ok data => exact .pure data
  | error e => exact .throw rfl

theorem WithinStep.downloadContainer (model : Model) (release : Release) (version : Version) :
    WithinStep Question.IsInquiry .versionCheck
      (downloadContainer primitives model release version) := by
  refine .seq (.ofMapError fun _ => rfl) fun asset => .seq (.downloadAsset asset) fun data =>
    .seq (.parseContainer primitives model _ data) fun container => ?_
  split
  · exact .pure container
  · exact .throw rfl

theorem WithinStep.prepare (model : Model) (current : Option Version) (source : UpdateSource) :
    WithinStep Question.IsInquiry .versionCheck
      (prepare primitives settings model current source) := by
  cases source with
  | bytes data =>
      exact .openContainer primitives model current data
  | file path =>
      refine .seq (.ask (.readFile path) rfl) fun answer => ?_
      cases answer with
      | ok data => exact .openContainer primitives model current data
      | error fault => exact .throw rfl
  | release tag =>
      rw [Update.prepare]
      have hrest : WithinStep Question.IsInquiry .versionCheck (do
          let release ← Update.findRelease tag
          let version ← ExceptT.mk
            (Pure.pure (release.version.mapError (UpdateError.badTag release.tag)))
          Update.checkVersion current version
          Update.confirm (.download current version)
          Update.downloadContainer primitives model release version) := by
        exact .seq (.findRelease tag) fun release => .seq (.ofMapError fun _ => rfl) fun version =>
          .seq (.mono (.checkVersion current version) fun _ => .talk) fun _ =>
            .seq (.confirm (.talk (.confirm _ rfl))) fun _ =>
              .downloadContainer primitives model release version
      split
      · exact .seq (.throw rfl) fun _ => hrest
      · exact hrest

theorem course_openContainer_ok {model : Model} {current : Option Version} {data : Bytes}
    {container : Container}
    (h : Course (openContainer primitives model current data).run record (.ok container)) :
    Container.parse primitives data model = .ok container ∧
      Passed current container.version record := by
  simp only [openContainer, course_seq_ok, course_parseContainer_ok, course_pure] at h
  obtain ⟨_, c, _, rfl, ⟨rfl, hparsed⟩, _, _, _, rfl, hpassed, rfl, hc⟩ := h
  cases hc
  exact ⟨hparsed, (passed_of_checkVersion hpassed).mono (by simp)⟩

theorem course_findRelease_ok {tag : Option String} {release : Release}
    (h : Course (findRelease tag).run record (.ok release)) : LookedUp tag record release := by
  cases tag with
  | some tag =>
      obtain ⟨answer, hanswer, hrelease⟩ := course_map.1 h
      obtain rfl := course_query.1 hanswer
      obtain rfl : answer = .ok release := mapError_eq_ok.1 hrelease.symm
      exact List.mem_singleton.2 rfl
  | none =>
      obtain ⟨answer, hanswer, hrelease⟩ := course_map.1 h
      obtain rfl := course_query.1 hanswer
      obtain rfl : answer = .ok release := mapError_eq_ok.1 hrelease.symm
      exact List.mem_singleton.2 rfl

/-- Whatever comes of a download, its bar is finished. -/
theorem course_downloadAsset {asset : Asset} {result : Except UpdateError Bytes}
    (h : Course (downloadAsset asset).run record result) :
    ∃ progress answer bars,
      record = told (.barStart .download (some asset.tag)) ::
        ⟨.download asset, (progress, answer)⟩ :: bars ∧
      (∀ x ∈ bars, x.1.isBar .download) ∧
      result = answer.mapError (.release (.download asset.tag)) := by
  obtain ⟨_, rfl, h₁⟩ := course_tell_seq.1 h
  obtain ⟨⟨progress, answer⟩, _, rfl, h₂⟩ := course_ask_seq.1 h₁
  obtain ⟨bars, _, rfl, hshown, h₃⟩ := course_showProgress_seq h₂
  obtain ⟨rest, rfl, hrest⟩ := course_tell_seq.1 h₃
  have hdone : rest = [] ∧ result = answer.mapError (.release (.download asset.tag)) := by
    cases answer with
    | ok data => exact course_pure.1 hrest
    | error e => exact course_throw.1 hrest
  obtain ⟨rfl, rfl⟩ := hdone
  refine ⟨progress, answer, bars ++ [told (.barFinish .download)], rfl, ?_, rfl⟩
  intro x hx
  rcases List.mem_append.1 hx with hx | hx
  · exact hshown x hx
  · obtain rfl := List.mem_singleton.1 hx
    rfl

theorem course_downloadAsset_ok {asset : Asset} {data : Bytes}
    (h : Course (downloadAsset asset).run record (.ok data)) :
    (∃ progress, ⟨.download asset, (progress, .ok data)⟩ ∈ record) ∧
      timesAsked Question.isSupply record = 1 := by
  obtain ⟨progress, answer, bars, rfl, hshown, hdata⟩ := course_downloadAsset h
  obtain rfl := mapError_eq_ok.1 hdata.symm
  have hbars : timesAsked Question.isSupply bars = 0 := by
    refine timesAsked_eq_zero fun x hx => ?_
    obtain ⟨n, hn⟩ := Question.tell_of_isBar (hshown x hx)
    rw [hn]
    rfl
  exact ⟨⟨progress, by simp⟩, by simp [hbars, told, Question.isSupply]⟩

theorem course_downloadContainer_ok {model : Model} {release : Release} {version : Version}
    {container : Container}
    (h : Course (downloadContainer primitives model release version).run record (.ok container)) :
    (∃ data asset progress, ⟨.download asset, (progress, .ok data)⟩ ∈ record ∧
      Container.parse primitives data model = .ok container ∧ version.Level container.version) ∧
      timesAsked Question.isSupply record = 1 := by
  simp only [downloadContainer, course_seq_ok, course_parseContainer_ok] at h
  obtain ⟨_, asset, _, rfl, hasset, _, data, _, rfl, hdata, _, c, _, rfl, ⟨rfl, hparsed⟩,
    hresult⟩ := h
  obtain ⟨rfl, -⟩ := course_ofExcept.1 hasset
  obtain ⟨⟨progress, hmem⟩, honce⟩ := course_downloadAsset_ok hdata
  split at hresult
  next hlevel =>
    obtain ⟨rfl, hc⟩ := course_pure.1 hresult
    cases hc
    exact ⟨⟨data, asset, progress, by simp [hmem], hparsed, hlevel⟩, by simp [honce]⟩
  next =>
    cases (course_throw.1 hresult).2

theorem course_prepareRelease_ok {model : Model} {current : Option Version} {tag : Option String}
    {container : Container}
    (h : Course (prepare primitives settings model current (.release tag)).run record
      (.ok container)) :
    ∃ found release version checked downloaded,
      record = found ++ (checked ++ accepted (.download current version) :: downloaded) ∧
      Course (findRelease tag).run found (.ok release) ∧ release.version = .ok version ∧
      Course (checkVersion current version).run checked (.ok ()) ∧
      Course (downloadContainer primitives model release version).run downloaded
        (.ok container) := by
  rw [prepare] at h
  split at h
  -- Without a repository the preparation fails before anything is looked up.
  · obtain ⟨_, _, _, -, hthrow, -⟩ := course_seq_ok.1 h
    cases (course_throw.1 hthrow).2
  · obtain ⟨found, release, _, rfl, hfound, h₁⟩ := course_seq_ok.1 h
    obtain ⟨_, version, _, rfl, hversion, h₂⟩ := course_seq_ok.1 h₁
    obtain ⟨checked, _, _, rfl, hchecked, h₃⟩ := course_seq_ok.1 h₂
    obtain ⟨_, _, downloaded, rfl, hconfirm, hdownload⟩ := course_seq_ok.1 h₃
    obtain ⟨rfl, hv⟩ := course_ofExcept.1 hversion
    obtain rfl := course_confirm.1 hconfirm
    exact ⟨found, release, version, checked, downloaded, rfl, hfound, mapError_eq_ok.1 hv.symm,
      hchecked, hdownload⟩

theorem prepared_of_prepare {model : Model} {current : Option Version} {source : UpdateSource}
    {container : Container}
    (h : Course (prepare primitives settings model current source).run record (.ok container)) :
    Prepared primitives model current source record container := by
  cases source with
  | bytes data =>
      obtain ⟨hparsed, hpassed⟩ := course_openContainer_ok primitives h
      exact ⟨⟨data, rfl, hparsed⟩, ⟨container.version, rfl, .refl _, hpassed⟩⟩
  | file path =>
      obtain ⟨answer, rest, rfl, hrest⟩ := course_ask_seq.1 h
      cases answer with
      | error fault =>
          cases (course_throw.1 hrest).2
      | ok data =>
          obtain ⟨hparsed, hpassed⟩ := course_openContainer_ok primitives hrest
          exact ⟨⟨data, List.mem_cons_self, hparsed⟩,
            ⟨container.version, rfl, .refl _, hpassed.mono (List.subset_cons_self _ _)⟩⟩
  | release tag =>
      obtain ⟨found, release, version, checked, downloaded, rfl, hfound, hversion, hchecked,
        hdownload⟩ := course_prepareRelease_ok primitives settings h
      obtain ⟨⟨data, asset, progress, hmem, hparsed, hlevel⟩, -⟩ :=
        course_downloadContainer_ok primitives hdownload
      have hlooked := course_findRelease_ok hfound
      refine ⟨⟨data, ⟨asset, progress, by simp [hmem]⟩, hparsed⟩, ⟨version, ⟨release,
        hlooked.mono (by simp), hversion⟩, hlevel, ?_⟩⟩
      exact (passed_of_checkVersion hchecked).mono (by simp)

/-- A container is asked for at most once. -/
theorem supplies_of_prepare {model : Model} {current : Option Version} {source : UpdateSource}
    {container : Container}
    (h : Course (prepare primitives settings model current source).run record (.ok container)) :
    timesAsked Question.isSupply record ≤ 1 := by
  -- A container whose bytes are there is opened without asking anybody for bytes.
  have hopened : ∀ {data r},
      Course (openContainer primitives model current data).run r (.ok container) →
        timesAsked Question.isSupply r = 0 := by
    intro data r hr
    simp only [openContainer, course_seq_ok, course_parseContainer_ok, course_pure] at hr
    obtain ⟨_, c, _, rfl, ⟨rfl, -⟩, checked, _, _, rfl, hchecked, rfl, -⟩ := hr
    simpa using (WithinStep.checkVersion current c.version).timesAsked_eq_zero hchecked
      fun q hq => hq.inert.2.2.2
  cases source with
  | bytes data =>
      rw [hopened h]
      exact Nat.zero_le 1
  | file path =>
      obtain ⟨answer, rest, rfl, hrest⟩ := course_ask_seq.1 h
      cases answer with
      | error fault => cases (course_throw.1 hrest).2
      | ok data => simp [hopened hrest, Question.isSupply]
  | release tag =>
      obtain ⟨found, release, version, checked, downloaded, rfl, hfound, hversion, hchecked,
        hdownload⟩ := course_prepareRelease_ok primitives settings h
      have hnone : timesAsked Question.isSupply found = 0 := by
        cases tag with
        | some tag =>
            obtain ⟨answer, hanswer, -⟩ := course_map.1 hfound
            obtain rfl := course_query.1 hanswer
            rfl
        | none =>
            obtain ⟨answer, hanswer, -⟩ := course_map.1 hfound
            obtain rfl := course_query.1 hanswer
            rfl
      have hquiet := (WithinStep.checkVersion current version).timesAsked_eq_zero hchecked
        fun q hq => hq.inert.2.2.2
      have hone := (course_downloadContainer_ok primitives hdownload).2
      simp [hnone, hquiet, hone, accepted, Question.isSupply]

end Update
end Reflash
