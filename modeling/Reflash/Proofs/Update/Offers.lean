import Reflash.Proofs.Update.Stages

/-!
# Update.Offers — getting a container from a release

* `Question.isOffer` — what an update asks only if it gets its container from a release;
* `DownloadCourse`, `ReleaseCourse` — how far getting a container from a release gets, with all that
  is asked on the way;
* `preparing_cases` — nowhere else does an update ask such questions.
-/

namespace Reflash
namespace Update

open Dialogue

/-! ## Questions about releases -/

namespace Question

/-- A release is looked up. -/
def isLookUp : Question → Bool
  | .latestRelease => true
  | .release _ => true
  | _ => false

def isDownload : Question → Bool
  | .download _ => true
  | _ => false

/-- Releases are looked up and downloaded, with the operator's consent and a progress bar. -/
def isOffer (q : Question) : Bool :=
  match q with
  | .confirm (.download ..) => true
  | q => q.isLookUp || q.isDownload || q.isBar .download

variable {q : Question} {step : UpdateStep}

theorem isOffer_of_isBar (h : q.isBar .download) : q.isOffer := by
  obtain ⟨n, rfl⟩ := tell_of_isBar h
  simp [isOffer, h]

theorem not_offer_of_isBar {bar : Bar} (h : q.isBar bar) (hbar : bar ≠ .download) :
    q.isOffer = false := by
  cases q with
  | tell n =>
      cases n with
      | barStart b label => simp_all [isOffer, isLookUp, isDownload, isBar]
      | barProgress b current total => simp_all [isOffer, isLookUp, isDownload, isBar]
      | barFinish b => simp_all [isOffer, isLookUp, isDownload, isBar]
      | _ => rfl
  | _ => cases h

theorem IsMigrationTalk.not_offer (h : q.IsMigrationTalk) : q.isOffer = false := by
  cases h with
  | _ => rfl

theorem IsReturn.not_offer {model : Model} {retries : Nat} (h : q.IsReturn model retries) :
    q.isOffer = false := by
  cases h with
  | bar h => exact not_offer_of_isBar h (by decide)
  | _ => rfl

theorem Follows.not_offer (h : q.Follows) : q.isOffer = false := by
  cases h with
  | enter step => rfl
  | closeBootloader role => rfl
  | fits h hstep =>
      cases h with
      | version | status | inquiry | migration => exact absurd rfl hstep
      | search h =>
          cases h with
          | _ => rfl
      | lateMigration h => exact h.not_offer
      | bar h => exact not_offer_of_isBar h (by decide)
      | returning h => exact h.not_offer
      | _ => rfl

end Question

/-! ## Looking up and downloading -/

variable (primitives : Primitives) (settings : UpdateSettings) {record : Record}

/-- What becomes of the answer to a download. -/
inductive Delivered (model : Model) (asset : Asset) (version : Version) :
    Except ReleaseError Bytes → Except UpdateError Container → Prop where
  | failed (e : ReleaseError) :
      Delivered model asset version (.error e) (.error (.release (.download asset.tag) e))
  | unreadable {data : Bytes} {e : ContainerError}
      (hparsed : Container.parse primitives data model = .error e) :
      Delivered model asset version (.ok data) (.error (.container (some asset.tag) e))
  | otherVersion {data : Bytes} {container : Container}
      (hparsed : Container.parse primitives data model = .ok container)
      (hother : ¬ version.Level container.version) :
      Delivered model asset version (.ok data) (.error (.tagMismatch asset.tag container.version))
  | sameVersion {data : Bytes} {container : Container}
      (hparsed : Container.parse primitives data model = .ok container)
      (hlevel : version.Level container.version) :
      Delivered model asset version (.ok data) (.ok container)

inductive DownloadCourse (model : Model) (release : Release) (version : Version) :
    Record → Except UpdateError Container → Prop where
  | unmatched {e : ReleaseError}
      (hasset : release.requireAsset primitives model.assetPattern = .error e) :
      DownloadCourse model release version [] (.error (.release (.findAsset release.tag) e))
  | fetched {asset : Asset} {progress : Progress} {answer : Except ReleaseError Bytes}
      {bars : Record} {result : Except UpdateError Container}
      (hasset : release.requireAsset primitives model.assetPattern = .ok asset)
      (hbars : ∀ x ∈ bars, x.1.isBar .download)
      (hdelivered : Delivered primitives model asset version answer result) :
      DownloadCourse model release version
        (told (.barStart .download (some asset.tag)) ::
          ⟨.download asset, (progress, answer)⟩ :: bars) result

inductive ReleaseCourse (model : Model) (current : Option Version) (tag : Option String) :
    Record → Except UpdateError Container → Prop where
  | unconfigured (h : settings.hasRepository = false) :
      ReleaseCourse model current tag [] (.error (.noRepository model))
  | unfound {finding : Record} {e : UpdateError}
      (hfind : Course (findRelease tag).run finding (.error e)) :
      ReleaseCourse model current tag finding (.error e)
  | untagged {finding : Record} {release : Release} {cause : VersionError}
      (hfind : Course (findRelease tag).run finding (.ok release))
      (hversion : release.version = .error cause) :
      ReleaseCourse model current tag finding (.error (.badTag release.tag cause))
  | unpassed {finding checking : Record} {release : Release} {version : Version} {e : UpdateError}
      (hfind : Course (findRelease tag).run finding (.ok release))
      (hversion : release.version = .ok version)
      (hcheck : Course (checkVersion current version).run checking (.error e)) :
      ReleaseCourse model current tag (finding ++ checking) (.error e)
  | declined {finding checking : Record} {release : Release} {version : Version} {e : UpdateError}
      (hfind : Course (findRelease tag).run finding (.ok release))
      (hversion : release.version = .ok version)
      (hcheck : Course (checkVersion current version).run checking (.ok ())) :
      ReleaseCourse model current tag
        (finding ++ (checking ++ [refused (.download current version) e])) (.error e)
  | agreed {finding checking downloading : Record} {release : Release} {version : Version}
      {result : Except UpdateError Container}
      (hfind : Course (findRelease tag).run finding (.ok release))
      (hversion : release.version = .ok version)
      (hcheck : Course (checkVersion current version).run checking (.ok ()))
      (hdownload : DownloadCourse primitives model release version downloading result) :
      ReleaseCourse model current tag
        (finding ++ (checking ++ accepted (.download current version) :: downloading)) result

variable {primitives settings}

theorem course_findRelease {tag : Option String} {result : Except UpdateError Release}
    (h : Course (findRelease tag).run record result) :
    ∃ x : Exchange Question.Answer, record = [x] ∧ x.1.isLookUp ∧
      ∀ release, result = .ok release → LookedUp tag record release := by
  cases tag with
  | some tag =>
      obtain ⟨answer, hanswer, -⟩ := course_map.1 h
      obtain rfl := course_query.1 hanswer
      exact ⟨_, rfl, rfl, fun release hrelease => course_findRelease_ok (hrelease ▸ h)⟩
  | none =>
      obtain ⟨answer, hanswer, -⟩ := course_map.1 h
      obtain rfl := course_query.1 hanswer
      exact ⟨_, rfl, rfl, fun release hrelease => course_findRelease_ok (hrelease ▸ h)⟩

theorem course_checkVersion {current : Option Version} {new : Version}
    {result : Except UpdateError Unit} (h : Course (checkVersion current new).run record result) :
    ∀ x ∈ record, ∃ same, x.1 = .confirm (.sameVersion same) := by
  rw [checkVersion] at h
  rcases course_seq.1 h with ⟨e, hcompared, -⟩ | ⟨_, same, rest, rfl, hcompared, hrest⟩
  · rw [(course_ofExcept.1 hcompared).1]
    simp
  · rw [(course_ofExcept.1 hcompared).1]
    cases same with
    | none =>
        rw [(course_pure.1 hrest).1]
        simp
    | some v =>
        rw [course_confirm.1 hrest]
        simp

theorem course_downloadContainer {model : Model} {release : Release} {version : Version}
    {result : Except UpdateError Container}
    (h : Course (downloadContainer primitives model release version).run record result) :
    DownloadCourse primitives model release version record result := by
  rcases course_seq.1 h with ⟨e, hasset, rfl⟩ | ⟨_, asset, _, rfl, hasset, h₁⟩
  · obtain ⟨rfl, he⟩ := course_ofExcept.1 hasset
    obtain ⟨cause, hcause, rfl⟩ := mapError_eq_error.1 he.symm
    exact .unmatched hcause
  obtain ⟨rfl, hx⟩ := course_ofExcept.1 hasset
  have hasset := mapError_eq_ok.1 hx.symm
  rcases course_seq.1 h₁ with ⟨e, hfetch, rfl⟩ | ⟨fetching, data, _, rfl, hfetch, h₂⟩
  · obtain ⟨progress, answer, bars, rfl, hbars, he⟩ := course_downloadAsset hfetch
    obtain ⟨cause, rfl, rfl⟩ := mapError_eq_error.1 he.symm
    exact .fetched hasset hbars (.failed cause)
  obtain ⟨progress, answer, bars, rfl, hbars, hdata⟩ := course_downloadAsset hfetch
  obtain rfl := mapError_eq_ok.1 hdata.symm
  have hdelivered {rest : Record}
      (h : Course (parseContainer primitives model (some asset.tag) data >>= fun container =>
        if version.Level container.version then pure container
        else throw (.tagMismatch asset.tag container.version)).run rest result) :
      rest = [] ∧ Delivered primitives model asset version (.ok data) result := by
    rcases course_seq.1 h with ⟨e, hparse, rfl⟩ | ⟨_, container, _, rfl, hparse, hrest⟩
    · obtain ⟨rfl, he⟩ := course_ofExcept.1 hparse
      obtain ⟨cause, hparsed, rfl⟩ := mapError_eq_error.1 he.symm
      exact ⟨rfl, .unreadable hparsed⟩
    · obtain ⟨rfl, hparsed⟩ := (course_parseContainer_ok primitives).1 hparse
      split at hrest
      next hlevel =>
        obtain ⟨rfl, rfl⟩ := course_pure.1 hrest
        exact ⟨rfl, .sameVersion hparsed hlevel⟩
      next hother =>
        obtain ⟨rfl, rfl⟩ := course_throw.1 hrest
        exact ⟨rfl, .otherVersion hparsed hother⟩
  obtain ⟨rfl, hdelivered⟩ := hdelivered h₂
  simpa using DownloadCourse.fetched hasset hbars hdelivered

theorem course_prepareRelease {model : Model} {current : Option Version} {tag : Option String}
    {result : Except UpdateError Container}
    (h : Course (prepare primitives settings model current (.release tag)).run record result) :
    ReleaseCourse primitives settings model current tag record result := by
  rw [prepare] at h
  split at h
  next hnone =>
    rcases course_seq.1 h with ⟨e, hthrow, rfl⟩ | ⟨_, _, _, -, hthrow, -⟩
    · obtain ⟨rfl, he⟩ := course_throw.1 hthrow
      cases he
      exact .unconfigured (by simpa using hnone)
    · cases (course_throw.1 hthrow).2
  rcases course_seq.1 h with ⟨e, hfind, rfl⟩ | ⟨finding, release, _, rfl, hfind, h₁⟩
  · exact .unfound hfind
  rcases course_seq.1 h₁ with ⟨e, hversion, rfl⟩ | ⟨_, version, _, rfl, hversion, h₂⟩
  · obtain ⟨rfl, he⟩ := course_ofExcept.1 hversion
    obtain ⟨cause, hcause, rfl⟩ := mapError_eq_error.1 he.symm
    simpa using ReleaseCourse.untagged hfind hcause
  obtain ⟨rfl, hx⟩ := course_ofExcept.1 hversion
  have hversion := mapError_eq_ok.1 hx.symm
  rcases course_seq.1 h₂ with ⟨e, hcheck, rfl⟩ | ⟨checking, _, _, rfl, hcheck, h₃⟩
  · exact .unpassed hfind hversion hcheck
  rcases course_seq.1 h₃ with ⟨e, hconfirm, rfl⟩ | ⟨_, _, downloading, rfl, hconfirm, h₄⟩
  · obtain rfl := course_confirm.1 hconfirm
    exact .declined hfind hversion hcheck
  · obtain rfl := course_confirm.1 hconfirm
    exact .agreed hfind hversion hcheck (course_downloadContainer h₄)

/-! ## Where releases are dealt with -/

theorem WithinStep.survey_apart (target : UpdateTarget) :
    WithinStep (fun q => q.isOffer = false) .versionCheck (Update.survey settings target) := by
  cases target with
  | device model =>
      refine .seq ?_ fun version => .seq ?_ fun status => .pure _
      · exact .withDevice Admin.run_version rfl fun _ => rfl
      · exact .withDevice Admin.run_status rfl fun _ => rfl
  | bootloader model variant =>
      exact .seq (.raise rfl (.inl rfl)) fun _ => .pure _

theorem WithinStep.checkStatus_apart (model : Model) (status : Option Status) (new : Version) :
    WithinStep (fun q => q.isOffer = false) .versionCheck
      (Update.checkStatus settings model status new) := by
  rw [Update.checkStatus]
  split
  · exact .raise rfl (.inl rfl)
  · exact .pure ()

theorem WithinStep.checkRequirements_apart (container : Container) (config : UpdateConfig) :
    WithinStep (fun q => q.isOffer = false) .versionCheck
      (Update.checkRequirements container config) := by
  rw [Update.checkRequirements]
  split
  · split
    · exact .raise rfl (.inl rfl)
    · exact .pure ()
  · split
    · split
      · exact .confirm rfl
      · exact .throw rfl
    · exact .pure ()
  · exact .pure ()

theorem WithinStep.conclude_apart (target : UpdateTarget) (current : Option Version)
    (status : Option Status) (container : Container) :
    WithinStep (fun q => q.isOffer = false) .versionCheck
      (conclude settings target current status container) := by
  refine .seq (.checkStatus_apart _ _ _) fun _ => .seq (.checkRequirements_apart _ _) fun _ =>
    .seq (.confirm rfl) fun _ => .seq (.knownVariant target status) fun variant => ?_
  cases variant with
  | none =>
      exact .seq (.pure _) fun _ => .pure _
  | some v =>
      refine .seq (.map (.mono ?_ fun _ => Question.IsMigrationTalk.not_offer)) fun _ => .pure _
      exact .checkMigrations _ v current _ status (.inl rfl)

variable {target : UpdateTarget} {source : UpdateSource}

/-- Only the preparation deals with releases.  If it fails, so does the update, and all that is left
is to let go of the device. -/
theorem preparing_cases {result : Except UpdateFailure UpdateOutcome}
    (h : Course (run primitives settings target source).run record result) :
    (∀ x ∈ record, x.1.isOffer = false) ∨
      ∃ surveying preparing later current status prepared,
        record = told (.enter .versionCheck) :: (surveying ++ (preparing ++ later)) ∧
        Course (survey settings target).run surveying (.ok (current, status)) ∧
        Course (prepare primitives settings target.model current source).run preparing prepared ∧
        (∀ x ∈ later, x.1.isOffer = false) ∧
        ∀ e, prepared = .error e → result = .error ⟨.versionCheck, e⟩ ∧
          ∀ x ∈ later, x.1.isClose := by
  have hclosings : ∀ {closing : Record}, (∀ x ∈ closing, x.1 = .device .initial .close) →
      ∀ x ∈ closing, x.1.isOffer = false ∧ x.1.isClose := by
    intro closing hclosing x hx
    rw [hclosing x hx]
    exact ⟨rfl, rfl⟩
  rcases course_stages h with ⟨planning, closing, e, rfl, rfl, hplan, hclosing⟩ |
    ⟨planning, following, p, rfl, hplan, hfollowing⟩
  · cases planCourse_of_plan hplan with
    | unknown hsurvey =>
        refine .inl fun x hx => ?_
        rcases List.mem_cons.1 hx with rfl | hx
        · rfl
        rcases List.mem_append.1 hx with hx | hx
        · exact (WithinStep.survey_apart target).asks hsurvey x hx
        · exact (hclosings hclosing x hx).1
    | unprepared hsurvey hprepare =>
        refine .inr ⟨_, _, closing, _, _, _, by simp, hsurvey, hprepare, ?_, ?_⟩
        · exact fun x hx => (hclosings hclosing x hx).1
        · rintro e ⟨⟩
          exact ⟨rfl, fun x hx => (hclosings hclosing x hx).2⟩
    | concluded hsurvey hprepare hconclude =>
        refine .inr ⟨_, _, _ ++ closing, _, _, _, by simp; rfl, hsurvey, hprepare, ?_, ?_⟩
        · intro x hx
          rcases List.mem_append.1 hx with hx | hx
          · exact (WithinStep.conclude_apart target _ _ _).asks hconclude x hx
          · exact (hclosings hclosing x hx).1
        · rintro e ⟨⟩
  · cases planCourse_of_plan hplan with
    | concluded hsurvey hprepare hconclude =>
        refine .inr ⟨_, _, _ ++ following, _, _, _, by simp; rfl, hsurvey, hprepare, ?_, ?_⟩
        · intro x hx
          rcases List.mem_append.1 hx with hx | hx
          · exact (WithinStep.conclude_apart target _ _ _).asks hconclude x hx
          · exact (asks_carryOut p hfollowing x hx).not_offer
        · rintro e ⟨⟩

end Update
end Reflash
