import Reflash.Proofs.Container.Verified
import Reflash.Proofs.Update.FlashGate
import Reflash.Proofs.Update.Offers
import Reflash.Proofs.Version

/-!
# Update.ReleasePolicy — what is downloaded, and what it takes to go on with it

* `Release.requireAsset_eq` — the asset of a release is the only one that the pattern occurs in;
* `DownloadPermitted` — what is settled before a download;
* `release_policy` — an update from a release looks one up once and downloads at most once, with
  permission, and goes on only with a container of the version that was agreed to.
-/

namespace Reflash

/-! ## The asset -/

section

variable {primitives : Primitives} {r : Release} {pattern : String} {occurs : String → Bool}
  {asset : Asset}

theorem Release.requireAsset_eq (h : primitives.pattern? pattern = some occurs) :
    r.requireAsset primitives pattern =
      match r.assets.filter occurs with
      | [] => .error (.noMatch r.tag pattern)
      | [url] => .ok ⟨r.tag, url⟩
      | _ => .error (.ambiguous r.tag pattern) := by
  rw [requireAsset, findAsset, h]
  dsimp only
  generalize r.assets.filter occurs = found
  match found with
  | [] => rfl
  | [url] => rfl
  | url :: other :: rest => rfl

theorem Release.only_of_requireAsset (h : r.requireAsset primitives pattern = .ok asset) :
    ∃ occurs, primitives.pattern? pattern = some occurs ∧ r.assets.filter occurs = [asset.url] ∧
      asset.tag = r.tag := by
  cases hpattern : primitives.pattern? pattern with
  | none =>
      simp [requireAsset, findAsset, hpattern, Result.error_bind] at h
  | some occurs =>
      rw [requireAsset_eq hpattern] at h
      split at h
      next => cases h
      next url hurl =>
        cases h
        exact ⟨occurs, rfl, hurl, rfl⟩
      next => cases h

/-- How many assets match decides, and not where they stand. -/
theorem Release.requireAsset_of_count (h : primitives.pattern? pattern = some occurs) :
    (r.assets.countP occurs = 0 →
        r.requireAsset primitives pattern = .error (.noMatch r.tag pattern)) ∧
      (r.assets.countP occurs = 1 → ∃ url, r.requireAsset primitives pattern = .ok ⟨r.tag, url⟩) ∧
      (2 ≤ r.assets.countP occurs →
        r.requireAsset primitives pattern = .error (.ambiguous r.tag pattern)) := by
  rw [requireAsset_eq h, List.countP_eq_length_filter]
  match r.assets.filter occurs with
  | [] => simp
  | [url] => simp
  | url :: other :: rest => simp

end

theorem Container.complete_of_parse {primitives : Primitives} {data : Bytes} {model : Model}
    {container : Container} (h : Container.parse primitives data model = .ok container) :
    container.version.complete = true := by
  obtain ⟨archive, checksums, manifest, -, hverified⟩ := Container.parse_eq_ok_iff.1 h
  exact Version.complete_of_parseTagged hverified.version

namespace Update

open Dialogue

section

variable {primitives : Primitives} {settings : UpdateSettings} {target : UpdateTarget}
  {tag : Option String} {current : Option Version} {model : Model} {record : Record}

/-! ## At most once -/

theorem Question.parts_of_not_offer {q : Question} (h : q.isOffer = false) :
    q.isLookUp = false ∧ q.isDownload = false := by
  cases q with
  | _ => simp_all [isOffer, isLookUp, isDownload]

theorem DownloadCourse.counts {release : Release} {version : Version}
    {result : Except UpdateError Container}
    (h : DownloadCourse primitives model release version record result) :
    timesAsked Question.isLookUp record = 0 ∧ timesAsked Question.isDownload record ≤ 1 := by
  cases h with
  | unmatched hasset => exact ⟨rfl, Nat.zero_le 1⟩
  | @fetched asset progress answer bars _ hasset hbars hdelivered =>
      have hquiet : ∀ x ∈ bars, x.1.isLookUp = false ∧ x.1.isDownload = false := by
        intro x hx
        obtain ⟨n, hn⟩ := Question.tell_of_isBar (hbars x hx)
        rw [hn]
        exact ⟨rfl, rfl⟩
      simp [timesAsked_eq_zero fun x hx => (hquiet x hx).1,
        timesAsked_eq_zero fun x hx => (hquiet x hx).2, told, Question.isLookUp,
        Question.isDownload]

theorem counts_of_findRelease {result : Except UpdateError Release}
    (h : Course (findRelease tag).run record result) :
    timesAsked Question.isLookUp record = 1 ∧ timesAsked Question.isDownload record = 0 := by
  obtain ⟨⟨q, answer⟩, rfl, hlook, -⟩ := course_findRelease h
  cases q with
  | latestRelease => exact ⟨rfl, rfl⟩
  | release t => exact ⟨rfl, rfl⟩
  | _ => cases hlook

theorem counts_of_checkVersion {version : Version} {result : Except UpdateError Unit}
    (h : Course (checkVersion current version).run record result) :
    timesAsked Question.isLookUp record = 0 ∧ timesAsked Question.isDownload record = 0 := by
  have hquiet : ∀ x ∈ record, x.1.isLookUp = false ∧ x.1.isDownload = false := by
    intro x hx
    obtain ⟨same, hsame⟩ := course_checkVersion h x hx
    rw [hsame]
    exact ⟨rfl, rfl⟩
  exact ⟨timesAsked_eq_zero fun x hx => (hquiet x hx).1,
    timesAsked_eq_zero fun x hx => (hquiet x hx).2⟩

theorem ReleaseCourse.counts {result : Except UpdateError Container}
    (h : ReleaseCourse primitives settings model current tag record result) :
    timesAsked Question.isLookUp record ≤ 1 ∧ timesAsked Question.isDownload record ≤ 1 := by
  cases h with
  | unconfigured hnone => simp
  | unfound hfind => simp [counts_of_findRelease hfind]
  | untagged hfind hversion => simp [counts_of_findRelease hfind]
  | unpassed hfind hversion hcheck =>
      simp [counts_of_findRelease hfind, counts_of_checkVersion hcheck]
  | declined hfind hversion hcheck =>
      simp [counts_of_findRelease hfind, counts_of_checkVersion hcheck, refused, Question.isLookUp,
        Question.isDownload]
  | agreed hfind hversion hcheck hdownload =>
      simp [counts_of_findRelease hfind, counts_of_checkVersion hcheck, hdownload.counts, accepted,
        Question.isLookUp, Question.isDownload]

theorem counts_of_run {result : Except UpdateFailure UpdateOutcome}
    (h : Course (run primitives settings target (.release tag)).run record result) :
    timesAsked Question.isLookUp record ≤ 1 ∧ timesAsked Question.isDownload record ≤ 1 := by
  have hnone : ∀ {part : Record}, (∀ x ∈ part, x.1.isOffer = false) →
      timesAsked Question.isLookUp part = 0 ∧ timesAsked Question.isDownload part = 0 :=
    fun hpart => ⟨timesAsked_eq_zero fun x hx => (Question.parts_of_not_offer (hpart x hx)).1,
      timesAsked_eq_zero fun x hx => (Question.parts_of_not_offer (hpart x hx)).2⟩
  rcases preparing_cases h with hrecord |
    ⟨surveying, preparing, later, current, status, prepared, rfl, hsurvey, hprepare, hlater, -⟩
  · simp [hnone hrecord]
  · have hsurveyed := hnone ((WithinStep.survey_apart target).asks hsurvey)
    simpa [hsurveyed, hnone hlater, told, Question.isLookUp, Question.isDownload]
      using (course_prepareRelease hprepare).counts

/-! ## Only with consent -/

/-- Nothing is downloaded, and no consent to a download was given, unless the whole policy was gone
through. -/
theorem ReleaseCourse.agreed_of_mem {result : Except UpdateError Container}
    {x : Exchange Question.Answer}
    (h : ReleaseCourse primitives settings model current tag record result) (hx : x ∈ record)
    (hagreed : x.1.isDownload ∨ ∃ c v, x = accepted (.download c v)) :
    ∃ finding checking downloading release version,
      record = finding ++ (checking ++ accepted (.download current version) :: downloading) ∧
      LookedUp tag finding release ∧ release.version = .ok version ∧
      Passed current version checking ∧
      DownloadCourse primitives model release version downloading result ∧
      (x.1.isDownload → x ∈ downloading) := by
  have hnoFind : ∀ {finding : Record} {found : Except UpdateError Release},
      Course (findRelease tag).run finding found → x ∉ finding := by
    intro finding found hfind hx
    obtain ⟨y, rfl, hlook, -⟩ := course_findRelease hfind
    obtain rfl := List.mem_singleton.1 hx
    rcases hagreed with hdownload | ⟨c, v, rfl⟩
    · cases hq : x.1 <;> simp_all [Question.isLookUp, Question.isDownload]
    · cases hlook
  have hnoCheck : ∀ {checking : Record} {version : Version} {checked : Except UpdateError Unit},
      Course (checkVersion current version).run checking checked → x ∉ checking := by
    intro checking version checked hcheck hx
    obtain ⟨same, hsame⟩ := course_checkVersion hcheck x hx
    rcases hagreed with hdownload | ⟨c, v, rfl⟩
    · rw [hsame] at hdownload
      cases hdownload
    · cases hsame
  cases h with
  | unconfigured hnone => cases hx
  | unfound hfind => exact absurd hx (hnoFind hfind)
  | untagged hfind hversion => exact absurd hx (hnoFind hfind)
  | unpassed hfind hversion hcheck =>
      rcases List.mem_append.1 hx with hx | hx
      · exact absurd hx (hnoFind hfind)
      · exact absurd hx (hnoCheck hcheck)
  | declined hfind hversion hcheck =>
      simp only [List.mem_append, hnoFind hfind, hnoCheck hcheck, false_or,
        List.mem_singleton] at hx
      obtain rfl := hx
      rcases hagreed with hdownload | ⟨c, v, hsame⟩
      · cases hdownload
      · cases hsame
  | @agreed finding checking downloading release version _ hfind hversion hcheck hdownload =>
      obtain ⟨y, -, -, hlooked⟩ := course_findRelease hfind
      refine ⟨finding, checking, downloading, release, version, rfl, hlooked release rfl, hversion,
        passed_of_checkVersion hcheck, hdownload, fun hasked => ?_⟩
      simp only [List.mem_append, hnoFind hfind, hnoCheck hcheck, false_or, List.mem_cons] at hx
      rcases hx with rfl | hx
      · cases hasked
      · exact hx

theorem LookedUp.unique {release release' : Release}
    (honce : timesAsked Question.isLookUp record ≤ 1) (h : LookedUp tag record release)
    (h' : LookedUp tag record release') : release = release' := by
  cases tag with
  | some tag =>
      cases eq_of_timesAsked_le_one honce h h' rfl rfl
      rfl
  | none =>
      cases eq_of_timesAsked_le_one honce h h' rfl rfl
      rfl

/-- What is settled when an asset is downloaded. -/
structure DownloadPermitted (primitives : Primitives) (target : UpdateTarget) (tag : Option String)
    (before : Record) (asset : Asset) (current : Option Version) (release : Release)
    (version : Version) : Prop where
  reported : ∃ status, Reported target before current status
  found : LookedUp tag before release
  tagged : Version.parseTagged release.tag = .ok version
  passed : Passed current version before
  notOlder : ∀ v, current = some v → v.rank ≤ version.rank
  agreed : accepted (.download current version) ∈ before
  /-- It is the only asset of the release in which the pattern occurs. -/
  only : ∃ occurs, primitives.pattern? target.model.assetPattern = some occurs ∧
    release.assets.filter occurs = [asset.url]
  named : asset.tag = release.tag

/-- An exchange about a release is one of the preparation. -/
theorem mem_preparing {surveying preparing later : Record} {x : Exchange Question.Answer}
    (hsurveying : ∀ y ∈ surveying, y.1.isOffer = false) (hlater : ∀ y ∈ later, y.1.isOffer = false)
    (hx : x ∈ told (.enter .versionCheck) :: (surveying ++ (preparing ++ later)))
    (hoffer : x.1.isOffer) : x ∈ preparing := by
  simp only [List.mem_cons, List.mem_append] at hx
  rcases hx with rfl | hx | hx | hx
  · cases hoffer
  · rw [hsurveying x hx] at hoffer
    cases hoffer
  · exact hx
  · rw [hlater x hx] at hoffer
    cases hoffer

theorem permitted_of_download {before after : Record} {asset : Asset} {progress : Progress}
    {answer : Except ReleaseError Bytes} {result : Except UpdateFailure UpdateOutcome}
    (h : Course (run primitives settings target (.release tag)).run record result)
    (hsplit : record = before ++ ⟨.download asset, (progress, answer)⟩ :: after) :
    ∃ current release version delivered,
      DownloadPermitted primitives target tag before asset current release version ∧
      Delivered primitives target.model asset version answer delivered ∧
      ∀ e, delivered = .error e → result = .error ⟨.versionCheck, e⟩ ∧
        ∀ x ∈ after, x.1.isBar .download ∨ x.1.isClose := by
  have honce := (counts_of_run h).2
  have hx : ⟨.download asset, (progress, answer)⟩ ∈ record := by simp [hsplit]
  rcases preparing_cases h with hrecord |
    ⟨surveying, preparing, later, current, status, prepared, hrecord, hsurvey, hprepare, hlater,
      hfails⟩
  · cases hrecord _ hx
  rw [hrecord] at hx
  have hx := mem_preparing ((WithinStep.survey_apart target).asks hsurvey) hlater hx rfl
  obtain ⟨finding, checking, downloading, release, version, rfl, hlooked, hversion, hpassed,
    hdownload, hmem⟩ := (course_prepareRelease hprepare).agreed_of_mem hx (.inl rfl)
  cases hdownload with
  | unmatched hasset => cases hmem rfl
  | @fetched asset' progress' answer' bars _ hasset hbars hdelivered =>
      -- There is one download, so that the place that was asked about is the one that is known.
      have hplace : before ++ ⟨.download asset, (progress, answer)⟩ :: after =
          (told (.enter .versionCheck) :: (surveying ++ (finding ++ (checking ++
            [accepted (.download current version),
              told (.barStart .download (some asset'.tag))])))) ++
            ⟨.download asset', (progress', answer')⟩ :: (bars ++ later) := by
        rw [← hsplit, hrecord]
        simp
      rw [hsplit] at honce
      obtain ⟨rfl, hx, rfl⟩ := split_unique hplace honce rfl rfl
      cases hx
      obtain ⟨occurs, hpattern, honly, hnamed⟩ := Release.only_of_requireAsset hasset
      refine ⟨current, release, version, prepared, ?_, hdelivered, ?_⟩
      · refine ⟨⟨status, (reported_of_survey settings hsurvey).mono ?_⟩, hlooked.mono ?_, hversion,
          hpassed.mono ?_, ?_, by simp, ⟨occurs, hpattern, honly⟩, hnamed⟩
        · intro y hy
          simp [hy]
        · intro y hy
          simp [hy]
        · intro y hy
          simp [hy]
        · rintro v rfl
          obtain ⟨same, hsame⟩ := hpassed.compared
          exact rank_le_of_compareVersions hsame
      · intro e he
        refine ⟨(hfails e he).1, fun y hy => ?_⟩
        rcases List.mem_append.1 hy with hy | hy
        · exact .inl (hbars y hy)
        · exact .inr ((hfails e he).2 y hy)

/-- Where consent to a download was given, the assets of the release decide. -/
theorem failure_of_assets {result : Except UpdateFailure UpdateOutcome} {release : Release}
    {agreedCurrent : Option Version} {agreedVersion : Version} {e : ReleaseError}
    (h : Course (run primitives settings target (.release tag)).run record result)
    (hlooked : LookedUp tag record release)
    (hagreed : accepted (.download agreedCurrent agreedVersion) ∈ record)
    (hasset : release.requireAsset primitives target.model.assetPattern = .error e) :
    result = .error ⟨.versionCheck, .release (.findAsset release.tag) e⟩ := by
  have honce := (counts_of_run h).1
  rcases preparing_cases h with hrecord |
    ⟨surveying, preparing, later, current, status, prepared, rfl, hsurvey, hprepare, hlater, hfails⟩
  · cases hrecord _ hagreed
  have hx := mem_preparing ((WithinStep.survey_apart target).asks hsurvey) hlater hagreed rfl
  obtain ⟨finding, checking, downloading, release', version, rfl, hlooked', hversion, hpassed,
    hdownload, -⟩ := (course_prepareRelease hprepare).agreed_of_mem hx (.inr ⟨_, _, rfl⟩)
  obtain rfl : release = release' :=
    LookedUp.unique honce hlooked (hlooked'.mono fun y hy => by simp [hy])
  cases hdownload with
  | unmatched hasset' =>
      rw [hasset] at hasset'
      cases hasset'
      exact (hfails _ rfl).1
  | fetched hasset' hbars hdelivered =>
      rw [hasset] at hasset'
      cases hasset'

end

/-! ## The policy -/

/-- At most one release is looked up and at most one asset downloaded, whatever the repository
answers.  A download is permitted by the version of the tag, and either the update ends with it or
the container has that version; consent to a download of none or of several assets that match ends
the update. -/
theorem release_policy {σ : Type} (primitives : Primitives) (u : Updater) (target : UpdateTarget)
    (tag : Option String) (w : Surroundings Question.Answer σ) (s : σ) :
    let record := ((u.update primitives target (.release tag)).run w s).record
    let result := ((u.update primitives target (.release tag)).run w s).result.2
    timesAsked Question.isLookUp record ≤ 1 ∧ timesAsked Question.isDownload record ≤ 1 ∧
      (∀ before asset progress answer after,
        record = before ++ ⟨.download asset, (progress, answer)⟩ :: after →
          ∃ current release version,
            DownloadPermitted primitives target tag before asset current release version ∧
            ((∃ e, Delivered primitives target.model asset version answer (.error e) ∧
                result = .error e ∧ ∀ x ∈ after, x.1.isBar .download ∨ x.1.isClose) ∨
              ∃ data container, answer = .ok data ∧
                Container.parse primitives data target.model = .ok container ∧
                version.triple = container.version.triple ∧
                version.pre = container.version.pre)) ∧
      ∀ occurs release current version,
        primitives.pattern? target.model.assetPattern = some occurs → LookedUp tag record release →
        accepted (.download current version) ∈ record →
          (release.assets.countP occurs = 0 → result = .error (.release (.findAsset release.tag)
              (.noMatch release.tag target.model.assetPattern))) ∧
          (2 ≤ release.assets.countP occurs → result = .error (.release (.findAsset release.tag)
              (.ambiguous release.tag target.model.assetPattern))) := by
  intro record result
  obtain ⟨answer, hrun, hresult⟩ := course_of_update u w s
  have hresult : result = answer.mapError UpdateFailure.error := congrArg Prod.snd hresult
  obtain ⟨hlookUps, hdownloads⟩ := counts_of_run hrun
  refine ⟨hlookUps, hdownloads, ?_, ?_⟩
  · intro before asset progress answer after hsplit
    obtain ⟨current, release, version, delivered, hpermitted, hdelivered, hfails⟩ :=
      permitted_of_download hrun hsplit
    refine ⟨current, release, version, hpermitted, ?_⟩
    cases delivered with
    | error e =>
        obtain ⟨rfl, hafter⟩ := hfails e rfl
        exact .inl ⟨e, hdelivered, hresult, hafter⟩
    | ok container =>
        cases hdelivered with
        | @sameVersion data _ hparsed hlevel =>
            have hpre := hlevel.pre_eq (Version.complete_of_parseTagged hpermitted.tagged)
              (Container.complete_of_parse hparsed)
            exact .inr ⟨data, container, rfl, hparsed, hlevel.1, hpre⟩
  · intro occurs release current version hpattern hlooked hagreed
    obtain ⟨hnone, -, hseveral⟩ := Release.requireAsset_of_count (r := release) hpattern
    constructor
    · intro hcount
      have hfailed := failure_of_assets hrun hlooked hagreed (hnone hcount)
      rw [hresult, hfailed]
      rfl
    · intro hcount
      have hfailed := failure_of_assets hrun hlooked hagreed (hseveral hcount)
      rw [hresult, hfailed]
      rfl

namespace Trial

def address : String := "https://example.com/firmware-nk3-v1.8.2.zip"

/-- The pattern occurs in one address. -/
def matching : Primitives :=
  { primitives with pattern? := fun _ => some fun url => url = address }

def buyer : Updater where
  settings := { updater.settings with hasRepository := true }

/-- Everybody agrees, and there is one release, with these assets. -/
def publishing (assets : List String) : Surroundings Question.Answer Unit := fun s q =>
  match q with
  | .latestRelease => (.ok ⟨"v1.8.2", assets⟩, s)
  | .release _ => (.ok ⟨"v1.8.2", assets⟩, s)
  | q => (Scene.answer {} q, s)

def released (assets : List String) :
    Outcome Question.Answer Unit (Updater × Except UpdateError UpdateOutcome) :=
  (buyer.update matching (.device .nk3) (.release none)).run (publishing assets) ()

end Trial

/-- An asset is downloaded, with permission, if it is the only one that matches. -/
theorem release_policy_trial :
    (∃ before asset answer after current release version,
      (Trial.released [Trial.address, "other"]).record =
        before ++ ⟨.download asset, answer⟩ :: after ∧
        DownloadPermitted Trial.matching (.device .nk3) none before asset current release version) ∧
      (Trial.released [Trial.address, "other", Trial.address]).result.2 =
        .error
          (.release (.findAsset "v1.8.2") (.ambiguous "v1.8.2" (Model.assetPattern .nk3))) := by
  constructor
  · have hasked : Asked (Trial.released [Trial.address, "other"]).record
        (.download ⟨"v1.8.2", Trial.address⟩) := by
      decide +kernel
    obtain ⟨⟨progress, answer⟩, hmem⟩ := asked_iff.1 hasked
    obtain ⟨before, after, hsplit⟩ := List.append_of_mem hmem
    have hpolicy := release_policy Trial.matching Trial.buyer (.device .nk3) none
      (Trial.publishing [Trial.address, "other"]) ()
    obtain ⟨current, release, version, hpermitted, -⟩ :=
      hpolicy.2.2.1 before _ progress answer after hsplit
    exact ⟨before, _, _, after, current, release, version, hsplit, hpermitted⟩
  · have hlooked : Asked (Trial.released [Trial.address, "other", Trial.address]).record
        .latestRelease := by
      decide +kernel
    have hagreed : Asked (Trial.released [Trial.address, "other", Trial.address]).record
        (.confirm (.download (some { major := 1, minor := 7, patch := 0 })
          { major := 1, minor := 8, patch := 2, complete := true })) := by
      decide +kernel
    obtain ⟨found, hfound⟩ := asked_iff.1 hlooked
    obtain ⟨_, hrelease⟩ := answer_of_mem_record hfound
    obtain rfl : .ok ⟨"v1.8.2", [Trial.address, "other", Trial.address]⟩ = found := hrelease
    obtain ⟨answer, hanswer⟩ := asked_iff.1 hagreed
    obtain ⟨_, haccepted⟩ := answer_of_mem_record hanswer
    obtain rfl : .ok () = answer := haccepted
    have hpolicy := release_policy Trial.matching Trial.buyer (.device .nk3) none
      (Trial.publishing [Trial.address, "other", Trial.address]) ()
    exact (hpolicy.2.2.2 _ ⟨"v1.8.2", _⟩ _ _ rfl hfound hanswer).2 (by decide)

end Update
end Reflash
