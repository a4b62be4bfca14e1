import Reflash.Proofs.Dialogue.Detour
import Reflash.Proofs.Update.ReleasePolicy

/-!
# Update.SourceChoice — an update does not depend on where its container comes from

* `Forthcoming` — a repository that has the release and its container, and an operator who agrees to
  the download;
* `detour_prepare` — with these, getting the container from the release comes to the same as having
  it;
* `source_is_immaterial` — and so does the whole update.
-/

namespace Reflash
namespace Update

open Dialogue

/-- How offers turn out. -/
def Forthcoming (release : Release) (data : Bytes) : Exchange Question.Answer → Prop
  | ⟨.latestRelease, answer⟩ => answer = .ok release
  | ⟨.release _, answer⟩ => answer = .ok release
  | ⟨.download _, answer⟩ => answer.2 = .ok data
  | ⟨.confirm (.download _ _), answer⟩ => answer = .ok ()
  | _ => True

/-- The same failure, or downgrades whose new versions differ at most in their build texts. -/
inductive SameReason : UpdateError → UpdateError → Prop where
  | same (e : UpdateError) : SameReason e e
  | downgrade (current new : Version) (build : Option String) :
      SameReason (.downgrade current { new with build }) (.downgrade current new)

def SameFailure (f f' : UpdateFailure) : Prop :=
  f.step = f'.step ∧ SameReason f.error f'.error

theorem SameFailure.refl (f : UpdateFailure) : SameFailure f f :=
  ⟨rfl, .same f.error⟩

section

variable {σ : Type} {related : σ → σ → Prop} {w : Surroundings Question.Answer σ}
  {primitives : Primitives} {settings : UpdateSettings} {target : UpdateTarget}
  {tag : Option String} {release : Release} {data : Bytes} {container : Container}
  {version : Version} {occurs : String → Bool} {model : Model}

/-! ## The comparison of versions -/

theorem compareVersions_build (current : Option Version) (new : Version) (build : Option String) :
    Agree SameReason
      (compareVersions current { new with build }) (compareVersions current new) := by
  cases current with
  | none => exact .ok none
  | some current =>
      have hcore : ({ new with build } : Version).core = new.core := rfl
      have hlevel : current.Level { new with build } ↔ current.Level new := Iff.rfl
      simp only [compareVersions, hcore, hlevel]
      split
      · exact .error (.downgrade current new build)
      · exact .refl .same _

theorem detour_checkVersion (hw : Indifferent Question.isOffer related w)
    {expects : Exchange Question.Answer → Prop} (current : Option Version) (new : Version)
    (build : Option String) :
    Detour Question.isOffer related w expects (Agree SameReason)
      (checkVersion current { new with build }).run (checkVersion current new).run := by
  refine .seq (.done (compareVersions_build current new build)) fun same => ?_
  refine .same hw (.refl .same) ?_
  cases same with
  | none => exact .done _
  | some v => exact .query rfl

/-! ## The container -/

theorem leads_findRelease (tag : Option String) :
    LeadsTo (Forthcoming release data) (findRelease tag).run (.ok release) := by
  cases tag with
  | some tag =>
      refine .asking fun answer h => ?_
      obtain rfl : answer = .ok release := h
      rfl
  | none =>
      refine .asking fun answer h => ?_
      obtain rfl : answer = .ok release := h
      rfl

theorem asks_findRelease (tag : Option String) :
    Asks (fun q => q.isOffer) (findRelease tag).run := by
  cases tag with
  | some tag => exact .map (.query rfl)
  | none => exact .map (.query rfl)

theorem leads_downloadContainer
    (hparsed : Container.parse primitives data model = .ok container)
    (hlevel : version.Level container.version)
    (hpattern : primitives.pattern? model.assetPattern = some occurs)
    (honly : release.assets.countP occurs = 1) :
    LeadsTo (Forthcoming release data) (downloadContainer primitives model release version).run
      (.ok container) := by
  intro record result h hexpected
  obtain ⟨url, hasset⟩ := (Release.requireAsset_of_count (r := release) hpattern).2.1 honly
  cases course_downloadContainer h with
  | unmatched hnone =>
      rw [hasset] at hnone
      cases hnone
  | @fetched asset progress answer bars _ hasset' hbars hdelivered =>
      obtain rfl : answer = .ok data := hexpected ⟨.download asset, (progress, answer)⟩ (by simp)
      cases hdelivered with
      | unreadable hfailed =>
          rw [hparsed] at hfailed
          cases hfailed
      | otherVersion hparsed' hother =>
          rw [hparsed] at hparsed'
          cases hparsed'
          exact absurd hlevel hother
      | sameVersion hparsed' hlevel' =>
          rw [hparsed] at hparsed'
          cases hparsed'
          rfl

theorem asks_downloadContainer :
    Asks (fun q => q.isOffer) (downloadContainer primitives model release version).run := by
  intro record result h x hx
  cases course_downloadContainer h with
  | unmatched hnone => cases hx
  | fetched hasset hbars hdelivered =>
      simp only [List.mem_cons] at hx
      rcases hx with rfl | rfl | hx
      · rfl
      · rfl
      · exact Question.isOffer_of_isBar (hbars x hx)

theorem detour_prepare (hw : Indifferent Question.isOffer related w)
    (hrepository : settings.hasRepository = true)
    (hparsed : Container.parse primitives data model = .ok container)
    (htag : Version.parseTagged release.tag = .ok version)
    (hlevel : version.Level container.version)
    (hpattern : primitives.pattern? model.assetPattern = some occurs)
    (honly : release.assets.countP occurs = 1) (current : Option Version) :
    Detour Question.isOffer related w (Forthcoming release data) (Agree SameReason)
      (prepare primitives settings model current (.release tag)).run
      (prepare primitives settings model current (.bytes data)).run := by
  have hopened : prepare primitives settings model current (.bytes data) =
      checkVersion current container.version >>= fun _ => pure container := by
    rw [prepare, openContainer, parseContainer, hparsed]
    rfl
  have hfetched : prepare primitives settings model current (.release tag) =
      findRelease tag >>= fun release =>
        ExceptT.mk (pure (release.version.mapError (.badTag release.tag))) >>= fun version =>
          checkVersion current version >>= fun _ => confirm (.download current version) >>= fun _ =>
            downloadContainer primitives model release version := by
    rw [prepare]
    simp [hrepository]
  have htagged : release.version.mapError (UpdateError.badTag release.tag) = .ok version :=
    mapError_eq_ok.2 htag
  -- Both versions were read from texts, so that they differ at most in their build texts.
  have hversion := hlevel.eq_build (Version.complete_of_parseTagged htag)
    (Container.complete_of_parse hparsed)
  have hchecked : Detour Question.isOffer related w (Forthcoming release data) (Agree SameReason)
      (checkVersion current version).run (checkVersion current container.version).run := by
    rw [← hversion]
    exact detour_checkVersion hw current container.version version.build
  rw [hopened, hfetched]
  refine .aroundSeq hw (asks_findRelease tag) (leads_findRelease tag) ?_
  rw [htagged]
  refine .aroundSeq hw (.done _) (.ofExcept (.ok version)) ?_
  refine .seq hchecked fun _ => ?_
  refine .aroundSeq hw (.query rfl) (.query fun answer h => h) ?_
  exact .aside hw asks_downloadContainer
    (leads_downloadContainer hparsed hlevel hpattern honly) (.ok _)

/-! ## The version check -/

theorem detour_inStep {α : Type} {expects : Exchange Question.Answer → Prop} {step : UpdateStep}
    {m m' : StepM α} (hw : Indifferent Question.isOffer related w)
    (hm : Detour Question.isOffer related w expects (Agree SameReason) m.run m'.run) :
    Detour Question.isOffer related w expects (Agree SameFailure) (inStep step m).run
      (inStep step m').run := by
  refine .adapt (.seq (.same hw (.refl .same) ?_) fun _ => hm) fun e e' he => ⟨rfl, he⟩
  exact .map (.query rfl)

theorem detour_onFailure {α : Type} {expects : Exchange Question.Answer → Prop} {m m' : UpdateM α}
    {last : Dialogue Question.Answer Unit} (hw : Indifferent Question.isOffer related w)
    (hm : Detour Question.isOffer related w expects (Agree SameFailure) m.run m'.run)
    (hlast : Asks (fun q => q.isOffer = false) last) :
    Detour Question.isOffer related w expects (Agree SameFailure) (onFailure m last).run
      (onFailure m' last).run := by
  refine .bind hm fun x x' hx => ?_
  cases hx with
  | ok a => exact .done (.ok a)
  | error he =>
      refine .bind (.same hw (fun _ => rfl) hlast) fun u u' _ => ?_
      exact .done (.error he)

/-- Only the container is got in another way. -/
theorem detour_plan (hw : Indifferent Question.isOffer related w)
    (hprepare : ∀ current, Detour Question.isOffer related w (Forthcoming release data)
      (Agree SameReason) (prepare primitives settings target.model current (.release tag)).run
      (prepare primitives settings target.model current (.bytes data)).run) :
    Detour Question.isOffer related w (Forthcoming release data) (Agree SameReason)
      (plan primitives settings target (.release tag)).run
      (plan primitives settings target (.bytes data)).run := by
  rw [plan_eq, plan_eq]
  refine .seq (.same hw (.refl .same) fun _ _ => (WithinStep.survey_apart target).asks) ?_
  rintro ⟨current, status⟩
  refine .seq (hprepare current) fun container => .same hw (.refl .same) fun _ _ => ?_
  exact (WithinStep.conclude_apart target current status container).asks

theorem detour_planned (hw : Indifferent Question.isOffer related w)
    (hplan : Detour Question.isOffer related w (Forthcoming release data) (Agree SameReason)
      (plan primitives settings target (.release tag)).run
      (plan primitives settings target (.bytes data)).run) :
    Detour Question.isOffer related w (Forthcoming release data) (Agree SameFailure)
      (planned primitives settings target (.release tag)).run
      (planned primitives settings target (.bytes data)).run := by
  cases target with
  | device model =>
      exact detour_onFailure hw (detour_inStep hw hplan) (.bind (.query rfl) fun _ => .done ())
  | bootloader model variant => exact detour_inStep hw hplan

end

/-! ## The update -/

/-- The same end, or a downgrade that is told with another build text. -/
def SameEnd (a a' : Updater × Except UpdateError UpdateOutcome) : Prop :=
  a = a' ∨ ∃ current new build, a.2 = .error (.downgrade current { new with build }) ∧
    a'.2 = .error (.downgrade current new)

theorem sameEnd_of_agree {u : Updater} {x x' : Except UpdateFailure UpdateOutcome}
    (h : Agree SameFailure x x') :
    SameEnd ({ u with state := .after x }, x.mapError UpdateFailure.error)
      ({ u with state := .after x' }, x'.mapError UpdateFailure.error) := by
  cases h with
  | ok outcome => exact .inl rfl
  | @error f f' h =>
      obtain ⟨step, e⟩ := f
      obtain ⟨step', e'⟩ := f'
      obtain ⟨rfl, hreason⟩ : step = step' ∧ SameReason e e' := h
      cases hreason with
      | same => exact .inl rfl
      | downgrade current new build => exact .inr ⟨current, new, build, rfl, rfl⟩

/-- A release whose tag has the version of its container, and one asset that matches, comes to the
same as the container itself, as long as it can be had: the same end, the same questions apart from
the offers, and surroundings that are left alike. -/
theorem source_is_immaterial {σ : Type} (primitives : Primitives) (u : Updater)
    (target : UpdateTarget) (tag : Option String) (w : Surroundings Question.Answer σ)
    (related : σ → σ → Prop) (hw : Indifferent Question.isOffer related w) (s s' : σ)
    (hs : related s s') (hrepository : u.settings.hasRepository = true) (data : Bytes)
    (container : Container) (hparsed : Container.parse primitives data target.model = .ok container)
    (release : Release) (version : Version) (htag : Version.parseTagged release.tag = .ok version)
    (hlevel : version.Level container.version) (occurs : String → Bool)
    (hpattern : primitives.pattern? target.model.assetPattern = some occurs)
    (honly : release.assets.countP occurs = 1)
    (hoffers : ∀ x ∈ ((u.update primitives target (.release tag)).run w s).record,
      x.1.isOffer → Forthcoming release data x) :
    let released := (u.update primitives target (.release tag)).run w s
    let given := (u.update primitives target (.bytes data)).run w s'
    SameEnd released.result given.result ∧
      mainRecord Question.isOffer released.record = given.record ∧
      related released.state given.state := by
  have hdetour : Detour Question.isOffer related w (Forthcoming release data) SameEnd
      (u.update primitives target (.release tag)) (u.update primitives target (.bytes data)) := by
    rw [Updater.update, Updater.update, run_eq, run_eq]
    refine .bind (.seq (detour_planned hw (detour_plan hw ?_)) fun p => ?_) fun x x' hx => ?_
    · exact detour_prepare hw hrepository hparsed htag hlevel hpattern honly
    · exact .same hw (.refl .refl) ((asks_carryOut p).mono fun q hq => hq.not_offer)
    · exact .done (sameEnd_of_agree hx)
  obtain ⟨hresult, hrecord, hstate⟩ := hdetour hs hoffers
  exact ⟨hresult, hrecord, hstate⟩

/-- The release is looked up and its asset downloaded, and all the rest is as with the bytes at
hand. -/
theorem source_is_immaterial_trial :
    let released := Trial.released [Trial.address]
    let given := (Trial.buyer.update Trial.matching (.device .nk3) (.bytes [0])).run
      (Trial.publishing [Trial.address]) ()
    Asked released.record (.download ⟨"v1.8.2", Trial.address⟩) ∧
      (∀ x ∈ released.record, x.1.isOffer → Forthcoming ⟨"v1.8.2", [Trial.address]⟩ [0] x) ∧
      SameEnd released.result given.result ∧
      mainRecord Question.isOffer released.record = given.record := by
  intro released given
  have hw : Indifferent Question.isOffer (fun _ _ => True) (Trial.publishing [Trial.address]) :=
    ⟨fun _ _ _ => rfl, fun _ _ _ => trivial, fun _ _ _ => trivial⟩
  have hoffers : ∀ x ∈ released.record, x.1.isOffer →
      Forthcoming ⟨"v1.8.2", [Trial.address]⟩ [0] x := by
    rintro ⟨q, answer⟩ hx hoffer
    obtain ⟨_, hanswer⟩ := answer_of_mem_record hx
    cases q with
    | confirm c =>
        cases c with
        | download current new => exact hanswer.symm
        | _ => cases hoffer
    | download asset => exact (congrArg Prod.snd hanswer).symm
    | latestRelease | release tag => exact hanswer.symm
    | _ => trivial
  have hsame := source_is_immaterial Trial.matching Trial.buyer (.device .nk3) none
    (Trial.publishing [Trial.address]) (fun _ _ => True) hw () () trivial rfl [0]
    { version := { major := 1, minor := 8, patch := 2, complete := true },
      images := [(.nrf52, [2])] }
    (by rfl) ⟨"v1.8.2", [Trial.address]⟩ { major := 1, minor := 8, patch := 2, complete := true }
    (by rfl) (by decide) _ rfl (by decide) hoffers
  exact ⟨by decide +kernel, hoffers, hsame.1, hsame.2.1⟩

end Update
end Reflash
