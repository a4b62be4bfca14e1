import Reflash.Proofs.Update.Written

/-!
# Update.FlashGate — which images reach a bootloader

* `FlashPermitted` — all that is known of an image that a bootloader was given;
* `flash_gate` — a run writes at most one image, and only a permitted one, whatever the surroundings
  do and whatever the primitives are.
-/

namespace Reflash
namespace Update

open Dialogue

structure FlashPermitted (primitives : Primitives) (settings : UpdateSettings)
    (target : UpdateTarget) (source : UpdateSource) (record : Record) (role : BootloaderRole)
    (image : Bytes) (variant : Variant) (container : Container) (info : ImageInfo) : Prop where
  /-- The bootloader is of this variant and of no other. -/
  met : Met target record role variant ∧ ∀ v, Met target record role v → v = variant
  /-- The container is read from the bytes that the source gave, which gave no others. -/
  parsed : ∃ data, Supplied source record data ∧
    (∀ other, Supplied source record other → other = data) ∧
    Container.parse primitives data target.model = .ok container
  held : container.image? variant = some image
  validated : Image.validate primitives variant image container.version
    (anchors settings target.model) = .ok info
  official : info.isOfficial
  sameNumbers : info.version.triple = container.version.triple
  notOlder : ∀ v, ReportedVersion record v → v.rank ≤ info.version.rank

/-- The installed version is compared with that of the tag or the container, this one with that of
the container, and that one with the image's. -/
theorem Prepared.rank_le {primitives : Primitives} {model : Model} {v : Version}
    {source : UpdateSource} {record : Record} {container : Container}
    (h : Prepared primitives model (some v) source record container) :
    v.rank ≤ container.version.rank := by
  obtain ⟨compared, -, hlevel, hpassed⟩ := h.passed
  obtain ⟨same, hsame⟩ := hpassed.compared
  calc
    v.rank ≤ compared.rank := rank_le_of_compareVersions hsame
    _ = container.version.rank := hlevel.rank_eq

theorem flash_gate {σ : Type} (primitives : Primitives) (u : Updater) (target : UpdateTarget)
    (source : UpdateSource) (w : Surroundings Question.Answer σ) (s : σ) :
    let record := ((u.update primitives target source).run w s).record
    timesAsked Question.isFlash record ≤ 1 ∧
      ∀ role image, Asked record (.bootloader role (.update image)) →
        ∃ variant container info,
          FlashPermitted primitives u.settings target source record role image variant container
            info := by
  intro record
  obtain ⟨result, hrun, -⟩ := runCourse_of_update u w s
  rcases hrun.flash_cases with ⟨hnone, -⟩ | ⟨_, _, _, _, p, role, variant, image, _, _, h, -⟩
  · refine ⟨hnone.le.trans (Nat.zero_le 1), ?_⟩
    intro role image hasked
    exact absurd hasked (not_asked_of_timesAsked hnone rfl)
  · refine ⟨h.flash_once.le, ?_⟩
    intro role' image' hasked
    obtain ⟨rfl, rfl⟩ := h.eq_of_asked hasked
    have hchecked := course_validateImage_ok primitives u.settings h.admitted.validate
    obtain ⟨info, hinfo⟩ := hchecked.official
    obtain ⟨data, hdata, hparsed⟩ := h.prepared.parsed
    have hnumbers := Image.triple_of_validate hinfo
    refine ⟨variant, p.container, info, h.met, ?_, hchecked.held, hinfo, ?_, hnumbers, ?_⟩
    · exact ⟨data, hdata, fun other => h.supplied_unique hdata, hparsed⟩
    · exact (Image.validate_eq_ok_iff.1 hinfo).2.2.2
    · intro v hv
      -- The installed version is the one that the comparison was made with.
      have hprepared := h.prepared
      rw [h.learnt.1 v hv] at hprepared
      rw [Version.rank_eq_iff.2 hnumbers]
      exact hprepared.rank_le

/-! ## A run that writes an image -/

namespace Trial

def container : Archive :=
  .ofList [("sha256sums", .ok (Bytes.ofText "01  manifest.json\n02  image.zip\n")),
    ("manifest.json", .ok [1]), ("image.zip", .ok [2])]

def package : Archive :=
  .ofList [("manifest.json", .ok []), ("packet", .ok []), ("binary", .ok [3])]

/-- Firmware 1.8.2, with a binary of one byte. -/
def packet : Dfu.Packet where
  signedCommand := some { command := some { init := some {
    version := some 0x400202, appSize := some 1, hash := some { digest := some [3] } } } }

/-- Bytes are their own hash, every signature of a package counts, and two byte strings are
archives. -/
def primitives : Primitives :=
  { Primitives.standard with
    hash := fun data => data
    packageVerifies := fun _ _ _ => true
    archive? := fun data =>
      if data = [0] then some container else if data = [2] then some package else none
    containerManifest := fun _ => .ok
      { device := "Nitrokey 3", version := "v1.8.2", images := [("nrf52", "image.zip")] }
    packageManifest := fun _ => .ok { application := some (some "packet", some "binary") }
    packet? := fun _ => some packet }

def updater : Updater where
  settings := { anchors := some { keySets :=
    [{ start := { major := 0, minor := 0, patch := 0 }, keys := [⟨"Nitrokey", true, ⟨1, 1⟩⟩] }] } }

/-- A device that tells a version and a status, what it tells when it comes back, and an operator
who does not agree to everything. -/
structure Scene where
  version : Bytes := [0x00, 0x40, 0x01, 0xC0]
  status : Bytes := [0, 20, 0, 0, 2]
  returned : Bytes := [0x00, 0x40, 0x02, 0x02]
  refuses : Confirmation → Bool := fun _ => false

def Scene.reply (scene : Scene) (role : DeviceRole) : (call : Call) → call.Answer
  | .send (.direct code _ _) _ =>
      if code = AdminCommand.version.code then
        .ok (match role with | .initial => scene.version | .returned => scene.returned)
      else .ok []
  | .send (.app _ _) _ => .ok scene.status
  | .wink | .close => .ok ()

def Scene.answer (scene : Scene) : (q : Question) → q.Answer
  | .tell _ => ()
  | .confirm c => if scene.refuses c then .error .aborted else .ok ()
  | .device role call => scene.reply role call
  | .bootloader _ .uuid => .ok none
  | .bootloader _ (.update _) => ([], .ok ())
  | .bootloader _ .reboot => .ok true
  | .bootloader _ .close => .ok ()
  | .awaitBootloader .. => .ok .nrf52
  | .awaitDevice .. => ([], .ok ())
  | .latestRelease | .release _ => .error (.notFound "")
  | .download _ => ([], .ok [0])
  | .readFile _ => .ok [0]

def Scene.surroundings (scene : Scene) : Surroundings Question.Answer Unit :=
  fun s q => (scene.answer q, s)

def Scene.run (scene : Scene) :
    Outcome Question.Answer Unit (Updater × Except UpdateError UpdateOutcome) :=
  (updater.update primitives (.device .nk3) (.bytes [0])).run scene.surroundings ()

end Trial

theorem flash_gate_trial :
    Asked (Trial.Scene.run {}).record (.bootloader (.attempt 1) (.update [2])) ∧
      ∃ variant container info,
        FlashPermitted Trial.primitives Trial.updater.settings (.device .nk3) (.bytes [0])
          (Trial.Scene.run {}).record (.attempt 1) [2] variant container info := by
  have hasked : Asked (Trial.Scene.run {}).record (.bootloader (.attempt 1) (.update [2])) := by
    decide +kernel
  have hgate := flash_gate Trial.primitives Trial.updater (.device .nk3) (.bytes [0])
    (Trial.Scene.surroundings {}) ()
  exact ⟨hasked, hgate.2 _ _ hasked⟩

end Update
end Reflash
