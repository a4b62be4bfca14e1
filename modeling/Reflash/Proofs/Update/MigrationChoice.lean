import Reflash.Proofs.Update.FlashGate

/-!
# Update.MigrationChoice — which migrations an update goes by

The variant that the device names in its status decides on the migrations, and that of the
bootloader only if the device names none.

* `migrations_by_known_variant` — the notes, the check of the free blocks and the patience with the
  device all go by one set of migrations, that of the variant that decides;
* `migrations_of_other_variant` — a device that names another variant than its bootloader gets a set
  that is not that of the image.
-/

namespace Reflash
namespace Update

open Dialogue

/-- The variant that decides on the migrations. -/
def decidingVariant (target : UpdateTarget) (status : Option Status) (variant : Variant) :
    Variant :=
  (knownVariant? target status).getD variant

/-- All that an update says and does about migrations is about this set. -/
structure GoesBy (model : Model) (status : Option Status) (migrations : Migrations)
    (record : Record) : Prop where
  notes : ∀ lines, Asked record (.confirm (.notes lines)) ↔ lines = migrations.notes
  space : Asked record (.tell (.warning .fileSystemV2)) ↔
    migrations.fileSystemV2 ∧ lacksSpace status
  patience : ∀ m retries, Asked record (.awaitDevice m retries) →
    m = model ∧ retries = migrations.retries
  waits : Flashed record → Asked record (.awaitDevice model migrations.retries)

/-- What is known when a bootloader is given an image. -/
structure KnownAtFlash (primitives : Primitives) (target : UpdateTarget) (source : UpdateSource)
    (record : Record) (role : BootloaderRole) (current : Option Version) (status : Option Status)
    (container : Container) (variant : Variant) : Prop where
  reported : Reported target record current status
  current_unique : ∀ v, ReportedVersion record v → current = some v
  status_unique : ∀ st, ReportedStatus record st → status = some st
  parsed : ∃ data, Supplied source record data ∧
    (∀ other, Supplied source record other → other = data) ∧
    Container.parse primitives data target.model = .ok container
  met : Met target record role variant ∧ ∀ v, Met target record role v → v = variant

section

variable {primitives : Primitives} {settings : UpdateSettings} {target : UpdateTarget}
  {source : UpdateSource} {planning entering validating after record : Record} {p : Plan}
  {role : BootloaderRole} {variant : Variant} {image : Bytes} {migrations : Migrations}
  {answer : Progress × Except DeviceError Unit}

theorem Written.known
    (h : Written primitives settings target source planning entering validating after
    p role variant image migrations answer record) :
    KnownAtFlash primitives target source record role p.current p.status p.container variant := by
  obtain ⟨data, hdata, hparsed⟩ := h.prepared.parsed
  exact ⟨h.reported, h.learnt.1, h.learnt.2,
    ⟨data, hdata, fun other => h.supplied_unique hdata, hparsed⟩, h.met⟩

theorem Written.awaitDevice_eq (h : Written primitives settings target source planning entering
    validating after p role variant image migrations answer record) {m : Model} {retries : Nat}
    (hasked : Asked record (.awaitDevice m retries)) :
    m = target.model ∧ retries = migrations.retries := by
  obtain ⟨answer, hmem⟩ := asked_iff.1 hasked
  rcases h.mem_cases hmem with ⟨n, hn, -⟩ | hx | hx | hx | hx | hx
  · cases hn
  · have hfits := (WithinStep.plan primitives settings target source).asks h.admitted.plan _ hx
    cases hfits.of_versionCheck.1
  · cases (WithinStep.enterBootloader settings target).asks h.admitted.enter _ hx with
    | search hsearch => cases hsearch
  · cases (WithinStep.validateImage primitives settings target.model variant p).asks
      h.admitted.validate _ hx
  · cases hx
  · exact (h.aftermath _ hx).eq_of_awaitDevice

theorem Written.goesBy (h : Written primitives settings target source planning entering validating
    after p role variant image migrations answer record) :
    GoesBy target.model p.status migrations record := by
  obtain ⟨-, part, hsub, honly, hnoted⟩ := h.noted
  have hplace := List.Subset.trans hsub h.before_subset
  refine ⟨?_, ?_, fun m retries => h.awaitDevice_eq, ?_⟩
  · intro lines
    constructor
    · intro hasked
      obtain ⟨answer, hmem⟩ := asked_iff.1 hasked
      have hpart := honly _ hmem (.notes lines)
      rw [hnoted.shown] at hpart
      rcases List.mem_cons.1 hpart with hsame | hwarning
      · cases hsame
        rfl
      · split at hwarning
        · cases List.mem_singleton.1 hwarning
        · cases hwarning
    -- The notes were accepted, or else no image would have been written.
    · rintro rfl
      refine asked_iff.2 ⟨.ok (), hplace ?_⟩
      rw [hnoted.shown]
      exact List.mem_cons_self
  · constructor
    · intro hasked
      obtain ⟨answer, hmem⟩ := asked_iff.1 hasked
      have hpart := honly _ hmem .warning
      rw [hnoted.shown] at hpart
      rcases List.mem_cons.1 hpart with hsame | hwarning
      · cases hsame
      · split at hwarning
        next hneeded => exact hneeded
        next => cases hwarning
    · rintro ⟨hneeded, hlacks⟩
      obtain ⟨-, hmem⟩ := hnoted.heard hneeded hlacks
      exact asked_iff.2 ⟨(), hplace hmem⟩
  · rintro ⟨role', image', progress, hmem⟩
    obtain ⟨-, -, rfl⟩ := h.eq_of_mem hmem
    obtain ⟨x, hx, hq⟩ := h.waits rfl
    exact ⟨x, by simp [h.record_eq, hx], hq⟩

end

/-- Where the device and the bootloader do not disagree, the migrations are those of the image. -/
theorem migrations_by_known_variant {σ : Type} (primitives : Primitives) (u : Updater)
    (target : UpdateTarget) (source : UpdateSource) (w : Surroundings Question.Answer σ) (s : σ) :
    let record := ((u.update primitives target source).run w s).record
    ∀ role image, Asked record (.bootloader role (.update image)) →
      ∃ current status container variant,
        KnownAtFlash primitives target source record role current status container variant ∧
        GoesBy target.model status (Migrations.of target.model
          (decidingVariant target status variant) current container.version) record ∧
        ((∀ v, knownVariant? target status = some v → v = variant) →
          GoesBy target.model status
            (Migrations.of target.model variant current container.version) record) := by
  intro record role image hasked
  obtain ⟨result, hrun, -⟩ := runCourse_of_update u w s
  rcases hrun.flash_cases with ⟨hnone, -⟩ | ⟨_, _, _, _, p, _, variant, _, migrations, _, h, -⟩
  · exact absurd hasked (not_asked_of_timesAsked hnone rfl)
  · obtain ⟨rfl, rfl⟩ := h.eq_of_asked hasked
    have hgoes := h.goesBy
    have hof : migrations = Migrations.of target.model (decidingVariant target p.status variant)
        p.current p.container.version := h.noted.1
    refine ⟨p.current, p.status, p.container, variant, h.known, hof ▸ hgoes, ?_⟩
    intro hagree
    -- A bootloader that agrees with the device makes no difference to the migrations.
    have hvariant : decidingVariant target p.status variant = variant := by
      rw [decidingVariant]
      cases hknown : knownVariant? target p.status with
      | none => rfl
      | some v => exact hagree v hknown
    rw [hvariant] at hof
    exact hof ▸ hgoes

theorem migrations_by_known_variant_trial :
    Asked (Trial.Scene.run {}).record (.bootloader (.attempt 1) (.update [2])) ∧
      ∃ current status container variant,
        KnownAtFlash Trial.primitives (.device .nk3) (.bytes [0]) (Trial.Scene.run {}).record
          (.attempt 1) current status container variant ∧
        GoesBy .nk3 status
          (Migrations.of .nk3 (decidingVariant (.device .nk3) status variant) current
            container.version)
          (Trial.Scene.run {}).record := by
  have hasked : Asked (Trial.Scene.run {}).record (.bootloader (.attempt 1) (.update [2])) := by
    decide +kernel
  obtain ⟨current, status, container, variant, hknown, hgoes, -⟩ :=
    migrations_by_known_variant Trial.primitives Trial.updater (.device .nk3) (.bytes [0])
      (Trial.Scene.surroundings {}) () _ _ hasked
  exact ⟨hasked, current, status, container, variant, hknown, hgoes⟩

/-! ## A device and a bootloader of different variants -/

/-- Firmware 1.2.0 says that it runs on an LPC55, and an NRF52 bootloader answers. -/
def Trial.mixed : Trial.Scene where
  version := [0x00, 0x40, 0x00, 0x80]
  status := [0, 20, 0, 0, 1]

/-- The file system of the NRF52 will be migrated, but the operator is not told, and the device is
waited for as if nothing had to be done. -/
theorem migrations_of_other_variant :
    let release : Container := { version := ⟨1, 8, 2, none, none, true⟩, images := [(.nrf52, [2])] }
    let flashed := Migrations.of .nk3 .nrf52 (some (.ofPacked 0x400080)) release.version
    Container.parse Trial.primitives [0] .nk3 = .ok release ∧
      ReportedVersion Trial.mixed.run.record (.ofPacked 0x400080) ∧
      Met (.device .nk3) Trial.mixed.run.record (.attempt 1) .nrf52 ∧
      Asked Trial.mixed.run.record (.bootloader (.attempt 1) (.update [2])) ∧
      ¬ Asked Trial.mixed.run.record (.confirm (.notes flashed.notes)) ∧
      ¬ Asked Trial.mixed.run.record (.awaitDevice .nk3 flashed.retries) := by
  intro release flashed
  have hparsed : Container.parse Trial.primitives [0] .nk3 = .ok release := rfl
  have hreported : ⟨.device .initial Admin.versionCall, .ok Trial.mixed.version⟩ ∈
      Trial.mixed.run.record := List.mem_of_getElem? (i := 1) rfl
  have hmet : ⟨.awaitBootloader .nk3 1, .ok .nrf52⟩ ∈ Trial.mixed.run.record :=
    List.mem_of_getElem? (i := 11) rfl
  refine ⟨hparsed, ⟨_, hreported, rfl⟩, hmet, ?_, ?_, ?_⟩
  · decide +kernel
  · decide +kernel
  · decide +kernel

end Update
end Reflash
