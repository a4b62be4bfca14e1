import Mathlib.Data.List.Nodup
import Reflash.Container.Parse
import Reflash.Proofs.Container.Checksums

/-!
# Container.Verified — what stands in an accepted container

* `Model.IsCalled` — what a manifest may call the model that a container is for;
* `Container.Genuine` — an entry that has the checksum listed for it;
* `Container.Verified` — all that is asked of a container, and what it holds;
* `Container.parse_exactly_verified` — the containers that are read, and on which of their entries
  it depends.
-/

namespace Reflash

/-! ## Names of models -/

namespace Model

variable {m m' : Model} {s : String}

/-- The full name of a model, or its short name in any case. -/
def IsCalled (m : Model) (s : String) : Prop :=
  s = m.name ∨ lowerAscii s = lowerAscii m.shortName

theorem isCalled_iff :
    (m.name = s || lowerAscii m.shortName = lowerAscii s) ↔ m.IsCalled s := by
  rw [Bool.or_eq_true, decide_eq_true_eq, decide_eq_true_eq, IsCalled]
  exact or_congr eq_comm eq_comm

/-- No two models are called the same. -/
theorem eq_of_isCalled (h : m.IsCalled s) (h' : m'.IsCalled s) : m = m' := by
  have hfull : ∀ a b : Model, a.name = b.name → a = b := by
    intro a b
    cases a <;> cases b <;> decide
  have hshort : ∀ a b : Model, lowerAscii a.shortName = lowerAscii b.shortName → a = b := by
    intro a b
    cases a <;> cases b <;> decide
  -- No full name is a short name, whatever the case.
  have hmixed : ∀ a b : Model, lowerAscii a.name ≠ lowerAscii b.shortName := by
    intro a b
    cases a <;> cases b <;> decide
  rcases h with rfl | h
  · rcases h' with h' | h'
    · exact hfull m m' h'
    · exact absurd h' (hmixed m m')
  · rcases h' with rfl | h'
    · exact absurd h (hmixed m' m)
    · exact hshort m m' (h.symm.trans h')

theorem ofText_eq_ok_iff : ofText s = .ok m ↔ m.IsCalled s := by
  rw [ofText]
  split
  next found hfound =>
    have hcalled : found.IsCalled s := by
      have hmatch := List.find?_some hfound
      exact isCalled_iff.1 hmatch
    constructor
    · rintro ⟨⟩
      exact hcalled
    · intro h
      rw [eq_of_isCalled hcalled h]
  next hnone =>
    have hmem : m ∈ all := by cases m <;> decide
    have huncalled : ¬ m.IsCalled s := fun h =>
      List.find?_eq_none.1 hnone m hmem (isCalled_iff.2 h)
    exact iff_of_false nofun huncalled

/-- A text that no model is called by is what the failure tells. -/
theorem ofText_eq_error_iff {e : ModelError} :
    ofText s = .error e ↔ (∀ m : Model, ¬ m.IsCalled s) ∧ e = .unknownModel s := by
  cases h : ofText s with
  | ok m =>
      refine iff_of_false nofun ?_
      rintro ⟨hnone, -⟩
      exact hnone m (ofText_eq_ok_iff.1 h)
  | error fault =>
      have hfault : fault = .unknownModel s := by
        rw [ofText] at h
        split at h
        · cases h
        · exact (Except.error.inj h).symm
      have hnone : ∀ m : Model, ¬ m.IsCalled s := by
        intro m hm
        rw [ofText_eq_ok_iff.2 hm] at h
        cases h
      simp [hfault, hnone, eq_comm]

end Model

namespace Container

section

variable {primitives : Primitives} {archive archive' : Archive} {checksums checksums' : Checksums}
  {manifest manifest' : ContainerManifest} {model model' : Model} {c c' : Container}
  {name : String} {data data' : Bytes}

/-- An entry that is there and has the checksum listed for it. -/
structure Genuine (primitives : Primitives) (archive : Archive) (checksums : Checksums)
    (name : String) (data : Bytes) : Prop where
  present : archive name = .ok data
  listed : ∃ checksum, checksums.Listed name checksum ∧
    Checksums.Matches primitives.hash checksum data

structure Verified (primitives : Primitives) (archive : Archive) (model : Model)
    (checksums : Checksums) (manifest : ContainerManifest) (c : Container) : Prop where
  sums : ∃ data text, archive checksumsName = .ok data ∧ Utf8.decode data = .ok text ∧
    List.Forall₂ Checksums.IsLine (Text.lines text.toList) checksums
  described : ∃ data, Genuine primitives archive checksums manifestName data ∧
    primitives.containerManifest data = .ok manifest
  device : Model.ofText manifest.device = .ok model
  version : Version.parseTagged manifest.version = .ok c.version
  client : Option.Rel (fun text v => Version.parseTagged text = .ok v) manifest.client c.client
  sdk : Option.Rel (fun text v => Version.parseTagged text = .ok v) manifest.sdk c.sdk
  images : List.Forall₂ (fun listed held => Variant.ofText listed.1 = .ok held.1 ∧
    Genuine primitives archive checksums listed.2 held.2) manifest.images c.images

/-! ## Steps of the reading -/

theorem entry_eq_ok : entry archive name = .ok data ↔ archive name = .ok data := by
  rw [entry]
  cases archive name with
  | ok found => simp
  | error fault => simp

theorem checkedEntry_eq_ok :
    checkedEntry primitives archive checksums name = .ok data ↔
      Genuine primitives archive checksums name data := by
  rw [checkedEntry, Result.bind_eq_ok]
  constructor
  · rintro ⟨found, hentry, hrest⟩
    obtain ⟨_, hcheck, hpure⟩ := Result.bind_eq_ok.1 hrest
    obtain rfl := Result.pure_eq_ok.1 hpure
    exact ⟨entry_eq_ok.1 hentry, Checksums.check_eq_ok_iff.1 hcheck⟩
  · rintro ⟨hentry, hlisted⟩
    exact ⟨data, entry_eq_ok.2 hentry,
      Result.bind_eq_ok.2 ⟨(), Checksums.check_eq_ok_iff.2 hlisted, rfl⟩⟩

theorem readChecksums_eq_ok :
    readChecksums archive = .ok checksums ↔
      ∃ data text, archive checksumsName = .ok data ∧ Utf8.decode data = .ok text ∧
        List.Forall₂ Checksums.IsLine (Text.lines text.toList) checksums := by
  rw [readChecksums, Result.bind_eq_ok]
  constructor
  · rintro ⟨data, hentry, hrest⟩
    cases hparse : Checksums.parse data with
    | error fault => simp [hparse] at hrest
    | ok parsed =>
        simp only [hparse] at hrest
        obtain rfl := Result.pure_eq_ok.1 hrest
        obtain ⟨text, htext, hlines⟩ := Checksums.parse_eq_ok_iff.1 hparse
        exact ⟨data, text, entry_eq_ok.1 hentry, htext, hlines⟩
  · rintro ⟨data, text, hentry, htext, hlines⟩
    have hparse := Checksums.parse_eq_ok_iff.2 ⟨text, htext, hlines⟩
    refine ⟨data, entry_eq_ok.2 hentry, ?_⟩
    simp only [hparse]
    rfl

theorem readManifest_eq_ok :
    readManifest primitives archive checksums = .ok manifest ↔
      ∃ data, Genuine primitives archive checksums manifestName data ∧
        primitives.containerManifest data = .ok manifest := by
  rw [readManifest, Result.bind_eq_ok]
  constructor
  · rintro ⟨data, hentry, hrest⟩
    cases hdecode : primitives.containerManifest data with
    | error fault => simp [hdecode] at hrest
    | ok decoded =>
        simp only [hdecode] at hrest
        obtain rfl := Result.pure_eq_ok.1 hrest
        exact ⟨data, checkedEntry_eq_ok.1 hentry, hdecode⟩
  · rintro ⟨data, hentry, hdecode⟩
    refine ⟨data, checkedEntry_eq_ok.2 hentry, ?_⟩
    simp only [hdecode]
    rfl

theorem checkModel_eq_ok {device : String} :
    checkModel model device = .ok () ↔ Model.ofText device = .ok model := by
  rw [checkModel]
  cases Model.ofText device with
  | error e => simp
  | ok m => by_cases h : m = model <;> simp [h]

theorem readVersion_eq_ok {text : String} {v : Version} :
    readVersion text = .ok v ↔ Version.parseTagged text = .ok v := by
  rw [readVersion]
  cases Version.parseTagged text with
  | error e => simp
  | ok parsed => simp

theorem readImage_eq_ok {listed : String × String} {held : Variant × Bytes} :
    readImage primitives archive checksums listed = .ok held ↔
      Variant.ofText listed.1 = .ok held.1 ∧
        Genuine primitives archive checksums listed.2 held.2 := by
  rw [readImage, Result.bind_eq_ok]
  constructor
  · rintro ⟨data, hentry, hrest⟩
    cases hvariant : Variant.ofText listed.1 with
    | error e => simp [hvariant] at hrest
    | ok v =>
        simp only [hvariant] at hrest
        obtain rfl := Result.pure_eq_ok.1 hrest
        exact ⟨rfl, checkedEntry_eq_ok.1 hentry⟩
  · rintro ⟨hvariant, hentry⟩
    refine ⟨held.2, checkedEntry_eq_ok.2 hentry, ?_⟩
    simp only [hvariant]
    rfl

theorem ofArchive_eq_ok :
    ofArchive primitives archive model = .ok c ↔
      ∃ checksums manifest, Verified primitives archive model checksums manifest c := by
  rw [ofArchive, Result.bind_eq_ok]
  constructor
  · rintro ⟨checksums, hchecksums, h⟩
    obtain ⟨manifest, hmanifest, h⟩ := Result.bind_eq_ok.1 h
    obtain ⟨_, hdevice, h⟩ := Result.bind_eq_ok.1 h
    obtain ⟨version, hversion, h⟩ := Result.bind_eq_ok.1 h
    obtain ⟨client, hclient, h⟩ := Result.bind_eq_ok.1 h
    obtain ⟨sdk, hsdk, h⟩ := Result.bind_eq_ok.1 h
    obtain ⟨images, himages, h⟩ := Result.bind_eq_ok.1 h
    obtain rfl := Result.pure_eq_ok.1 h
    simp only [Result.option_mapM_eq_ok, Result.mapM_eq_ok, readVersion_eq_ok, readImage_eq_ok]
      at hversion hclient hsdk himages
    exact ⟨checksums, manifest, readChecksums_eq_ok.1 hchecksums, readManifest_eq_ok.1 hmanifest,
      checkModel_eq_ok.1 hdevice, hversion, hclient, hsdk, himages⟩
  · rintro ⟨checksums, manifest, hsums, hdescribed, hdevice, hversion, hclient, hsdk, himages⟩
    have hclient' : manifest.client.mapM readVersion = .ok c.client := by
      simpa only [Result.option_mapM_eq_ok, readVersion_eq_ok] using hclient
    have hsdk' : manifest.sdk.mapM readVersion = .ok c.sdk := by
      simpa only [Result.option_mapM_eq_ok, readVersion_eq_ok] using hsdk
    have himages' : manifest.images.mapM (readImage primitives archive checksums) =
        .ok c.images := by
      simpa only [Result.mapM_eq_ok, readImage_eq_ok] using himages
    refine ⟨checksums, readChecksums_eq_ok.2 hsums, ?_⟩
    rw [readManifest_eq_ok.2 hdescribed, Result.ok_bind, checkModel_eq_ok.2 hdevice, Result.ok_bind,
      readVersion_eq_ok.2 hversion, Result.ok_bind, hclient', Result.ok_bind, hsdk', Result.ok_bind,
      himages']
    rfl

theorem parse_eq_ok_iff :
    parse primitives data model = .ok c ↔
      ∃ archive checksums manifest, primitives.archive? data = some archive ∧
        Verified primitives archive model checksums manifest c := by
  rw [parse]
  cases primitives.archive? data with
  | none => simp
  | some archive =>
      constructor
      · intro h
        obtain ⟨checksums, manifest, hverified⟩ := ofArchive_eq_ok.1 h
        exact ⟨archive, checksums, manifest, rfl, hverified⟩
      · rintro ⟨other, checksums, manifest, harchive, hverified⟩
        obtain rfl := Option.some.inj harchive
        exact ofArchive_eq_ok.2 ⟨checksums, manifest, hverified⟩

/-! ## The images of a container -/

theorem variant_ofText_eq_ok {v : Variant} : Variant.ofText name = .ok v ↔ name = v.text := by
  rw [Variant.ofText]
  constructor
  · intro h
    cases hfind : Variant.all.find? (·.text = name) with
    | none => simp [hfind] at h
    | some found =>
        simp only [hfind] at h
        obtain rfl := Except.ok.inj h
        simpa [eq_comm] using List.find?_some hfind
  · rintro rfl
    cases v with
    | lpc55 => rfl
    | nrf52 => rfl

namespace Verified

/-- A container holds an image for each variant that the manifest names. -/
theorem names (h : Verified primitives archive model checksums manifest c) :
    manifest.images.map (·.1) = c.images.map (·.1.text) := by
  rw [← List.forall₂_eq_eq_eq, List.forall₂_map_left_iff, List.forall₂_map_right_iff]
  exact h.images.imp fun _ _ himage => variant_ofText_eq_ok.1 himage.1

theorem nodup_images (h : Verified primitives archive model checksums manifest c) :
    (c.images.map (·.1)).Nodup := by
  have hnames : (manifest.images.map (·.1)).Nodup := by
    rw [List.nodup_iff_pairwise_ne, List.pairwise_map]
    refine manifest.images_inNameOrder.imp ?_
    intro a b hbefore hsame
    rw [hsame] at hbefore
    exact String.lt_irrefl _ hbefore
  have htexts : (c.images.map (·.1)).map Variant.text = manifest.images.map (·.1) := by
    rw [List.map_map, h.names]
    rfl
  -- Two images of one variant would have been listed under one name.
  exact List.Nodup.of_map Variant.text (htexts ▸ hnames)

theorem image?_eq_some_iff_mem (h : Verified primitives archive model checksums manifest c)
    {v : Variant} : c.image? v = some data ↔ (v, data) ∈ c.images := by
  rw [image?, List.lookup_eq_some_iff]
  constructor
  · rintro ⟨before, after, himages, -⟩
    rw [himages]
    exact List.mem_append_right before List.mem_cons_self
  · intro hmem
    -- The image is the first one of its variant because there is no other.
    obtain ⟨before, after, himages⟩ := List.append_of_mem hmem
    refine ⟨before, after, himages, ?_⟩
    intro other hother
    have hnodup := h.nodup_images
    rw [himages, List.map_append, List.nodup_append] at hnodup
    exact bne_iff_ne.2 fun hsame =>
      hnodup.2.2 other.1 (List.mem_map_of_mem hother) v List.mem_cons_self hsame.symm

theorem image?_eq_some_iff (h : Verified primitives archive model checksums manifest c)
    {v : Variant} :
    c.image? v = some data ↔
      ∃ path, (v.text, path) ∈ manifest.images ∧ archive path = .ok data := by
  rw [h.image?_eq_some_iff_mem]
  constructor
  · intro hmem
    obtain ⟨⟨text, path⟩, hlisted, hvariant, hgenuine⟩ := Lists.exists_of_mem_right h.images hmem
    obtain rfl := variant_ofText_eq_ok.1 hvariant
    exact ⟨path, hlisted, hgenuine.present⟩
  · rintro ⟨path, hlisted, hentry⟩
    obtain ⟨⟨v', data'⟩, hmem, hvariant, hgenuine⟩ := Lists.exists_of_mem_left h.images hlisted
    obtain rfl := Except.ok.inj ((variant_ofText_eq_ok.2 rfl).symm.trans hvariant)
    obtain rfl := Except.ok.inj (hentry.symm.trans hgenuine.present)
    exact hmem

/-- What is listed and described goes by the archive alone. -/
theorem unique (h : Verified primitives archive model checksums manifest c)
    (h' : Verified primitives archive model' checksums' manifest' c') :
    checksums' = checksums ∧ manifest' = manifest := by
  have hsums := readChecksums_eq_ok.2 h.sums
  have hsums' := readChecksums_eq_ok.2 h'.sums
  obtain rfl := Except.ok.inj (hsums.symm.trans hsums')
  have hmanifest := readManifest_eq_ok.2 h.described
  have hmanifest' := readManifest_eq_ok.2 h'.described
  exact ⟨rfl, Except.ok.inj (hmanifest'.symm.trans hmanifest)⟩

end Verified

/-! ## The entries that a result depends on -/

/-- Two archives have the same entries, as far as containers are read. -/
structure SameParts (primitives : Primitives) (archive archive' : Archive) : Prop where
  sums : archive' checksumsName = archive checksumsName
  described : archive' manifestName = archive manifestName
  images : ∀ data manifest, archive manifestName = .ok data →
    primitives.containerManifest data = .ok manifest →
    ∀ listed ∈ manifest.images, archive' listed.2 = archive listed.2

theorem checkedEntry_congr (h : archive' name = archive name) :
    checkedEntry primitives archive' checksums name =
      checkedEntry primitives archive checksums name := by
  rw [checkedEntry, checkedEntry, entry, entry, h]

theorem ofArchive_congr (h : SameParts primitives archive archive') :
    ofArchive primitives archive' model = ofArchive primitives archive model := by
  have hsums : readChecksums archive' = readChecksums archive := by
    rw [readChecksums, readChecksums, entry, entry, h.sums]
  have hmanifest (checksums : Checksums) : readManifest primitives archive' checksums =
      readManifest primitives archive checksums := by
    rw [readManifest, readManifest, checkedEntry_congr h.described]
  rw [ofArchive, ofArchive, hsums]
  cases readChecksums archive with
  | error e => rfl
  | ok checksums =>
      rw [Result.ok_bind, Result.ok_bind, hmanifest]
      cases hread : readManifest primitives archive checksums with
      | error e => rfl
      | ok manifest =>
          -- Only now it is known which entries the manifest lists.
          obtain ⟨data, hgenuine, hdecode⟩ := readManifest_eq_ok.1 hread
          have himages : manifest.images.mapM (readImage primitives archive' checksums) =
              manifest.images.mapM (readImage primitives archive checksums) := by
            refine Result.mapM_congr ?_
            intro listed hlisted
            have hentry := h.images data manifest hgenuine.present hdecode listed hlisted
            rw [readImage, readImage, checkedEntry_congr hentry]
          rw [Result.ok_bind, Result.ok_bind, himages]

theorem parse_exactly_verified (primitives : Primitives) :
    (∀ data model c, parse primitives data model = .ok c ↔
      ∃ archive checksums manifest, primitives.archive? data = some archive ∧
        Verified primitives archive model checksums manifest c) ∧
    (∀ archive model checksums manifest c,
      Verified primitives archive model checksums manifest c →
        (c.images.map (·.1)).Nodup ∧
        ∀ v data, c.image? v = some data ↔
          ∃ path, (v.text, path) ∈ manifest.images ∧ archive path = .ok data) ∧
    (∀ data model model' c c', parse primitives data model = .ok c →
      parse primitives data model' = .ok c' → model' = model) ∧
    ∀ data data' archive archive', primitives.archive? data = some archive →
      primitives.archive? data' = some archive' → SameParts primitives archive archive' →
      ∀ model, parse primitives data' model = parse primitives data model := by
  refine ⟨fun data model c => parse_eq_ok_iff, ?_, ?_, ?_⟩
  · intro archive model checksums manifest c h
    exact ⟨h.nodup_images, fun v data => h.image?_eq_some_iff⟩
  · intro data model model' c c' h h'
    obtain ⟨archive, checksums, manifest, harchive, hverified⟩ := parse_eq_ok_iff.1 h
    obtain ⟨other, _, _, harchive', hverified'⟩ := parse_eq_ok_iff.1 h'
    obtain rfl := Option.some.inj (harchive.symm.trans harchive')
    obtain ⟨-, rfl⟩ := hverified.unique hverified'
    exact Except.ok.inj (hverified'.device.symm.trans hverified.device)
  · intro data data' archive archive' harchive harchive' hsame model
    simp only [parse, harchive, harchive', ofArchive_congr hsame]

end

/-! ## A container beside one with another entry -/

namespace Trial

/-- The manifest is listed twice, and its last checksum is in upper case. -/
def entries : List (String × Except EntryFault Bytes) :=
  [("sha256sums", .ok (Bytes.ofText "00  manifest.json\nAB  manifest.json\n02  firmware.zip\n")),
    ("manifest.json", .ok [0xAB]), ("firmware.zip", .ok [2])]

def archive (notes : Bytes) : Archive :=
  .ofList (entries ++ [("notes.txt", .ok notes)])

def manifest : ContainerManifest where
  device := "NK3"
  version := "v1.8.2"
  sdk := some "v0.4.0"
  images := [("nrf52", "firmware.zip")]

/-- Bytes are their own hash, and every byte string is the archive with it as its notes. -/
def primitives : Primitives :=
  { Primitives.standard with
    hash := fun data => data
    archive? := fun data => some (archive data)
    containerManifest := fun _ => .ok manifest }

def container : Container where
  version := { major := 1, minor := 8, patch := 2, complete := true }
  sdk := some { major := 0, minor := 4, patch := 0, complete := true }
  images := [(.nrf52, [2])]

end Trial

theorem parse_exactly_verified_trial :
    (∃ archive checksums manifest, Trial.primitives.archive? [] = some archive ∧
      Verified Trial.primitives archive .nk3 checksums manifest Trial.container ∧
      (Trial.container.images.map (·.1)).Nodup) ∧
      (∀ model c, parse Trial.primitives [] model = .ok c → model = .nk3) ∧
      parse Trial.primitives [1] .nk3 = .ok Trial.container := by
  obtain ⟨hexactly, hholds, hmodel, hparts⟩ := parse_exactly_verified Trial.primitives
  have hparse : parse Trial.primitives [] .nk3 = .ok Trial.container := by decide +kernel
  obtain ⟨archive, checksums, manifest, harchive, hverified⟩ := (hexactly _ _ _).1 hparse
  refine ⟨⟨archive, checksums, manifest, harchive, hverified, (hholds _ _ _ _ _ hverified).1⟩,
    fun model c h => hmodel _ _ _ _ _ hparse h, ?_⟩
  have hsame : SameParts Trial.primitives (Trial.archive []) (Trial.archive [1]) := by
    refine ⟨rfl, rfl, ?_⟩
    intro data manifest _ hdecode listed hlisted
    obtain rfl := Except.ok.inj hdecode
    obtain rfl := List.mem_singleton.1 hlisted
    rfl
  rw [hparts [] [1] _ _ rfl rfl hsame, hparse]

end Container
end Reflash
