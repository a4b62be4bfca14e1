import Reflash.Proofs.Image.Sb2.Authentic
import Reflash.Proofs.Image.Signer
import Reflash.Image.Validate

/-!
# Image.Verdict — what becomes of an image, by its version and its signer

Images of both kinds give their version as numbers, so that nothing is known of a pre-release, and a
release has to have the same three numbers, whatever else it has.

* `Sb2.Described` — what is learnt from an image with certificates;
* `Package.info_congr` — of the keys, a package only meets the set that is in force at its version;
* `Image.validate_eq_ok_iff` — all that is asked of an image: nothing else is, and nothing less will
  do;
* `Image.Refused` — the three reasons to refuse an image that can be parsed, each of which rules out
  the later ones;
* `Image.verdict_by_version_and_signer` — what is accepted, and what all else is refused for.
-/

namespace Reflash

/-! ## Versions in numbers -/

namespace Version

variable {a b : Version}

theorem complete_of_ofBcd {major minor patch : UInt16} (h : ofBcd major minor patch = .ok a) :
    a.complete = false := by
  rw [ofBcd] at h
  obtain ⟨_, -, h⟩ := Result.bind_eq_ok.1 h
  obtain ⟨_, -, h⟩ := Result.bind_eq_ok.1 h
  obtain ⟨_, -, h⟩ := Result.bind_eq_ok.1 h
  obtain rfl := Result.pure_eq_ok.1 h
  rfl

/-- A version in numbers is level with all releases and pre-releases of its three numbers. -/
theorem core_level_iff (h : b.complete = false) : a.core.Level b ↔ b.triple = a.triple := by
  constructor
  · intro hlevel
    exact hlevel.1.symm
  · intro htriple
    refine ⟨htriple.symm, fun hcomplete => ?_⟩
    rw [h] at hcomplete
    cases hcomplete.2

end Version

/-! ## Images with certificates -/

namespace Sb2

variable {primitives : Primitives} {data : Bytes} {trusted : Option Bytes} {image : Image}
  {info : ImageInfo}

/-- There is a signer in any case, and it is official if the table of root keys is the trusted
one. -/
structure Described (primitives : Primitives) (trusted : Option Bytes) (image : Image)
    (info : ImageInfo) : Prop where
  version : image.header.product.version = .ok info.version
  signer : info.signer.isSome
  official : info.isOfficial = true ↔ trusted = some (primitives.hash image.block.rootTable)

theorem described_of_info (h : Sb2.info primitives data trusted = .ok info) :
    ∃ image, Image.parse primitives data = .ok image ∧ Described primitives trusted image info := by
  obtain ⟨image, hparse, h⟩ := Result.bind_eq_ok.1 h
  refine ⟨image, hparse, ?_⟩
  cases hversion : image.header.product.version with
  | error e =>
      rw [hversion] at h
      cases h
  | ok version =>
      rw [hversion] at h
      obtain ⟨_, hpure, h⟩ := Result.bind_eq_ok.1 h
      obtain rfl := Result.pure_eq_ok.1 hpure
      obtain rfl := Result.pure_eq_ok.1 h
      exact ⟨hversion, rfl, by simp [CertificateBlock.rootTableHash]⟩

end Sb2

/-! ## Packages -/

namespace Package

variable {primitives : Primitives} {data : Bytes} {sets sets' : List KeySet} {p : Package}
  {info : ImageInfo}

theorem info_eq_ok_iff :
    Package.info primitives data sets = .ok info ↔
      ∃ p, parse primitives data = .ok p ∧ infoOf primitives p sets = info := by
  rw [Package.info, Result.bind_eq_ok]
  exact exists_congr fun _ => and_congr_right fun _ => Result.pure_eq_ok

theorem infoOf_congr (h : KeySet.select sets' p.version = KeySet.select sets p.version) :
    infoOf primitives p sets' = infoOf primitives p sets := by
  have hsigner : signer primitives p sets' = signer primitives p sets := by
    rw [signer, signer, h]
  rw [infoOf_eq, infoOf_eq, hsigner]

theorem version_infoOf : (infoOf primitives p sets).version = p.version := by
  rw [infoOf_eq]

theorem info_congr
    (h : ∀ info, Package.info primitives data sets = .ok info →
      KeySet.select sets' info.version = KeySet.select sets info.version) :
    Package.info primitives data sets' = Package.info primitives data sets := by
  rw [Package.info, Package.info]
  cases hparse : parse primitives data with
  | error e => rfl
  | ok p =>
      have hinfo : Package.info primitives data sets = .ok (infoOf primitives p sets) :=
        info_eq_ok_iff.2 ⟨p, hparse, rfl⟩
      have hselect := h _ hinfo
      rw [version_infoOf] at hselect
      rw [Result.ok_bind, Result.ok_bind, infoOf_congr hselect]

theorem not_official_of_no_sets : (infoOf primitives p []).isOfficial = false := by
  have hsigner : signer primitives p [] = none := rfl
  rw [infoOf_eq, hsigner]
  rfl

theorem signer_of_official (h : (infoOf primitives p sets).isOfficial = true) :
    (infoOf primitives p sets).signer.isSome := by
  rw [infoOf] at h ⊢
  split
  next hunsigned =>
    rw [hunsigned] at h
    cases h
  · split
    · rfl
    · rfl

end Package

/-! ## Images of both kinds -/

namespace Image

section

variable {primitives : Primitives} {variant : Variant} {data : Bytes} {release : Version}
  {anchors : TrustAnchors} {info info' : ImageInfo}

theorem accept_eq_ok_iff :
    accept release info = .ok info' ↔
      info' = info ∧ release.core.Level info.version ∧ info.signer.isSome ∧ info.isOfficial := by
  rw [accept]
  by_cases hlevel : release.core.Level info.version
  · cases hsigner : info.signer with
    | none => simp [hlevel]
    | some signer =>
        cases hofficial : info.isOfficial with
        | false => simp [hlevel]
        | true => simp [hlevel, eq_comm]
  · simp [hlevel]

theorem validate_eq_ok_iff :
    validate primitives variant data release anchors = .ok info ↔
      parse primitives variant data anchors = .ok info ∧ release.core.Level info.version ∧
        info.signer.isSome ∧ info.isOfficial := by
  rw [validate]
  cases hparse : parse primitives variant data anchors with
  | error e => simp
  | ok parsed =>
      simp only [accept_eq_ok_iff, Except.ok.injEq]
      constructor
      · rintro ⟨rfl, hrest⟩
        exact ⟨rfl, hrest⟩
      · rintro ⟨rfl, hrest⟩
        exact ⟨rfl, hrest⟩

/-- A validated image is of the release, by all three numbers of its version. -/
theorem triple_of_validate
    (h : validate primitives variant data release anchors = .ok info) :
    info.version.triple = release.triple :=
  (validate_eq_ok_iff.1 h).2.1.1.symm

end

section

variable {primitives : Primitives} {variant : Variant} {data : Bytes} {release : Version}
  {anchors anchors' : TrustAnchors} {info : ImageInfo} {e : ImageError}

theorem complete_of_parse (h : parse primitives variant data anchors = .ok info) :
    info.version.complete = false := by
  cases variant with
  | lpc55 =>
      obtain ⟨image, -, hdescribed⟩ := Sb2.described_of_info h
      exact Version.complete_of_ofBcd hdescribed.version
  | nrf52 =>
      obtain ⟨p, -, rfl⟩ := Package.info_eq_ok_iff.1 h
      rw [Package.version_infoOf]
      rfl

theorem signer_of_official (h : parse primitives variant data anchors = .ok info)
    (hofficial : info.isOfficial = true) : info.signer.isSome := by
  cases variant with
  | lpc55 =>
      obtain ⟨image, -, hdescribed⟩ := Sb2.described_of_info h
      exact hdescribed.signer
  | nrf52 =>
      obtain ⟨p, -, rfl⟩ := Package.info_eq_ok_iff.1 h
      exact Package.signer_of_official hofficial

theorem not_official_of_no_anchors (h : parse primitives variant data {} = .ok info) :
    info.isOfficial = false := by
  rw [Bool.eq_false_iff]
  intro hofficial
  cases variant with
  | lpc55 =>
      obtain ⟨image, -, hdescribed⟩ := Sb2.described_of_info h
      cases hdescribed.official.1 hofficial
  | nrf52 =>
      obtain ⟨p, -, rfl⟩ := Package.info_eq_ok_iff.1 h
      rw [Package.not_official_of_no_sets] at hofficial
      cases hofficial

/-! ## The verdict -/

/-- The version comes first, whoever the signer is; then there has to be a signer, and then an
official one. -/
inductive Refused (release : Version) (info : ImageInfo) : ImageError → Prop where
  | version (h : info.version.triple ≠ release.triple) :
      Refused release info (.versionMismatch release info.version)
  | unsigned (hversion : info.version.triple = release.triple) (h : info.signer = none) :
      Refused release info .unsigned
  | signer {name : String} (hversion : info.version.triple = release.triple)
      (hsigner : info.signer = some name) (h : info.isOfficial = false) :
      Refused release info (.untrustedSigner name)

theorem accept_eq_error_iff (hcomplete : info.version.complete = false) :
    accept release info = .error e ↔ Refused release info e := by
  have hlevel : release.core.Level info.version ↔ info.version.triple = release.triple :=
    Version.core_level_iff hcomplete
  rw [accept]
  constructor
  · intro h
    split at h
    next hversion =>
      cases h
      exact .version (mt hlevel.2 hversion)
    next hversion =>
      have hversion := hlevel.1 (not_not.1 hversion)
      split at h
      next hsigner =>
        cases h
        exact .unsigned hversion hsigner
      next name hsigner =>
        split at h
        · cases h
        next hofficial =>
          cases h
          exact .signer hversion hsigner (Bool.eq_false_iff.2 hofficial)
  · intro h
    cases h with
    | version h => rw [if_pos (mt hlevel.1 h)]
    | unsigned hversion h => rw [if_neg (not_not.2 (hlevel.2 hversion)), h]
    | signer hversion hsigner h => simp [hlevel.2 hversion, hsigner, h]

theorem validate_of_parse (h : parse primitives variant data anchors = .ok info) :
    validate primitives variant data release anchors = accept release info := by
  rw [validate, h]

theorem validate_eq_parse_iff {fault : ParseError} :
    validate primitives variant data release anchors = .error (.parse fault) ↔
      parse primitives variant data anchors = .error fault := by
  rw [validate]
  cases hparse : parse primitives variant data anchors with
  | error fault' => simp
  | ok info =>
      rw [accept_eq_error_iff (complete_of_parse hparse)]
      constructor
      · rintro ⟨⟩
      · rintro ⟨⟩

theorem validate_eq_ok_iff_official :
    validate primitives variant data release anchors = .ok info ↔
      parse primitives variant data anchors = .ok info ∧ info.version.triple = release.triple ∧
        info.isOfficial = true := by
  rw [validate_eq_ok_iff]
  refine and_congr_right fun hparse => ?_
  rw [Version.core_level_iff (complete_of_parse hparse)]
  exact and_congr_right fun _ => and_iff_right_of_imp (signer_of_official hparse)

/-- The version of a package does not depend on the keys, nor does the reason for which it cannot be
parsed. -/
theorem package_congr
    (h : ∀ info, parse primitives .nrf52 data anchors = .ok info →
      KeySet.select anchors'.keySets info.version = KeySet.select anchors.keySets info.version) :
    parse primitives .nrf52 data anchors' = parse primitives .nrf52 data anchors ∧
      validate primitives .nrf52 data release anchors' =
        validate primitives .nrf52 data release anchors := by
  have hparse : parse primitives .nrf52 data anchors' = parse primitives .nrf52 data anchors :=
    Package.info_congr h
  rw [validate, validate, hparse]
  exact ⟨rfl, rfl⟩

/-- An image is accepted exactly if it parses, has the three numbers of the release and an official
signer.  An image with certificates always has a signer, and the trusted table of root keys decides
on it; of a package, the keys in force at its version do.  Without anything to trust, nothing is
accepted. -/
theorem verdict_by_version_and_signer (primitives : Primitives) (variant : Variant) (data : Bytes)
    (release : Version) (anchors : TrustAnchors) :
    (∀ info, validate primitives variant data release anchors = .ok info ↔
        parse primitives variant data anchors = .ok info ∧ info.version.triple = release.triple ∧
          info.isOfficial = true) ∧
      (∀ fault, validate primitives variant data release anchors = .error (.parse fault) ↔
        parse primitives variant data anchors = .error fault) ∧
      (∀ info, parse primitives variant data anchors = .ok info →
        ∀ e, validate primitives variant data release anchors = .error e ↔ Refused release info e) ∧
      (∀ info, parse primitives .lpc55 data anchors = .ok info →
        info.signer.isSome ∧ ∃ image, Sb2.Image.parse primitives data = .ok image ∧
          (info.isOfficial = true ↔
            anchors.rootTableHash = some (primitives.hash image.block.rootTable))) ∧
      validate primitives .lpc55 data release anchors ≠ .error .unsigned ∧
      (∀ anchors' : TrustAnchors,
        (∀ info, parse primitives .nrf52 data anchors = .ok info →
          KeySet.select anchors'.keySets info.version =
            KeySet.select anchors.keySets info.version) →
        parse primitives .nrf52 data anchors' = parse primitives .nrf52 data anchors ∧
          validate primitives .nrf52 data release anchors' =
            validate primitives .nrf52 data release anchors) ∧
      ∀ info, validate primitives variant data release {} ≠ .ok info := by
  refine ⟨fun info => validate_eq_ok_iff_official, fun fault => validate_eq_parse_iff, ?_, ?_, ?_,
    fun anchors' => package_congr, ?_⟩
  · intro info hparse e
    rw [validate_of_parse hparse, accept_eq_error_iff (complete_of_parse hparse)]
  · intro info hparse
    obtain ⟨image, himage, hdescribed⟩ := Sb2.described_of_info hparse
    exact ⟨hdescribed.signer, image, himage, hdescribed.official⟩
  · intro hunsigned
    cases hparse : parse primitives .lpc55 data anchors with
    | error fault =>
        rw [validate_eq_parse_iff.2 hparse] at hunsigned
        cases hunsigned
    | ok info =>
        rw [validate_of_parse hparse, accept_eq_error_iff (complete_of_parse hparse)] at hunsigned
        obtain ⟨image, -, hdescribed⟩ := Sb2.described_of_info hparse
        have hsigner := hdescribed.signer
        cases hunsigned with
        | unsigned _ hnone =>
            rw [hnone] at hsigner
            cases hsigner
  · intro info hvalidate
    obtain ⟨hparse, -, hofficial⟩ := validate_eq_ok_iff_official.1 hvalidate
    rw [not_official_of_no_anchors hparse] at hofficial
    cases hofficial

end

/-! ## One image, and one package -/

namespace Trial

def release : Version :=
  { major := 0, minor := 0, patch := 0, pre := some "rc.1", complete := true }

/-- The table of root keys has 128 bytes, and byte strings are hashed to their lengths. -/
def anchors : TrustAnchors where
  keySets := Package.Trial.sets
  rootTableHash := some (List.replicate 32 128)

end Trial

/-- The image is official as long as its table is trusted.  The package is of version 1.8.2, and a
key set that is in force later only does not matter to it. -/
theorem verdict_by_version_and_signer_trial :
    let info : ImageInfo := ⟨{ major := 0, minor := 0, patch := 0 }, some "Nitrokey", true⟩
    let later : KeySet := ⟨{ major := 2, minor := 0, patch := 0 }, []⟩
    let anchors' : TrustAnchors := { Trial.anchors with keySets := later :: Trial.anchors.keySets }
    validate Sb2.Trial.primitives .lpc55 (Sb2.Trial.image 7) Trial.release Trial.anchors =
        .ok info ∧
      (∃ image, Sb2.Image.parse Sb2.Trial.primitives (Sb2.Trial.image 7) = .ok image ∧
        Trial.anchors.rootTableHash = some (Sb2.Trial.primitives.hash image.block.rootTable)) ∧
      validate Package.Trial.primitives .nrf52 [0] Trial.release Trial.anchors =
        .error (.versionMismatch Trial.release (.ofPacked 0x400202)) ∧
      validate Package.Trial.primitives .nrf52 [0] Trial.release anchors' =
        .error (.versionMismatch Trial.release (.ofPacked 0x400202)) := by
  intro info later anchors'
  have himage : parse Sb2.Trial.primitives .lpc55 (Sb2.Trial.image 7) Trial.anchors = .ok info := by
    decide +kernel
  have hpackage : parse Package.Trial.primitives .nrf52 [0] Trial.anchors =
      .ok ⟨.ofPacked 0x400202, some "official", true⟩ := by
    decide +kernel
  obtain ⟨haccepted, -, -, htable, -⟩ := verdict_by_version_and_signer Sb2.Trial.primitives .lpc55
    (Sb2.Trial.image 7) Trial.release Trial.anchors
  obtain ⟨-, -, hrefused, -, -, hkeys, -⟩ :=
    verdict_by_version_and_signer Package.Trial.primitives .nrf52 [0] Trial.release Trial.anchors
  have hmismatch : validate Package.Trial.primitives .nrf52 [0] Trial.release Trial.anchors =
      .error (.versionMismatch Trial.release (.ofPacked 0x400202)) :=
    (hrefused _ hpackage _).2 (.version (by decide))
  have hsame := hkeys anchors' fun parsed hparsed => by
    rw [hpackage] at hparsed
    cases hparsed
    rfl
  obtain ⟨-, image, hparse, hofficial⟩ := htable _ himage
  exact ⟨(haccepted _).2 ⟨himage, rfl, rfl⟩, ⟨image, hparse, hofficial.1 rfl⟩, hmismatch,
    hsame.2.trans hmismatch⟩

end Image
end Reflash
