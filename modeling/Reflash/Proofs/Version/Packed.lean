import Mathlib.Algebra.Group.Nat.Even
import Mathlib.Data.Set.Function
import Reflash.Proofs.Image.Signer
import Reflash.Proofs.Version.Precedence

/-!
# Version.Packed — versions in 32-bit words

A word has room for 10 bits of a major, 16 bits of a minor and 6 bits of a patch number, so that
every word is the packed form of one version, and the greater word that of the later version.

* `Packable`, `pack` — the versions that fit into a word, and the words they are put into;
* `toNat_pack`, `ofPacked_pack`, `pack_ofPacked` — packing loses nothing;
* `cmp_ofPacked`, `level_ofPacked_iff` — words compare as their versions do;
* `packed_in_order` — all of it, and what follows for packages, whose packets have such a word.
-/

namespace Reflash
namespace Version

variable {v : Version} {p q w : UInt32}

structure Packable (v : Version) : Prop where
  incomplete : v.complete = false
  major_lt : v.major < 2 ^ 10
  minor_lt : v.minor < 2 ^ 16
  patch_lt : v.patch < 2 ^ 6

/-- The numbers side by side, the major one at the top. -/
def pack (v : Version) : UInt32 :=
  UInt32.ofNat v.major <<< 22 ||| UInt32.ofNat v.minor <<< 6 ||| UInt32.ofNat v.patch

/-! ## Bits -/

theorem toNat_ofNat_shiftLeft {n shift : Nat} (hshift : shift < 32) (h : n * 2 ^ shift < 2 ^ 32) :
    (UInt32.ofNat n <<< UInt32.ofNat shift).toNat = n * 2 ^ shift := by
  have hn : n < 2 ^ 32 := (Nat.le_mul_of_pos_right n (Nat.two_pow_pos shift)).trans_lt h
  have hplace : (UInt32.ofNat shift).toNat = shift :=
    UInt32.toNat_ofNat_of_lt' (hshift.trans (by decide))
  rw [UInt32.toNat_shiftLeft, UInt32.toNat_ofNat_of_lt' hn, hplace, Nat.mod_eq_of_lt hshift,
    Nat.shiftLeft_eq, Nat.mod_eq_of_lt h]

/-- No two of the numbers have a bit at the same place, so that they are added up. -/
theorem toNat_pack (h : v.Packable) :
    v.pack.toNat = v.major * 2 ^ 22 + v.minor * 2 ^ 6 + v.patch := by
  obtain ⟨-, hmajor, hminor, hpatch⟩ := h
  have hmajor' : v.major * 2 ^ 22 < 2 ^ 32 := by omega
  have hminor' : v.minor * 2 ^ 6 < 2 ^ 32 := by omega
  have hpatch' : v.patch < 2 ^ 32 := by omega
  -- What stands further down does not reach the lowest bit of the major number.
  have hbelow : v.minor <<< 6 + v.patch < 2 ^ 22 := by
    rw [Nat.shiftLeft_eq]
    omega
  calc
    v.pack.toNat = v.major <<< 22 ||| (v.minor <<< 6 ||| v.patch) := by
      rw [pack, UInt32.toNat_or, UInt32.toNat_or, Nat.or_assoc, UInt32.toNat_ofNat_of_lt' hpatch',
        Nat.shiftLeft_eq, Nat.shiftLeft_eq]
      exact congrArg₂ _ (toNat_ofNat_shiftLeft (by decide) hmajor')
        (congrArg (· ||| _) (toNat_ofNat_shiftLeft (by decide) hminor'))
    _ = v.major <<< 22 + (v.minor <<< 6 + v.patch) := by
      rw [← Nat.shiftLeft_add_eq_or_of_lt hpatch, ← Nat.shiftLeft_add_eq_or_of_lt hbelow]
    _ = v.major * 2 ^ 22 + v.minor * 2 ^ 6 + v.patch := by
      rw [Nat.shiftLeft_eq, Nat.shiftLeft_eq, Nat.add_assoc]

/-- Unpacking shifts and masks. -/
theorem ofPacked_eq_bits (w : UInt32) :
    ofPacked w =
      { major := (w >>> 22).toNat, minor := (w >>> 6 &&& 0xFFFF).toNat,
        patch := (w &&& 0x3F).toNat } := by
  have hmajor : (w >>> 22).toNat = w.toNat / 0x400000 := by
    rw [UInt32.toNat_shiftRight]
    exact Nat.shiftRight_eq_div_pow _ 22
  have hminor : (w >>> 6 &&& 0xFFFF).toNat = w.toNat / 0x40 % 0x10000 := by
    rw [UInt32.toNat_and, UInt32.toNat_shiftRight]
    exact (Nat.and_two_pow_sub_one_eq_mod _ 16).trans
      (congrArg (· % _) (Nat.shiftRight_eq_div_pow _ 6))
  have hpatch : (w &&& 0x3F).toNat = w.toNat % 0x40 := by
    rw [UInt32.toNat_and]
    exact Nat.and_two_pow_sub_one_eq_mod _ 6
  rw [hmajor, hminor, hpatch]
  rfl

/-! ## There and back -/

theorem packable_ofPacked (w : UInt32) : (ofPacked w).Packable := by
  have hw : w.toNat < 2 ^ 32 := w.toNat_lt
  refine ⟨rfl, ?_, ?_, ?_⟩
  all_goals
    simp only [ofPacked]
    omega

theorem pack_ofPacked (w : UInt32) : (ofPacked w).pack = w := by
  rw [← UInt32.toNat_inj, toNat_pack (packable_ofPacked w)]
  have hw : w.toNat < 2 ^ 32 := w.toNat_lt
  simp only [ofPacked]
  omega

/-- Only the core fits into a word. -/
theorem ofPacked_pack (h : v.Packable) : ofPacked v.pack = v.core := by
  have hpack := toNat_pack h
  obtain ⟨hincomplete, hmajor, hminor, hpatch⟩ := h
  have htop : v.pack.toNat / 0x400000 = v.major := by omega
  have hmiddle : v.pack.toNat / 0x40 % 0x10000 = v.minor := by omega
  have hlow : v.pack.toNat % 0x40 = v.patch := by omega
  rw [ofPacked, htop, hmiddle, hlow, core, hincomplete]

/-! ## Order -/

/-- A word is made of its numbers, which count for more the further up they stand. -/
theorem rank_ofPacked_lt_iff : (ofPacked p).rank < (ofPacked q).rank ↔ p < q := by
  rw [rank_lt_iff, UInt32.lt_iff_toNat_lt]
  simp only [ofPacked]
  omega

theorem ofPacked_lt_iff : ofPacked p < ofPacked q ↔ p < q :=
  (lt_iff_of_incomplete (.inl rfl)).trans rank_ofPacked_lt_iff

theorem level_iff_of_incomplete {a b : Version} (h : a.complete = false) :
    a.Level b ↔ a.triple = b.triple :=
  and_iff_left fun hcomplete => absurd (h.symm.trans hcomplete.1) (by decide)

theorem pack_eq_of_triple_eq {a b : Version} (h : a.triple = b.triple) : a.pack = b.pack := by
  simp only [triple, Prod.mk.injEq] at h
  obtain ⟨hmajor, hminor, hpatch⟩ := h
  rw [pack, pack, hmajor, hminor, hpatch]

/-- Of the words, one is level with a version that fits, whatever texts the version has. -/
theorem level_iff_eq_pack (h : v.Packable) : (ofPacked w).Level v ↔ w = v.pack := by
  rw [level_iff_of_incomplete rfl]
  constructor
  · intro htriple
    rw [← pack_ofPacked w, pack_eq_of_triple_eq htriple]
  · rintro rfl
    rw [ofPacked_pack h]
    rfl

theorem level_ofPacked_iff : (ofPacked p).Level (ofPacked q) ↔ p = q := by
  rw [level_iff_eq_pack (packable_ofPacked q), pack_ofPacked]

theorem bijOn_ofPacked :
    Set.BijOn ofPacked Set.univ {v | v.Packable ∧ v.pre = none ∧ v.build = none} := by
  refine Set.InvOn.bijOn ⟨fun w _ => pack_ofPacked w, ?_⟩
    (fun w _ => ⟨packable_ofPacked w, rfl, rfl⟩)
    (Set.mapsTo_univ pack _)
  rintro v ⟨h, hpre, hbuild⟩
  rw [ofPacked_pack h]
  obtain ⟨major, minor, patch, pre, build, complete⟩ := v
  obtain rfl : pre = none := hpre
  obtain rfl : build = none := hbuild
  obtain rfl : complete = false := h.incomplete
  rfl

end Version

/-! ## Packages -/

namespace Package

/-- The version of a package as its packet has it. -/
def word (p : Package) : UInt32 :=
  p.command.version.getD 0

theorem exists_word_of_info {primitives : Primitives} {sets : List KeySet} {data : Bytes}
    {info : ImageInfo} (h : Package.info primitives data sets = .ok info) :
    ∃ p, parse primitives data = .ok p ∧ info.version = .ofPacked p.word := by
  obtain ⟨p, hparse, hpure⟩ := Result.bind_eq_ok.1 h
  obtain rfl := Result.pure_eq_ok.1 hpure
  exact ⟨p, hparse, by rw [infoOf_eq]; rfl⟩

end Package

namespace Version

/-- Words of 32 bits and the versions that fit into them correspond, so that no number loses a bit
to another one; of a version that fits but has texts, the word keeps the core, with which the
version is level.  The word of the earlier version is the smaller one, and two words have versions
that are level only if they are the same.  So packages compare as the words in their packets do. -/
theorem packed_in_order :
    (∀ w, ofPacked w = {
        major := (w >>> 22).toNat
        minor := (w >>> 6 &&& 0xFFFF).toNat
        patch := (w &&& 0x3F).toNat }) ∧
      Set.BijOn ofPacked Set.univ {v | v.Packable ∧ v.pre = none ∧ v.build = none} ∧
      (∀ w, (ofPacked w).pack = w) ∧
      (∀ v, Packable v → v.pack.toNat = v.major * 2 ^ 22 + v.minor * 2 ^ 6 + v.patch ∧
        ofPacked v.pack = v.core ∧ ∀ w, (ofPacked w).Level v ↔ w = v.pack) ∧
      (∀ p q, ofPacked p < ofPacked q ↔ p < q) ∧
      (∀ p q, (ofPacked p).Level (ofPacked q) ↔ p = q) ∧
      ∀ primitives sets sets' data data' info info',
        Package.info primitives data sets = .ok info →
        Package.info primitives data' sets' = .ok info' →
        ∃ p q, Package.parse primitives data = .ok p ∧ Package.parse primitives data' = .ok q ∧
          (info.version < info'.version ↔ p.word < q.word) ∧
          (info.version.Level info'.version ↔ p.word = q.word) := by
  refine ⟨ofPacked_eq_bits, bijOn_ofPacked, pack_ofPacked, ?_, fun _ _ => ofPacked_lt_iff,
    fun _ _ => level_ofPacked_iff, ?_⟩
  · intro v h
    exact ⟨toNat_pack h, ofPacked_pack h, fun w => level_iff_eq_pack h⟩
  · intro primitives sets sets' data data' info info' h h'
    obtain ⟨p, hp, hversion⟩ := Package.exists_word_of_info h
    obtain ⟨q, hq, hversion'⟩ := Package.exists_word_of_info h'
    refine ⟨p, q, hp, hq, ?_, ?_⟩
    · rw [hversion, hversion', ofPacked_lt_iff]
    · rw [hversion, hversion', level_ofPacked_iff]

/-! ## The greatest word, and two packages -/

namespace Packable
namespace Trial

/-- The greatest version that fits, with a text that does not. -/
def greatest : Version where
  major := 1023
  minor := 65535
  patch := 63
  pre := some "rc.1"

def packet (word : UInt32) : Dfu.Packet where
  command := some { init := some {
    version := some word, appSize := some 1, hash := some { digest := some [3] } } }

/-- Bytes are their own hash, and the packet of an archive tells an empty one from the others. -/
def primitives : Primitives :=
  { Primitives.standard with
    hash := fun data => data
    archive? := fun data => some
      (.ofList [("manifest.json", .ok []), ("packet", .ok data), ("binary", .ok [3])])
    packageManifest := fun _ => .ok { application := some (some "packet", some "binary") }
    packet? := fun data => some (packet (if data = [] then 0x400242 else 0x400280)) }

end Trial
end Packable

open Packable in
/-- The texts of a version do not count, nor does a greater patch number against a greater minor
one. -/
theorem packed_in_order_trial :
    Trial.greatest.Packable ∧ Trial.greatest.pack = 0xFFFFFFFF ∧
      ofPacked 0xFFFFFFFF = Trial.greatest.core ∧ (ofPacked 0xFFFFFFFF).Level Trial.greatest ∧
      ∃ info info' p q, Package.info Trial.primitives [] [] = .ok info ∧
        Package.info Trial.primitives [0] [] = .ok info' ∧
        Package.parse Trial.primitives [] = .ok p ∧ Package.parse Trial.primitives [0] = .ok q ∧
        (info.version < info'.version ↔ p.word < q.word) ∧ info.version < info'.version := by
  have hfits : Trial.greatest.Packable := ⟨rfl, by decide, by decide, by decide⟩
  have hpack : Trial.greatest.pack = 0xFFFFFFFF := by decide
  obtain ⟨-, -, -, hpacked, -, -, hpackages⟩ := packed_in_order
  obtain ⟨-, hback, hlevel⟩ := hpacked Trial.greatest hfits
  rw [hpack] at hback
  let info : ImageInfo := ⟨.ofPacked 0x400242, none, false⟩
  let info' : ImageInfo := ⟨.ofPacked 0x400280, none, false⟩
  have h : Package.info Trial.primitives [] [] = .ok info := by decide +kernel
  have h' : Package.info Trial.primitives [0] [] = .ok info' := by decide +kernel
  obtain ⟨p, q, hp, hq, horder, -⟩ := hpackages _ _ _ _ _ info info' h h'
  exact ⟨hfits, hpack, hback, (hlevel _).2 hpack.symm, info, info', p, q, h, h', hp, hq,
    horder, by decide⟩

end Version
end Reflash
