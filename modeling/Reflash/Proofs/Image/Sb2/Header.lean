import Mathlib.Data.Nat.Bitwise
import Mathlib.Data.Vector.Basic
import Reflash.Image.Sb2.Header
import Reflash.Proofs.Bytes
import Reflash.Proofs.Image.Fields

/-!
# Image.Sb2.Header — headers as they are written

* `bcd_eq_ok_iff`, `hasSectionHash_eq_testBit` — what the parts of a version and the flags stand
  for;
* `Header.table` — what a header holds at which place, with any bytes where nothing counts;
* `Header.encode` — the ninety-six bytes that this comes to;
* `Header.ofData` — the header with the fields that are found at their places;
* `Header.reads_by_places` — what is read is what was written, and which data are no header for
  which reason.
-/

namespace Reflash
namespace Sb2

open Bytes (ofLittle littleEndian)
open Reflash.Field (Fits Mismarked Follows Abut fault?)

/-- The number at a place, lowest byte first. -/
def numberAt (data : Bytes) (place size : Nat) : Nat :=
  littleEndian ((data.drop place).take size)

/-- What stands at a place where it does not count. -/
def gap (data : Bytes) (place : Nat) {size : Nat} (h : place + size ≤ data.length) :
    List.Vector UInt8 size :=
  ⟨(data.drop place).take size, by
    simp only [List.length_take, List.length_drop]
    omega⟩

theorem toList_gap {data : Bytes} {place size : Nat} (h : place + size ≤ data.length) :
    (gap data place h).toList = (data.drop place).take size :=
  rfl

/-! ## Words -/

theorem ofNat8_number (n : UInt8) : UInt8.ofNat (littleEndian (ofLittle 1 n.toNat)) = n := by
  rw [Bytes.littleEndian_ofLittle n.toNat_lt, UInt8.ofNat_toNat]

theorem ofNat16_number (n : UInt16) :
    UInt16.ofNat (littleEndian (ofLittle 2 n.toNat)) = n := by
  rw [Bytes.littleEndian_ofLittle n.toNat_lt, UInt16.ofNat_toNat]

theorem ofNat32_number (n : UInt32) :
    UInt32.ofNat (littleEndian (ofLittle 4 n.toNat)) = n := by
  rw [Bytes.littleEndian_ofLittle n.toNat_lt, UInt32.ofNat_toNat]

theorem ofNat64_number (n : UInt64) :
    UInt64.ofNat (littleEndian (ofLittle 8 n.toNat)) = n := by
  rw [Bytes.littleEndian_ofLittle n.toNat_lt, UInt64.ofNat_toNat]

/-! ## What words stand for -/

/-- The hexadecimal digits of a word are read as decimal ones. -/
theorem bcd_eq_ok_iff {word : UInt16} {n : Nat} :
    Version.bcd word = .ok n ↔ ∃ a b c d, a ≤ 9 ∧ b ≤ 9 ∧ c ≤ 9 ∧ d ≤ 9 ∧
      word.toNat = 0x1000 * a + 0x100 * b + 0x10 * c + d ∧
      n = 1000 * a + 100 * b + 10 * c + d := by
  have hword := word.toNat_lt
  rw [Version.bcd]
  simp only [List.forall_mem_cons, List.foldl]
  constructor
  · intro h
    split at h
    next hdigits =>
      obtain ⟨ha, hb, hc, hd, -⟩ := hdigits
      cases h
      -- The digits are those of the word, the highest first.
      refine ⟨word.toNat / 4096, word.toNat / 256 % 16, word.toNat / 16 % 16, word.toNat % 16, ha,
        hb, hc, hd, ?_, ?_⟩
      · omega
      · omega
    next => cases h
  · rintro ⟨a, b, c, d, ha, hb, hc, hd, hdigits, rfl⟩
    -- A word has these digits in one way only.
    have ha' : word.toNat / 4096 = a := by omega
    have hb' : word.toNat / 256 % 16 = b := by omega
    have hc' : word.toNat / 16 % 16 = c := by omega
    have hd' : word.toNat % 16 = d := by omega
    rw [ha', hb', hc', hd', if_pos ⟨ha, hb, hc, hd, nofun⟩]
    congr 1
    omega

/-- The highest bit of the flags. -/
theorem hasSectionHash_eq_testBit (h : Header) : h.hasSectionHash = h.flags.toNat.testBit 15 := by
  have hflag : (h.flags &&& 0x8000).toNat = (h.flags.toNat.testBit 15).toNat * 2 ^ 15 :=
    calc
      (h.flags &&& 0x8000).toNat = h.flags.toNat &&& 2 ^ 15 := UInt16.toNat_and _ _
      _ = (h.flags.toNat.testBit 15).toNat * 2 ^ 15 := Nat.and_two_pow _ 15
  rw [Header.hasSectionHash, Bool.eq_iff_iff, bne_iff_ne, ← UInt16.toNat_inj.ne, hflag]
  cases h.flags.toNat.testBit 15 with
  | true => decide
  | false => decide

namespace BcdVersion

/-- The bytes behind the parts of a version, which do not count. -/
structure Gaps where
  major : List.Vector UInt8 2
  minor : List.Vector UInt8 2
  patch : List.Vector UInt8 2

def ofData (data : Bytes) (place : Nat) : BcdVersion where
  major := .ofNat (numberAt data place 2)
  minor := .ofNat (numberAt data (place + 4) 2)
  patch := .ofNat (numberAt data (place + 8) 2)

def Gaps.ofData (data : Bytes) (place : Nat) (h : place + 12 ≤ data.length) : Gaps where
  major := gap data (place + 2) (by omega)
  minor := gap data (place + 6) (by omega)
  patch := gap data (place + 10) (by omega)

def table (place : Nat) (v : BcdVersion) (g : Gaps) : List (Nat × Bytes) :=
  [(place, ofLittle 2 v.major.toNat), (place + 2, g.major.toList),
    (place + 4, ofLittle 2 v.minor.toNat), (place + 6, g.minor.toList),
    (place + 8, ofLittle 2 v.patch.toNat), (place + 10, g.patch.toList)]

def layout (place : Nat) : List Field :=
  [⟨place, 2, none⟩, ⟨place + 2, 2, none⟩, ⟨place + 4, 2, none⟩, ⟨place + 6, 2, none⟩,
    ⟨place + 8, 2, none⟩, ⟨place + 10, 2, none⟩]

theorem follows_read {wrongMark : ParseError} (place : Nat) :
    Follows wrongMark place (place + 12) (layout place) read (ofData · place) := by
  have hpart (place : Nat) : Follows wrongMark place (place + 4)
      [⟨place, 2, none⟩, ⟨place + 2, 2, none⟩] part fun data => .ofNat (numberAt data place 2) :=
    (Follows.number place 2).map.bind fun _ => (Follows.skip (place + 2) 2).bind fun _ => .pure _
  exact (hpart place).bind fun _ => (hpart (place + 4)).bind fun _ =>
    (hpart (place + 8)).bind fun _ => .pure _

end BcdVersion

namespace Header

/-- The bytes of a header that do not count. -/
structure Gaps where
  afterNonce : List.Vector UInt8 4
  product : BcdVersion.Gaps
  component : BcdVersion.Gaps
  afterBuild : List.Vector UInt8 4

/-- The fields of a header by their places. -/
def table (h : Header) (g : Gaps) : List (Nat × Bytes) :=
  [(0, h.nonce), (16, g.afterNonce.toList), (20, firstMark),
    (24, ofLittle 1 h.formatMajor.toNat), (25, ofLittle 1 h.formatMinor.toNat),
    (26, ofLittle 2 h.flags.toNat), (28, ofLittle 4 h.imageBlocks.toNat),
    (32, ofLittle 4 h.firstBootTagBlock.toNat), (36, ofLittle 4 h.firstBootSection.toNat),
    (40, ofLittle 4 h.certificateOffset.toNat), (44, ofLittle 2 h.headerBlocks.toNat),
    (46, ofLittle 2 h.keyBlobBlock.toNat), (48, ofLittle 2 h.keyBlobBlocks.toNat),
    (50, ofLittle 2 h.sectionHashes.toNat), (52, secondMark), (56, ofLittle 8 h.timestamp.toNat)]
    ++ h.product.table 64 g.product ++ h.component.table 76 g.component
    ++ [(88, ofLittle 4 h.build.toNat), (92, g.afterBuild.toList)]

/-- A header as it is written. -/
def encode (h : Header) (g : Gaps) : Bytes :=
  (h.table g).flatMap Prod.snd

/-- The header with what is found at the places. -/
def ofData (data : Bytes) : Header where
  nonce := (data.drop 0).take 16
  formatMajor := .ofNat (numberAt data 24 1)
  formatMinor := .ofNat (numberAt data 25 1)
  flags := .ofNat (numberAt data 26 2)
  imageBlocks := .ofNat (numberAt data 28 4)
  firstBootTagBlock := .ofNat (numberAt data 32 4)
  firstBootSection := .ofNat (numberAt data 36 4)
  certificateOffset := .ofNat (numberAt data 40 4)
  headerBlocks := .ofNat (numberAt data 44 2)
  keyBlobBlock := .ofNat (numberAt data 46 2)
  keyBlobBlocks := .ofNat (numberAt data 48 2)
  sectionHashes := .ofNat (numberAt data 50 2)
  timestamp := .ofNat (numberAt data 56 8)
  product := .ofData data 64
  component := .ofData data 76
  build := .ofNat (numberAt data 88 4)

def Gaps.ofData (data : Bytes) (h : size ≤ data.length) : Gaps where
  afterNonce := gap data 16 (Nat.le_trans (by decide) h)
  product := .ofData data 64 (Nat.le_trans (by decide) h)
  component := .ofData data 76 (Nat.le_trans (by decide) h)
  afterBuild := gap data 92 h

/-- The fields in the order in which they are read. -/
def layout : List Field :=
  [⟨0, 16, none⟩, ⟨16, 4, none⟩, ⟨20, 4, some firstMark⟩, ⟨24, 1, none⟩, ⟨25, 1, none⟩,
    ⟨26, 2, none⟩, ⟨28, 4, none⟩, ⟨32, 4, none⟩, ⟨36, 4, none⟩, ⟨40, 4, none⟩, ⟨44, 2, none⟩,
    ⟨46, 2, none⟩, ⟨48, 2, none⟩, ⟨50, 2, none⟩, ⟨52, 4, some secondMark⟩, ⟨56, 8, none⟩]
    ++ BcdVersion.layout 64 ++ BcdVersion.layout 76 ++ [⟨88, 4, none⟩, ⟨92, 4, none⟩]

theorem follows_read : Follows (.header .mark) 0 size layout read ofData :=
  (Follows.read 0 16).bind fun _ => (Follows.skip 16 4).bind fun _ =>
    (Follows.expect 20 firstMark).bind fun _ =>
    (Follows.number 24 1).map.bind fun _ => (Follows.number 25 1).map.bind fun _ =>
    (Follows.number 26 2).map.bind fun _ => (Follows.number 28 4).map.bind fun _ =>
    (Follows.number 32 4).map.bind fun _ => (Follows.number 36 4).map.bind fun _ =>
    (Follows.number 40 4).map.bind fun _ => (Follows.number 44 2).map.bind fun _ =>
    (Follows.number 46 2).map.bind fun _ => (Follows.number 48 2).map.bind fun _ =>
    (Follows.number 50 2).map.bind fun _ => (Follows.expect 52 secondMark).bind fun _ =>
    (Follows.number 56 8).map.bind fun _ => (BcdVersion.follows_read 64).bind fun _ =>
    (BcdVersion.follows_read 76).bind fun _ => (Follows.number 88 4).map.bind fun _ =>
    (Follows.skip 92 4).bind fun _ => .pure _

variable {h : Header} {g : Gaps} {data rest : Bytes}

/-! ## Reading what is written -/

theorem abut_table (hnonce : h.nonce.length = 16) : Abut 0 (h.table g) := by
  simp [table, BcdVersion.table, Abut, hnonce, firstMark, secondMark]

/-- All headers are divided in the same way. -/
theorem sizes_table (hnonce : h.nonce.length = 16) :
    (h.table g).map (fun x => (x.1, x.2.length)) = layout.map fun f => (f.place, f.size) := by
  simp [table, BcdVersion.table, layout, BcdVersion.layout, hnonce, firstMark, secondMark]

theorem length_encode (hnonce : h.nonce.length = 16) : (h.encode g).length = size := by
  simp [encode, table, BcdVersion.table, hnonce, firstMark, secondMark, size]

/-- The fields that are found at their places make the header. -/
theorem ofData_eq (hnonce : h.nonce.length = 16)
    (hparts : ∀ x ∈ h.table g, (data.drop x.1).take x.2.length = x.2) : ofData data = h := by
  simp only [table, BcdVersion.table, List.cons_append, List.nil_append, List.forall_mem_cons,
    Bytes.length_ofLittle, hnonce] at hparts
  simp only [ofData, BcdVersion.ofData, numberAt, hparts, ofNat8_number, ofNat16_number,
    ofNat32_number, ofNat64_number]

theorem part_encode (hnonce : h.nonce.length = 16) (rest : Bytes) :
    ∀ x ∈ h.table g, ((h.encode g ++ rest).drop x.1).take x.2.length = x.2 := by
  have habut : Abut ([] : Bytes).length (h.table g) := abut_table hnonce
  exact habut.part_eq

/-! ## Faults -/

/-- One of the marks is there in full, and is another one. -/
def WrongMark (data : Bytes) : Prop :=
  (24 ≤ data.length ∧ (data.drop 20).take 4 ≠ firstMark) ∨
    (56 ≤ data.length ∧ (data.drop 52).take 4 ≠ secondMark)

instance : Decidable (WrongMark data) :=
  inferInstanceAs (Decidable (_ ∨ _))

theorem wrongMark_iff : WrongMark data ↔ ∃ f ∈ layout, Fits data f ∧ Mismarked data f := by
  simp [WrongMark, layout, BcdVersion.layout, Fits, Mismarked, Field.content]

theorem ordered_layout : layout.Pairwise fun f g => f.place + f.size ≤ g.place := by
  decide

theorem fits_of_mem_layout (hsize : size ≤ data.length) : ∀ f ∈ layout, Fits data f := by
  intro f hf
  have hbound : ∀ f ∈ layout, f.place + f.size ≤ size := by decide
  exact (hbound f hf).trans hsize

theorem parse_of_wrongMark (h : WrongMark data) : parse data = .error (.header .mark) := by
  obtain ⟨f, hf, hfits, hmark⟩ := wrongMark_iff.1 h
  exact follows_read.fails _ _ rfl (Field.findSome?_of_mismarked ordered_layout hf hfits hmark)

theorem not_mismarked_of_not_wrongMark (h : ¬ WrongMark data) :
    ∀ f ∈ layout, Fits data f → ¬ Mismarked data f :=
  fun f hf hfits hmark => h (wrongMark_iff.2 ⟨f, hf, hfits, hmark⟩)

theorem parse_of_short (h : ¬ WrongMark data) (hshort : data.length < size) :
    ∃ f, layout.find? (¬ Fits data ·) = some f ∧
      parse data = .error (.truncated f.place f.size) := by
  -- The last field does not fit, so there is a first one that does not.
  have hlast : ¬ Fits data ⟨92, 4, none⟩ := Nat.not_le.2 hshort
  have hfound : (layout.find? (¬ Fits data ·)).isSome := by
    rw [List.find?_isSome]
    exact ⟨⟨92, 4, none⟩, by decide, by simpa using hlast⟩
  obtain ⟨f, hf⟩ := Option.isSome_iff_exists.1 hfound
  refine ⟨f, hf, follows_read.fails _ _ rfl ?_⟩
  exact Field.findSome?_of_find? hf (not_mismarked_of_not_wrongMark h)

theorem parse_of_whole (h : ¬ WrongMark data) (hsize : size ≤ data.length) :
    parse data = .ok (ofData data) := by
  have hnone : layout.findSome? (fault? (.header .mark) data) = none := by
    refine List.findSome?_eq_none_iff.2 fun f hf => ?_
    have hfits := fits_of_mem_layout hsize f hf
    exact Field.fault?_eq_none_iff.2 ⟨hfits, not_mismarked_of_not_wrongMark h f hf hfits⟩
  obtain ⟨c', hread, -⟩ := follows_read.reads (Cursor.start data) rfl hnone
  exact Cursor.runOn_eq_ok_iff.2 ⟨c', hread⟩

theorem not_wrongMark_iff (hsize : size ≤ data.length) :
    ¬ WrongMark data ↔ (data.drop 20).take 4 = firstMark ∧ (data.drop 52).take 4 = secondMark := by
  simp only [size] at hsize
  have hfirst : 24 ≤ data.length := by omega
  have hsecond : 56 ≤ data.length := by omega
  simp [WrongMark, hfirst, hsecond]

theorem parse_eq_ok_iff :
    parse data = .ok h ↔ size ≤ data.length ∧ ¬ WrongMark data ∧ ofData data = h := by
  constructor
  · intro hparse
    by_cases hmark : WrongMark data
    · rw [parse_of_wrongMark hmark] at hparse
      cases hparse
    by_cases hsize : size ≤ data.length
    · rw [parse_of_whole hmark hsize, Except.ok.injEq] at hparse
      exact ⟨hsize, hmark, hparse⟩
    · obtain ⟨f, -, hf⟩ := parse_of_short hmark (Nat.lt_of_not_le hsize)
      rw [hf] at hparse
      cases hparse
  · rintro ⟨hsize, hmark, rfl⟩
    exact parse_of_whole hmark hsize

/-! ## What is read was written -/

theorem ofLittle_numberAt {place size : Nat} (h : place + size ≤ data.length) :
    ofLittle size (numberAt data place size) = (data.drop place).take size := by
  have hlength : ((data.drop place).take size).length = size := by
    simp only [List.length_take, List.length_drop]
    omega
  have hback := Bytes.ofLittle_littleEndian ((data.drop place).take size)
  rwa [hlength] at hback

theorem numberAt_lt (data : Bytes) (place size : Nat) : numberAt data place size < 256 ^ size := by
  refine (Bytes.littleEndian_lt _).trans_le (Nat.pow_le_pow_right (by decide) ?_)
  exact List.length_take_le _ _

theorem toNat8_numberAt (data : Bytes) (place : Nat) :
    (UInt8.ofNat (numberAt data place 1)).toNat = numberAt data place 1 :=
  UInt8.toNat_ofNat_of_lt' (numberAt_lt data place 1)

theorem toNat16_numberAt (data : Bytes) (place : Nat) :
    (UInt16.ofNat (numberAt data place 2)).toNat = numberAt data place 2 :=
  UInt16.toNat_ofNat_of_lt' (numberAt_lt data place 2)

theorem toNat32_numberAt (data : Bytes) (place : Nat) :
    (UInt32.ofNat (numberAt data place 4)).toNat = numberAt data place 4 :=
  UInt32.toNat_ofNat_of_lt' (numberAt_lt data place 4)

theorem toNat64_numberAt (data : Bytes) (place : Nat) :
    (UInt64.ofNat (numberAt data place 8)).toNat = numberAt data place 8 :=
  UInt64.toNat_ofNat_of_lt' (numberAt_lt data place 8)

/-- Data that are long enough hold a header at its places, if the marks are the right ones. -/
theorem part_ofData (hsize : size ≤ data.length) (hmark : ¬ WrongMark data) :
    ∀ x ∈ (ofData data).table (.ofData data hsize), (data.drop x.1).take x.2.length = x.2 := by
  obtain ⟨hfirst, hsecond⟩ := (not_wrongMark_iff hsize).1 hmark
  simp only [size] at hsize
  simp (disch := omega) only [table, BcdVersion.table, Gaps.ofData, BcdVersion.Gaps.ofData, ofData,
    BcdVersion.ofData, toList_gap, toNat8_numberAt, toNat16_numberAt, toNat32_numberAt,
    toNat64_numberAt, ofLittle_numberAt, List.cons_append, List.nil_append, List.forall_mem_cons]
  simpa using ⟨hfirst, hsecond⟩

theorem parse_encode (hnonce : h.nonce.length = 16) : parse (h.encode g ++ rest) = .ok h := by
  have hparts := part_encode (g := g) hnonce rest
  have hsize : size ≤ (h.encode g ++ rest).length := by
    rw [List.length_append, length_encode hnonce]
    exact Nat.le_add_right _ _
  refine parse_eq_ok_iff.2 ⟨hsize, ?_, ofData_eq hnonce hparts⟩
  rw [not_wrongMark_iff hsize]
  exact ⟨hparts (20, firstMark) (by simp [table]), hparts (52, secondMark) (by simp [table])⟩

theorem exists_encode (hparse : parse data = .ok h) :
    h.nonce.length = 16 ∧ ∃ g rest, data = h.encode g ++ rest := by
  obtain ⟨hsize, hmark, rfl⟩ := parse_eq_ok_iff.1 hparse
  have hnonce : (ofData data).nonce.length = 16 := by
    simp only [size] at hsize
    simp only [ofData, List.drop_zero, List.length_take]
    omega
  obtain ⟨rest, hrest⟩ := (abut_table hnonce).drop_eq (part_ofData hsize hmark)
  exact ⟨hnonce, _, rest, hrest⟩

/-- Bytes behind the header do not count. -/
theorem parse_take (data : Bytes) : parse (data.take size) = parse data := by
  by_cases hsize : size ≤ data.length
  · by_cases hmark : WrongMark data
    · have htake : size ≤ (data.take size).length := by
        rw [List.length_take, Nat.min_eq_left hsize]
      have hpart {place room : Nat} (h : place + room ≤ size) :
          ((data.take size).drop place).take room = (data.drop place).take room :=
        Bytes.part_eq_of_take_eq h (by rw [List.take_take, Nat.min_self])
      have hmark' : WrongMark (data.take size) := by
        by_contra hright
        rw [not_wrongMark_iff htake, hpart (by decide), hpart (by decide),
          ← not_wrongMark_iff hsize] at hright
        exact hright hmark
      rw [parse_of_wrongMark hmark, parse_of_wrongMark hmark']
    · -- The bytes of the header are those that it is written in, with nothing behind them.
      obtain ⟨h, hparse⟩ : ∃ h, parse data = .ok h := ⟨_, parse_of_whole hmark hsize⟩
      obtain ⟨hnonce, g, rest, rfl⟩ := exists_encode hparse
      rw [hparse, ← length_encode (g := g) hnonce, List.take_left, ← List.append_nil (h.encode g),
        parse_encode hnonce]
  · rw [List.take_of_length_le (Nat.le_of_not_le hsize)]

/-- A header that is written in its ninety-six bytes, with each field at its place, is read again,
whatever stands in the gaps and behind it, and nothing else is read.  Data are a header if they are
long enough and have the two marks; bytes behind the header do not count.  Shorter data are refused
for a wrong mark that they hold in full, and otherwise for the first field that they do not hold in
full. -/
theorem reads_by_places :
    (∀ h g, h.nonce.length = 16 → (encode h g).length = size ∧
      (table h g).map (fun x => (x.1, x.2.length)) = layout.map (fun f => (f.place, f.size)) ∧
      ∀ rest, (∀ x ∈ table h g, ((encode h g ++ rest).drop x.1).take x.2.length = x.2) ∧
        parse (encode h g ++ rest) = .ok h) ∧
    (∀ data h, parse data = .ok h → h.nonce.length = 16 ∧ ∃ g rest, data = encode h g ++ rest) ∧
    (∀ data, (∃ h, parse data = .ok h) ↔ size ≤ data.length ∧
      (data.drop 20).take 4 = firstMark ∧ (data.drop 52).take 4 = secondMark) ∧
    (∀ data, parse (data.take size) = parse data) ∧
    (∀ data, WrongMark data → parse data = .error (.header .mark)) ∧
    ∀ data, data.length < size → ¬ WrongMark data →
      ∃ f, layout.find? (¬ Fits data ·) = some f ∧
        parse data = .error (.truncated f.place f.size) := by
  refine ⟨?_, fun data h => exists_encode, ?_, parse_take, fun data => parse_of_wrongMark,
    fun data hshort hmark => parse_of_short hmark hshort⟩
  · intro h g hnonce
    exact ⟨length_encode hnonce, sizes_table hnonce, fun rest =>
      ⟨part_encode hnonce rest, parse_encode hnonce⟩⟩
  · intro data
    constructor
    · rintro ⟨h, hparse⟩
      obtain ⟨hsize, hmark, -⟩ := parse_eq_ok_iff.1 hparse
      exact ⟨hsize, (not_wrongMark_iff hsize).1 hmark⟩
    · rintro ⟨hsize, hmarks⟩
      exact ⟨ofData data, parse_of_whole ((not_wrongMark_iff hsize).2 hmarks) hsize⟩

/-! ## A header without zeros -/

namespace Trial

def header : Header where
  nonce := [1, 2, 3, 4, 5, 6, 7, 8, 9, 10, 11, 12, 13, 14, 15, 16]
  formatMajor := 17
  formatMinor := 18
  flags := 0x1920
  imageBlocks := 0x21222324
  firstBootTagBlock := 0x25262728
  firstBootSection := 0x29303132
  certificateOffset := 0x33343536
  headerBlocks := 0x3738
  keyBlobBlock := 0x3940
  keyBlobBlocks := 0x4142
  sectionHashes := 0x4344
  timestamp := 0x4546474849505152
  product := ⟨0x5354, 0x5556, 0x5758⟩
  component := ⟨0x5960, 0x6162, 0x6364⟩
  build := 0x65666768

/-- The gaps hold marks and other bytes. -/
def gaps : Gaps where
  afterNonce := ⟨firstMark, rfl⟩
  product := ⟨⟨[0x81, 0x82], rfl⟩, ⟨[0x83, 0x84], rfl⟩, ⟨[0x85, 0x86], rfl⟩⟩
  component := ⟨⟨[0x87, 0x88], rfl⟩, ⟨[0x89, 0x8A], rfl⟩, ⟨[0x8B, 0x8C], rfl⟩⟩
  afterBuild := ⟨secondMark, rfl⟩

/-- The last byte of the first mark is missing. -/
def cut : Bytes :=
  (header.encode gaps).take 23

/-- The first mark is another one, and the data end behind it. -/
def marred : Bytes :=
  (header.encode gaps).take 20 ++ [0x58, 0x54, 0x4D, 0x50]

end Trial

/-- The header is read with more bytes behind it; the data that end in the first mark are too short
there, and those with another mark are refused for that. -/
theorem reads_by_places_trial :
    parse (Trial.header.encode Trial.gaps ++ [1, 2]) = .ok Trial.header ∧
      (∃ g rest, Trial.header.encode Trial.gaps ++ [1, 2] = encode Trial.header g ++ rest) ∧
      parse Trial.marred = .error (.header .mark) ∧ parse Trial.cut = .error (.truncated 20 4) := by
  obtain ⟨hwritten, hread, -, -, hmarred, hshort⟩ := reads_by_places
  have hparse := ((hwritten Trial.header Trial.gaps rfl).2.2 [1, 2]).2
  have hcut : ¬ WrongMark Trial.cut := by decide
  have hfirst : layout.find? (¬ Fits Trial.cut ·) = some ⟨20, 4, some firstMark⟩ := by decide
  obtain ⟨f, hf, htruncated⟩ := hshort Trial.cut (by decide) hcut
  obtain rfl : ⟨20, 4, some firstMark⟩ = f := Option.some.inj (hfirst.symm.trans hf)
  exact ⟨hparse, (hread _ _ hparse).2, hmarred _ (by decide), htruncated⟩

end Header
end Sb2
end Reflash
