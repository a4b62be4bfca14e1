import Reflash.Proofs.Image.Sb2.Authentic

/-!
# Image.Sb2.TableLength — the length that is given for the certificates

The header of a certificate block gives the length of its certificates.  It decides how much of an
image the block takes, and so what is signed, but it is not compared with the certificates that are
read.

* `CertificateBlock.parse_setTableLength` — with another length in its header, a block is read as
  before;
* `CertificateBlock.tableLength_not_compared` — when the length and the certificates agree on the
  size of the block, and when the table of root keys is among the signed bytes.
-/

namespace Reflash
namespace Sb2
namespace CertificateBlock

open Cursor (LooksAhead Reads TakesExactly reads_word32)

variable {primitives : Primitives} {data : Bytes} {b : CertificateBlock} {image : Image}

/-! ## Blocks with another length in the header -/

def setTableLength (n : UInt32) (data : Bytes) : Bytes :=
  data.take 28 ++ Bytes.ofLittle 4 n.toNat ++ data.drop headerSize

theorem length_setTableLength {n : UInt32} (h : headerSize ≤ data.length) :
    (setTableLength n data).length = data.length := by
  simp only [setTableLength, List.length_append, List.length_take, List.length_drop,
    Bytes.length_ofLittle, headerSize] at h ⊢
  omega

theorem length_take_start (h : headerSize ≤ data.length) : (data.take 28).length = 28 := by
  rw [List.length_take]
  exact Nat.min_eq_left (Nat.le_trans (by decide) h)

theorem take_setTableLength {n : UInt32} (h : headerSize ≤ data.length) :
    (setTableLength n data).take 28 = data.take 28 := by
  rw [setTableLength, List.append_assoc, List.take_left' (length_take_start h)]

theorem drop_setTableLength {n : UInt32} (h : headerSize ≤ data.length) :
    (setTableLength n data).drop 28 = Bytes.ofLittle 4 n.toNat ++ data.drop headerSize := by
  rw [setTableLength, List.append_assoc, List.drop_left' (length_take_start h)]

theorem looksAhead_readTables (count : UInt32) : LooksAhead (readTables primitives count) := by
  have hlift {α : Type} (x : Except CryptoError α) : LooksAhead (liftCrypto x) := by
    cases x with
    | ok a => exact .pure a
    | error e => exact .throw _
  have hcertificate : LooksAhead readCertificate :=
    TakesExactly.word32.looksAhead.bind fun n => (TakesExactly.read n.toNat).looksAhead
  -- The number of certificates bounds the reading, not the length that is given for them.
  have hcertificates (count : Nat) : LooksAhead (readCertificates count) := by
    induction count with
    | zero => exact .pure []
    | succ count ih => exact hcertificate.bind fun _ => ih.bind fun _ => .pure _
  exact (hcertificates _).bind fun _ => (hlift _).bind fun _ => (hlift _).bind fun _ =>
    (TakesExactly.read _).looksAhead.bind fun _ => (hlift _).bind fun _ => .pure _

/-- What stands in front of the length is read as before, and then the length is ahead. -/
theorem reads_setTableLength {n count : UInt32} {d₁ d₂ : Cursor}
    {start : UInt16 × UInt16 × UInt32 × UInt32 × UInt32} (h : headerSize ≤ data.length)
    (hstart : Reads readStart (Cursor.start data) start d₁)
    (hcount : Reads Cursor.word32 d₁ count d₂) :
    ∃ e₁ e₂, Reads readStart (Cursor.start (setTableLength n data)) start e₁ ∧
      Reads Cursor.word32 e₁ count e₂ ∧
      e₂.ahead = Bytes.ofLittle 4 n.toNat ++ data.drop headerSize := by
  have hsame : (setTableLength n data).take 28 = data.take 28 := take_setTableLength h
  have hfirst : (setTableLength n data).take 24 = data.take 24 :=
    Bytes.part_eq_of_take_eq (show 0 + 24 ≤ 28 by decide) hsame
  obtain ⟨-, -, -, hstart'⟩ := takesExactly_readStart hstart
  obtain ⟨e₁, he₁⟩ := hstart' (Cursor.start (setTableLength n data)) hfirst
  have hahead₁ : d₁.ahead = data.drop 24 := takesExactly_readStart.ahead_eq hstart
  have hahead₁' : e₁.ahead = (setTableLength n data).drop 24 :=
    takesExactly_readStart.ahead_eq he₁
  have hword : e₁.ahead.take 4 = d₁.ahead.take 4 := by
    rw [hahead₁, hahead₁']
    exact Bytes.part_eq_of_take_eq (by decide) hsame
  obtain ⟨-, -, -, hcount'⟩ := TakesExactly.word32 hcount
  obtain ⟨e₂, he₂⟩ := hcount' e₁ hword
  refine ⟨e₁, e₂, he₁, he₂, ?_⟩
  rw [TakesExactly.word32.ahead_eq he₂, hahead₁', List.drop_drop, drop_setTableLength h]

theorem reads_word32_append {n : UInt32} {rest : Bytes} {c : Cursor}
    (h : c.ahead = Bytes.ofLittle 4 n.toNat ++ rest) :
    ∃ c', Reads Cursor.word32 c n c' ∧ c'.ahead = rest := by
  have hlength : (Bytes.ofLittle 4 n.toNat).length = 4 := Bytes.length_ofLittle 4 n.toNat
  have hleft : 4 ≤ c.remaining := by
    rw [← Cursor.length_ahead, h, List.length_append, hlength]
    exact Nat.le_add_right 4 _
  have hahead : (c.advance 4 hleft).ahead = c.ahead.drop 4 := Cursor.ahead_eq_drop rfl rfl
  refine ⟨c.advance 4 hleft, reads_word32.2 ⟨hleft, ?_, rfl, rfl⟩, ?_⟩
  · rw [h, List.take_left' hlength, Bytes.littleEndian_ofLittle n.toNat_lt, UInt32.ofNat_toNat]
  · rw [hahead, h, List.drop_left' hlength]

/-- Of the length in the header, only the room that it needs is checked. -/
theorem parse_setTableLength {n : UInt32} (h : parse primitives data = .ok b)
    (hroom : n.toNat + rootTableSize ≤ data.length) :
    parse primitives (setTableLength n data) = .ok { b with tableLength := n } := by
  obtain ⟨c', hread⟩ := Cursor.runOn_eq_ok_iff.1 h
  obtain ⟨hsize, -, count, hash, d₁, d₂, d₃, hstart, hcount, htable, htables, hindex⟩ :=
    reads_block.1 hread
  have hlength : data.length = (setTableLength n data).length := (length_setTableLength hsize).symm
  obtain ⟨-, -, hahead₃⟩ := ahead_of_header hstart hcount htable
  obtain ⟨e₁, e₂, hstart', hcount', hahead₂'⟩ := reads_setTableLength (n := n) hsize hstart hcount
  obtain ⟨e₃, htable', hahead₃'⟩ := reads_word32_append hahead₂'
  -- From here on, the same bytes are ahead in both.
  obtain ⟨e₄, htables', -⟩ := looksAhead_readTables count htables (hahead₃'.trans hahead₃.symm)
  exact Cursor.runOn_eq_ok_iff.2 ⟨e₄, reads_block.2 ⟨hlength ▸ hsize, hlength ▸ hroom,
    count, hash, e₁, e₂, e₃, hstart', hcount', htable', htables', hindex⟩⟩

/-! ## The size of the block and the certificates in it -/

/-- A size filled up to whole units of 16 bytes. -/
def padded (size : Nat) : Nat :=
  (size + 15) / 16 * 16

theorem padded_consumed {certificates : List Bytes} (h : Layout primitives data b certificates) :
    padded (consumed primitives data) = b.paddedSize ↔
      (extent certificates + 15) / 16 = (b.tableLength.toNat + 15) / 16 := by
  rw [h.consumed, paddedSize, padded, headerSize, rootTableSize]
  omega

/-- Where the table of root keys starts. -/
def rootTablePlace (certificates : List Bytes) : Nat :=
  headerSize + extent certificates

theorem slice_rootTable {certificates : List Bytes} (h : Layout primitives data b certificates) :
    data.slice? (rootTablePlace certificates) rootTableSize = some b.rootTable := by
  obtain ⟨header, rest, hdata, hheader⟩ := h.parts
  have hplace : (header ++ certificates.flatMap written).length = rootTablePlace certificates := by
    rw [List.length_append, hheader, length_flatMap_written, rootTablePlace]
  have hdrop : data.drop (rootTablePlace certificates) = b.rootTable ++ rest := by
    rw [hdata, List.append_assoc, List.drop_left' hplace]
  have hroom : rootTablePlace certificates + rootTableSize ≤ data.length := by
    rw [hdata, List.length_append, List.length_append, hplace, h.rootTable_length]
    exact Nat.le_add_right _ _
  rw [Bytes.slice?, if_pos hroom, hdrop, List.take_left' h.rootTable_length]

/-- A part of the signed bytes is a part of the data that ends among them. -/
theorem slice_signed {place size : Nat} {part : Bytes} (h : Image.Authentic primitives data image)
    (hpart : Bytes.slice? (data.drop Image.blockOffset) place size = some part) :
    Bytes.slice? (data.take image.signedSize) (Image.blockOffset + place) size = some part ↔
      place + size ≤ image.block.paddedSize + Image.hashSize image.header := by
  have hend : image.signedSize ≤ data.length := Nat.le_of_add_right_le h.room
  have hlength : (data.take image.signedSize).length = image.signedSize := by
    rw [List.length_take, Nat.min_eq_left hend]
  -- Where the part ends behind the signed bytes, there is nothing to be found.
  rw [Bytes.slice?, hlength]
  by_cases hsigned : Image.blockOffset + place + size ≤ image.signedSize
  · have hroom : place + size ≤ (data.drop Image.blockOffset).length := by
      rw [List.length_drop]
      omega
    rw [Bytes.slice?, if_pos hroom, List.drop_drop] at hpart
    rw [if_pos hsigned, List.drop_take, List.take_take, Nat.min_eq_left (by omega), hpart]
    rw [Image.signedSize] at hsigned
    exact iff_of_true rfl (by omega)
  · rw [if_neg hsigned]
    rw [Image.signedSize] at hsigned
    exact iff_of_false (by simp) (by omega)

/-- The table of root keys is found among the signed bytes of an image. -/
def RootTableSigned (data : Bytes) (image : Image) (certificates : List Bytes) : Prop :=
  Bytes.slice? (data.take image.signedSize) (Image.blockOffset + rootTablePlace certificates)
    rootTableSize = some image.block.rootTable

/-- Whatever their length is said to be, the certificates that are read are the same.  The size of
the block is right up to its padding if the length is, and an image with a greater extent of
certificates may leave its table of root keys unsigned. -/
theorem tableLength_not_compared (primitives : Primitives) :
    (∀ data b, parse primitives data = .ok b →
      (∃ certificates, Layout primitives data b certificates ∧
        (padded (consumed primitives data) = b.paddedSize ↔
          (extent certificates + 15) / 16 = (b.tableLength.toNat + 15) / 16)) ∧
      ∀ n : UInt32, n.toNat + rootTableSize ≤ data.length →
        parse primitives (setTableLength n data) = .ok { b with tableLength := n }) ∧
    ∀ data image, Image.parse primitives data = .ok image →
      ∃ certificates, Layout primitives (data.drop Image.blockOffset) image.block certificates ∧
        (RootTableSigned data image certificates ↔
          rootTablePlace certificates + rootTableSize ≤
            image.block.paddedSize + Image.hashSize image.header) ∧
        (extent certificates ≤ image.block.tableLength.toNat →
          rootTablePlace certificates + rootTableSize ≤ image.block.paddedSize) := by
  constructor
  · intro data b hparse
    obtain ⟨certificates, hlayout⟩ := layout_of_parse hparse
    exact ⟨⟨certificates, hlayout, padded_consumed hlayout⟩, fun n => parse_setTableLength hparse⟩
  · intro data image hparse
    have hauthentic := Image.authentic_of_parse hparse
    obtain ⟨certificates, hlayout⟩ := layout_of_parse hauthentic.block
    refine ⟨certificates, hlayout, slice_signed hauthentic (slice_rootTable hlayout), ?_⟩
    intro hextent
    rw [rootTablePlace, paddedSize]
    omega

/-! ## An image with an unsigned table of root keys -/

/-- The length is given as zero, so that the signature is taken from the table of root keys. -/
def Trial.short : Bytes :=
  Sb2.Trial.header 0 ++ List.replicate 112 0 ++ Sb2.Trial.block 0

theorem tableLength_not_compared_trial :
    let image : Image := ⟨Sb2.Trial.parsedHeader 0, Sb2.Trial.parsedBlock 0⟩
    ∃ certificates,
      Layout Sb2.Trial.primitives (Trial.short.drop Image.blockOffset) image.block certificates ∧
      extent certificates = 5 ∧ image.block.tableLength.toNat = 0 ∧
      padded (consumed Sb2.Trial.primitives (Trial.short.drop Image.blockOffset)) ≠
        image.block.paddedSize ∧
      ¬ RootTableSigned Trial.short image certificates ∧
      parse Sb2.Trial.primitives (setTableLength 37 (Trial.short.drop Image.blockOffset)) =
        .ok (Sb2.Trial.parsedBlock 37) := by
  intro image
  have hblock : parse Sb2.Trial.primitives (Trial.short.drop Image.blockOffset) =
      .ok image.block := by
    decide +kernel
  have hparse : Image.parse Sb2.Trial.primitives Trial.short = .ok image := by
    decide +kernel
  have hconsumed : consumed Sb2.Trial.primitives (Trial.short.drop Image.blockOffset) = 165 := by
    decide +kernel
  obtain ⟨hblocks, himages⟩ := tableLength_not_compared Sb2.Trial.primitives
  obtain ⟨certificates, hlayout, hsigned, -⟩ := himages _ _ hparse
  -- Header, table of root keys and five bytes for the certificate are what has been read.
  have hextent : extent certificates = 5 := by
    have hsize := hlayout.consumed
    rw [hconsumed, headerSize, rootTableSize] at hsize
    omega
  refine ⟨certificates, hlayout, hextent, rfl, ?_, ?_,
    (hblocks _ _ hblock).2 37 (by decide +kernel)⟩
  · rw [hconsumed]
    decide
  · rw [hsigned, rootTablePlace, hextent]
    decide

end CertificateBlock
end Sb2
end Reflash
