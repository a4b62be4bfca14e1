import Reflash.Image.Sb2.CertificateBlock
import Reflash.Proofs.Bytes
import Reflash.Proofs.Image.Cursor

/-!
# Image.Sb2.CertificateBlock — how the blocks that are read are laid out

* `CertificateBlock.Layout` — a block is its header, the certificates one after the other, each with
  its length in front, and the table of root keys;
* `CertificateBlock.layout_of_parse` — every block that is read has this layout.

The place of the table of root keys goes by the certificates that are there, not by the length that
the header gives for them.
-/

namespace Reflash
namespace Sb2
namespace CertificateBlock

open Cursor (Reads TakesExactly reads_pure reads_bind reads_read reads_word32 reads_unless)

variable {primitives : Primitives} {data : Bytes} {b : CertificateBlock}

/-! ## Certificates as they are written -/

/-- A certificate with its length in front. -/
def written (certificate : Bytes) : Bytes :=
  Bytes.ofLittle 4 certificate.length ++ certificate

/-- The room that certificates take with their lengths. -/
def extent : List Bytes → Nat
  | [] => 0
  | first :: others => 4 + first.length + extent others

theorem length_flatMap_written (certificates : List Bytes) :
    (certificates.flatMap written).length = extent certificates := by
  induction certificates with
  | nil => rfl
  | cons first others ih => simp [extent, written, ih, Nat.add_assoc]

/-- How far into the data the reading of a block goes. -/
def consumed (primitives : Primitives) (data : Bytes) : Nat :=
  ((read primitives data.length).run.run (Cursor.start data)).2.position

structure Layout (primitives : Primitives) (data : Bytes) (b : CertificateBlock)
    (certificates : List Bytes) : Prop where
  /-- The header tells how many certificates there are, and how long they are together. -/
  count : Bytes.littleEndian ((data.drop 24).take 4) = certificates.length
  tableLength : b.tableLength.toNat = Bytes.littleEndian ((data.drop 28).take 4)
  /-- Lengths that do not fit into their four bytes are not written. -/
  fits : ∀ c ∈ certificates, c.length < 256 ^ 4
  parts : ∃ header rest,
    data = header ++ certificates.flatMap written ++ b.rootTable ++ rest ∧
      header.length = headerSize
  rootTable_length : b.rootTable.length = rootTableSize
  consumed : consumed primitives data = headerSize + extent certificates + rootTableSize
  decoded : Chain.decode primitives certificates = .ok b.chain
  /-- What is asked of the length in the header. -/
  room : b.tableLength.toNat + rootTableSize ≤ data.length

/-! ## Reading certificates -/

variable {c c' : Cursor} {bytes : Bytes} {certificates : List Bytes}

theorem reads_liftCrypto {α : Type} {x : Except CryptoError α} {a : α} :
    Reads (liftCrypto x) c a c' ↔ x = .ok a ∧ c' = c := by
  cases x with
  | ok a' => simp [liftCrypto, eq_comm]
  | error e => simp [liftCrypto]

theorem toNat_word32 (b : Bytes) (h : b.length = 4) :
    (UInt32.ofNat (Bytes.littleEndian b)).toNat = Bytes.littleEndian b := by
  have hlt : Bytes.littleEndian b < 256 ^ 4 := h ▸ Bytes.littleEndian_lt b
  exact UInt32.toNat_ofNat_of_lt' hlt

theorem ahead_of_readCertificate (h : Reads readCertificate c bytes c') :
    c'.data = c.data ∧ c'.position = c.position + (4 + bytes.length) ∧
      c.ahead = written bytes ++ c'.ahead ∧ bytes.length < 256 ^ 4 := by
  obtain ⟨n, d, hlength, hbytes⟩ := reads_bind.1 h
  obtain ⟨hfour, rfl, hdata, hposition⟩ := reads_word32.1 hlength
  obtain ⟨hahead, hsize⟩ := Cursor.ahead_eq_append hbytes
  obtain ⟨-, -, hdata', hposition'⟩ := reads_read.1 hbytes
  have htake : (c.ahead.take 4).length = 4 := Cursor.length_take_ahead hfour
  rw [toNat_word32 _ htake] at hsize hposition'
  -- The length that was read is the number of the bytes, so these are its digits.
  have hprefix : Bytes.ofLittle 4 bytes.length = c.ahead.take 4 := by
    have hback := Bytes.ofLittle_littleEndian (c.ahead.take 4)
    rwa [htake, ← hsize] at hback
  refine ⟨hdata'.trans hdata, by omega, ?_, ?_⟩
  · calc
      c.ahead = c.ahead.take 4 ++ c.ahead.drop 4 := (List.take_append_drop 4 c.ahead).symm
      _ = c.ahead.take 4 ++ (bytes ++ c'.ahead) := by
          rw [← Cursor.ahead_eq_drop hdata hposition, hahead]
      _ = written bytes ++ c'.ahead := by rw [written, hprefix, List.append_assoc]
  · have hlt := Bytes.littleEndian_lt (c.ahead.take 4)
    rwa [htake, ← hsize] at hlt

theorem ahead_of_readCertificates {count : Nat}
    (h : Reads (readCertificates count) c certificates c') :
    c'.data = c.data ∧ c'.position = c.position + extent certificates ∧
      c.ahead = certificates.flatMap written ++ c'.ahead ∧ certificates.length = count ∧
      ∀ bytes ∈ certificates, bytes.length < 256 ^ 4 := by
  induction count generalizing c certificates with
  | zero =>
      obtain ⟨rfl, rfl⟩ := reads_pure.1 h
      simp [extent]
  | succ count ih =>
      obtain ⟨first, d, hfirst, hrest⟩ := reads_bind.1 h
      obtain ⟨others, d', hothers, hpure⟩ := reads_bind.1 hrest
      obtain ⟨rfl, rfl⟩ := reads_pure.1 hpure
      obtain ⟨hdata, hposition, hahead, hsize⟩ := ahead_of_readCertificate hfirst
      obtain ⟨hdata', hposition', hahead', hlength, hsizes⟩ := ih hothers
      refine ⟨hdata'.trans hdata, ?_, ?_, ?_, ?_⟩
      · rw [hposition', hposition, Nat.add_assoc, extent]
      · rw [hahead, hahead', List.flatMap_cons, List.append_assoc]
      · rw [List.length_cons, hlength]
      · intro bytes hbytes
        rcases List.mem_cons.1 hbytes with rfl | hmem
        · exact hsize
        · exact hsizes bytes hmem

/-! ## Reading a block -/

/-- What stands in front of the number of certificates and their length. -/
def readStart : ReadM (UInt16 × UInt16 × UInt32 × UInt32 × UInt32) := do
  Cursor.expect mark (.certificateBlock .mark)
  let formatMajor ← Cursor.word16
  let formatMinor ← Cursor.word16
  if (← Cursor.word32).toNat ≠ headerSize then throw (.certificateBlock .headerLength)
  let flags ← Cursor.word32
  let build ← Cursor.word32
  let imageLength ← Cursor.word32
  return (formatMajor, formatMinor, flags, build, imageLength)

/-- What stands behind the header, and the hash of the root's key. -/
def readTables (primitives : Primitives) (count : UInt32) : ReadM (Chain × Bytes × Bytes) := do
  let chain ← liftCrypto (Chain.decode primitives (← readCertificates count.toNat))
  liftCrypto (Chain.verify primitives chain)
  let rootTable ← Cursor.read rootTableSize
  let hash ← liftCrypto (Chain.rootKeyHash primitives chain)
  return (chain, rootTable, hash)

/-- A block with the place of its root, if the root is listed. -/
def listed (block : Nat → CertificateBlock) : Option Nat → ReadM CertificateBlock
  | some rootIndex => return block rootIndex
  | none => throw (.certificateBlock .unlistedRoot)

theorem reads_listed {block : Nat → CertificateBlock} {index? : Option Nat} :
    Reads (listed block index?) c b c' ↔ ∃ i, index? = some i ∧ b = block i ∧ c' = c := by
  cases index? with
  | none => simp [listed]
  | some i => simp [listed, eq_comm]

theorem ite_bind {α β : Type} {p : Prop} [Decidable p] {m m' : ReadM α} {f : α → ReadM β} :
    (if p then m else m') >>= f = if p then m >>= f else m' >>= f := by
  split
  · rfl
  · rfl

theorem read_eq (length : Nat) :
    read primitives length = (do
      if length < headerSize then throw (.certificateBlock .size)
      let (formatMajor, formatMinor, flags, build, imageLength) ← readStart
      let count ← Cursor.word32
      let tableLength ← Cursor.word32
      if length < tableLength.toNat + rootTableSize then throw (.certificateBlock .tableLength)
      let (chain, rootTable, hash) ← readTables primitives count
      let block (rootIndex : Nat) : CertificateBlock := {
        formatMajor, formatMinor, flags, build, imageLength, tableLength, chain, rootTable,
        rootIndex }
      listed block (rootIndex? rootTable hash)) := by
  simp only [read, readStart, readTables, ite_bind, bind_assoc, pure_bind]
  rfl

theorem takesExactly_readStart : TakesExactly 24 readStart := by
  have word16 := TakesExactly.word16
  have word32 := TakesExactly.word32
  change TakesExactly (mark.length + (2 + (2 + (4 + 12)))) readStart
  refine (TakesExactly.expect mark _).bind fun _ => word16.bind fun _ => word16.bind fun _ =>
    word32.bind fun _ => TakesExactly.guarded ?_
  exact word32.bind fun _ => word32.bind fun _ => word32.bind fun _ => .pure _

theorem reads_readTables {count : UInt32} {chain : Chain} {rootTable hash : Bytes} :
    Reads (readTables primitives count) c (chain, rootTable, hash) c' ↔
      ∃ certificates d, Reads (readCertificates count.toNat) c certificates d ∧
        Chain.decode primitives certificates = .ok chain ∧ Chain.verify primitives chain = .ok () ∧
        Reads (Cursor.read rootTableSize) d rootTable c' ∧
        Chain.rootKeyHash primitives chain = .ok hash := by
  simp only [readTables, reads_bind, reads_liftCrypto]
  constructor
  · rintro ⟨certificates, d, hread, chain, _, ⟨hdecode, rfl⟩, _, _, ⟨hverify, rfl⟩, rootTable, _,
      hroots, hash, _, ⟨hhash, rfl⟩, hpure⟩
    obtain ⟨heq, rfl⟩ := reads_pure.1 hpure
    cases heq
    exact ⟨certificates, _, hread, hdecode, hverify, hroots, hhash⟩
  · rintro ⟨certificates, d, hread, hdecode, hverify, hroots, hhash⟩
    exact ⟨certificates, d, hread, chain, d, ⟨hdecode, rfl⟩, (), d, ⟨hverify, rfl⟩, rootTable, c',
      hroots, hash, c', ⟨hhash, rfl⟩, reads_pure.2 ⟨rfl, rfl⟩⟩

/-- A block is read if all its parts are, and the root of the chain is in the table. -/
theorem reads_block {length : Nat} :
    Reads (read primitives length) c b c' ↔
      headerSize ≤ length ∧ b.tableLength.toNat + rootTableSize ≤ length ∧
      ∃ count hash d₁ d₂ d₃,
        Reads readStart c (b.formatMajor, b.formatMinor, b.flags, b.build, b.imageLength) d₁ ∧
        Reads Cursor.word32 d₁ count d₂ ∧ Reads Cursor.word32 d₂ b.tableLength d₃ ∧
        Reads (readTables primitives count) d₃ (b.chain, b.rootTable, hash) c' ∧
        rootIndex? b.rootTable hash = some b.rootIndex := by
  rw [read_eq, reads_unless]
  constructor
  · rintro ⟨hsize, hread⟩
    obtain ⟨start, d₁, hstart, hread⟩ := reads_bind.1 hread
    obtain ⟨count, d₂, hcount, hread⟩ := reads_bind.1 hread
    obtain ⟨tableLength, d₃, htable, hread⟩ := reads_bind.1 hread
    obtain ⟨hroom, hread⟩ := reads_unless.1 hread
    obtain ⟨⟨chain, rootTable, hash⟩, d₄, htables, hread⟩ := reads_bind.1 hread
    obtain ⟨rootIndex, hindex, rfl, rfl⟩ := reads_listed.1 hread
    exact ⟨Nat.le_of_not_lt hsize, Nat.le_of_not_lt hroom, count, hash, d₁, d₂, d₃, hstart, hcount,
      htable, htables, hindex⟩
  · rintro ⟨hsize, hroom, count, hash, d₁, d₂, d₃, hstart, hcount, htable, htables, hindex⟩
    refine ⟨Nat.not_lt.2 hsize, reads_bind.2 ⟨_, d₁, hstart, reads_bind.2 ⟨count, d₂, hcount,
      reads_bind.2 ⟨_, d₃, htable, reads_unless.2 ⟨Nat.not_lt.2 hroom,
        reads_bind.2 ⟨_, c', htables, ?_⟩⟩⟩⟩⟩⟩
    exact reads_listed.2 ⟨b.rootIndex, hindex, rfl, rfl⟩

/-- The places of the two numbers at the end of the header, and of the tables. -/
theorem ahead_of_header {start : UInt16 × UInt16 × UInt32 × UInt32 × UInt32} {count n : UInt32}
    {d₁ d₂ d₃ : Cursor} (hstart : Reads readStart (Cursor.start data) start d₁)
    (hcount : Reads Cursor.word32 d₁ count d₂) (htable : Reads Cursor.word32 d₂ n d₃) :
    d₁.ahead = data.drop 24 ∧ d₂.ahead = data.drop 28 ∧ d₃.ahead = data.drop headerSize := by
  have hahead₁ : d₁.ahead = data.drop 24 := takesExactly_readStart.ahead_eq hstart
  have hahead₂ : d₂.ahead = data.drop 28 := by
    rw [TakesExactly.word32.ahead_eq hcount, hahead₁, List.drop_drop]
  refine ⟨hahead₁, hahead₂, ?_⟩
  rw [TakesExactly.word32.ahead_eq htable, hahead₂, List.drop_drop, headerSize]

theorem layout_of_parse (h : parse primitives data = .ok b) :
    ∃ certificates, Layout primitives data b certificates := by
  obtain ⟨c', hread⟩ := Cursor.runOn_eq_ok_iff.1 h
  have hconsumed : consumed primitives data = c'.position := by
    rw [Reads] at hread
    rw [consumed, hread]
  obtain ⟨hsize, hroom, count, hash, d₁, d₂, d₃, hstart, hcount, htable, htables, -⟩ :=
    reads_block.1 hread
  obtain ⟨hahead₁, hahead₂, hahead₃⟩ := ahead_of_header hstart hcount htable
  obtain ⟨certificates, d₄, hcertificates, hdecode, -, hroots, -⟩ := reads_readTables.1 htables
  obtain ⟨-, -, hat₁, -⟩ := takesExactly_readStart hstart
  obtain ⟨hleft₁, hcount, -, hat₂⟩ := reads_word32.1 hcount
  obtain ⟨hleft₂, htable, -, hat₃⟩ := reads_word32.1 htable
  obtain ⟨-, hat₄, hahead₄, hlength, hfits⟩ := ahead_of_readCertificates hcertificates
  obtain ⟨hrest, hroot⟩ := Cursor.ahead_eq_append hroots
  obtain ⟨-, -, -, hat⟩ := reads_read.1 hroots
  -- Behind the header there are the tables, and then whatever is left.
  have hparts : data.drop headerSize =
      certificates.flatMap written ++ b.rootTable ++ c'.ahead := by
    rw [← hahead₃, hahead₄, hrest, List.append_assoc]
  refine ⟨certificates, ?_, ?_, hfits, ⟨data.take headerSize, c'.ahead, ?_, ?_⟩, hroot, ?_, hdecode,
    hroom⟩
  · rw [← hahead₁, hlength, hcount, toNat_word32 _ (Cursor.length_take_ahead hleft₁)]
  · rw [← hahead₂, htable, toNat_word32 _ (Cursor.length_take_ahead hleft₂)]
  · rw [List.append_assoc, List.append_assoc, ← List.append_assoc _ b.rootTable, ← hparts,
      List.take_append_drop]
  · rw [List.length_take, Nat.min_eq_left hsize]
  · rw [hconsumed, hat, hat₄, hat₃, hat₂, hat₁, Cursor.position_start, headerSize]

end CertificateBlock
end Sb2
end Reflash
