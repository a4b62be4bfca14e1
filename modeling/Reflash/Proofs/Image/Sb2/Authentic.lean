import Reflash.Crypto.Sample
import Reflash.Image.Sb2
import Reflash.Proofs.Image.Sb2.CertificateBlock
import Reflash.Proofs.Result

/-!
# Image.Sb2.Authentic — the images that are accepted

An image is accepted if it is signed from its first byte on, up to the signature, and the hash among
the signed bytes, if there is one, is that of all bytes behind the signature.

* `Image.Authentic` — all that an image has to fulfil, by the places of its parts;
* `Image.parseByPlaces` — reading an image by these places: there is no result, not even a failure,
  if a part is taken from outside of the data;
* `Image.accepts_exactly_authentic` — the authentic images are accepted and no others, no part is
  ever taken from outside, and what is signed fixes the hash of the rest.
-/

namespace Reflash
namespace Sb2

open Cursor (TakesExactly)

/-! ## Headers -/

namespace Header

theorem takesExactly_bcd : TakesExactly 12 BcdVersion.read := by
  have hpart : TakesExactly 4 BcdVersion.part :=
    (TakesExactly.number 2).map.bind fun _ => (TakesExactly.skip 2).bind fun _ => .pure _
  exact hpart.bind fun _ => hpart.bind fun _ => hpart.bind fun _ => .pure _

theorem takesExactly_read : TakesExactly size read := by
  have word16 := TakesExactly.word16
  have word32 := TakesExactly.word32
  exact (TakesExactly.read 16).bind fun _ => (TakesExactly.skip 4).bind fun _ =>
    (TakesExactly.expect firstMark _).bind fun _ =>
    (TakesExactly.number 1).map.bind fun _ => (TakesExactly.number 1).map.bind fun _ =>
    word16.bind fun _ => word32.bind fun _ => word32.bind fun _ => word32.bind fun _ =>
    word32.bind fun _ => word16.bind fun _ => word16.bind fun _ => word16.bind fun _ =>
    word16.bind fun _ => (TakesExactly.expect secondMark _).bind fun _ =>
    (TakesExactly.number 8).map.bind fun _ => takesExactly_bcd.bind fun _ =>
    takesExactly_bcd.bind fun _ => word32.bind fun _ => (TakesExactly.skip 4).bind fun _ => .pure _

end Header

namespace Image

variable {primitives : Primitives} {data data' : Bytes} {image image' : Image}

/-! ## The places of the parts -/

/-- The room of the hash of the boot sections, if there is one. -/
def hashSize (h : Header) : Nat :=
  if h.hasSectionHash then 32 else 0

/-- The signature is over this many bytes and stands right behind them. -/
def signedSize (i : Image) : Nat :=
  blockOffset + i.block.paddedSize + hashSize i.header

def signatureSize (i : Image) : Nat :=
  i.block.chain.signatureLength

/-- Where the boot sections start. -/
def sectionsStart (i : Image) : Nat :=
  i.signedSize + i.signatureSize

structure Authentic (primitives : Primitives) (data : Bytes) (i : Image) : Prop where
  header : Header.parse data = .ok i.header
  certificateOffset : i.header.certificateOffset.toNat = blockOffset
  block : CertificateBlock.parse primitives (data.drop blockOffset) = .ok i.block
  room : i.sectionsStart ≤ data.length
  signed : ∃ key, Chain.key primitives i.block.chain.leaf = .ok key ∧
    primitives.certificateVerifies key (data.take i.signedSize)
      ((data.drop i.signedSize).take i.signatureSize) = true
  sections : i.header.hasSectionHash = true →
    (data.drop (i.signedSize - 32)).take 32 = primitives.hash (data.drop i.sectionsStart)

/-! ## Reading by places -/

/-- What becomes of the parts that the checks look at. -/
def verdict (primitives : Primitives) (chain : Chain) (signed signature : Bytes)
    (hash : Option Bytes) (sections : Bytes) : Except ParseError Unit :=
  match chain.accepts primitives signed signature with
  | .error e => .error (.crypto e)
  | .ok false => .error .forged
  | .ok true =>
      match hash with
      | some hash => if hash = primitives.hash sections then .ok () else .error .wrongSectionHash
      | none => .ok ()

/-- A computation that may fail, or may take a part from outside of the data and have no result. -/
abbrev PlaceM : Type → Type :=
  ExceptT ParseError Option

namespace PlaceM

/-- Fails if the data end before a part does. -/
def demand (data : Bytes) (place size : Nat) : PlaceM Unit :=
  if place + size ≤ data.length then return () else throw (.truncated place size)

def part (data : Bytes) (place size : Nat) : PlaceM Bytes :=
  ExceptT.lift (data.slice? place size)

/-- All from a place on. -/
def partFrom (data : Bytes) (place : Nat) : PlaceM Bytes :=
  part data place (data.length - place)

end PlaceM

open PlaceM (demand part partFrom)

/-- Checks the signature, and the hash of the boot sections if there is one. -/
def signatureByPlaces (primitives : Primitives) (data : Bytes) (i : Image) (hash : Option Bytes) :
    PlaceM Unit := do
  demand data i.signedSize i.signatureSize
  let signed ← part data 0 i.signedSize
  let signature ← part data i.signedSize i.signatureSize
  let sections ← partFrom data i.sectionsStart
  ofExcept (verdict primitives i.block.chain signed signature hash sections)

def checkByPlaces (primitives : Primitives) (data : Bytes) (i : Image) : PlaceM Unit := do
  demand data blockOffset i.block.paddedSize
  if i.header.hasSectionHash then
    demand data (blockOffset + i.block.paddedSize) 32
    signatureByPlaces primitives data i (some (← part data (i.signedSize - 32) 32))
  else signatureByPlaces primitives data i none

def parseByPlaces (primitives : Primitives) (data : Bytes) : PlaceM Image := do
  let header ← ofExcept (Header.parse data)
  if header.certificateOffset.toNat ≠ blockOffset then throw (.header .blockOffset)
  demand data 0 blockOffset
  let block ← ofExcept (CertificateBlock.parse primitives (← partFrom data blockOffset))
  checkByPlaces primitives data ⟨header, block⟩
  return ⟨header, block⟩

section

variable {α β : Type} {place size : Nat}

theorem run_ofExcept_bind {x : Except ParseError α} {f : α → PlaceM β} :
    ((ofExcept x : PlaceM α) >>= f).run =
      match x with
      | .ok a => (f a).run
      | .error e => some (.error e) := by
  cases x with
  | ok a => rfl
  | error e => rfl

theorem run_ofExcept {x : Except ParseError α} : (ofExcept x : PlaceM α).run = some x := by
  cases x with
  | ok a => rfl
  | error e => rfl

theorem run_demand_bind {f : Unit → PlaceM β} :
    (demand data place size >>= f).run =
      if place + size ≤ data.length then (f ()).run
      else some (.error (.truncated place size)) := by
  rw [demand]
  split
  · rfl
  · rfl

theorem run_part_bind {f : Bytes → PlaceM β} (h : place + size ≤ data.length) :
    (part data place size >>= f).run = (f ((data.drop place).take size)).run := by
  have hslice : data.slice? place size = some ((data.drop place).take size) := by
    rw [Bytes.slice?, if_pos h]
  rw [part, hslice]
  rfl

theorem run_partFrom_bind {f : Bytes → PlaceM β} (h : place ≤ data.length) :
    (partFrom data place >>= f).run = (f (data.drop place)).run := by
  rw [partFrom, run_part_bind (by omega), ← List.length_drop, List.take_length]

end

/-! ## The checks behind the certificates -/

theorem outcome_liftCrypto_bind {α β : Type} {x : Except CryptoError α} {f : α → ReadM β}
    {c : Cursor} :
    Cursor.outcome (CertificateBlock.liftCrypto x >>= f) c =
      match x with
      | .ok a => Cursor.outcome (f a) c
      | .error e => .error (.crypto e) := by
  cases x with
  | ok a => rfl
  | error e => rfl

theorem outcome_checks (chain : Chain) (hash : Option Bytes) (c : Cursor) :
    Cursor.outcome (do checkSignature primitives chain; checkSections primitives hash) c =
      if chain.signatureLength ≤ c.remaining then
        verdict primitives chain c.passed (c.ahead.take chain.signatureLength) hash
          (c.ahead.drop chain.signatureLength)
      else .error (.truncated c.position chain.signatureLength) := by
  -- The signed bytes are taken before the signature is read, the hashed ones behind it.
  simp only [checkSignature, bind_assoc, Cursor.outcome_get_bind, Cursor.outcome_read_bind]
  by_cases h : chain.signatureLength ≤ c.remaining
  · rw [dif_pos h, if_pos h, outcome_liftCrypto_bind]
    unfold verdict
    rcases chain.accepts primitives c.passed (c.ahead.take chain.signatureLength) with
      e | _ | _
    · rfl
    · rfl
    · cases hash with
      | none => rfl
      | some hash =>
          have hahead : (c.advance chain.signatureLength h).ahead =
              c.ahead.drop chain.signatureLength := Cursor.ahead_eq_drop rfl rfl
          by_cases hhash : hash = primitives.hash (c.ahead.drop chain.signatureLength)
          · simp [checkSections, Cursor.outcome_get_bind, hahead, hhash]
            rfl
          · simp [checkSections, Cursor.outcome_get_bind, hahead, hhash]
            rfl
  · rw [dif_neg h, if_neg h]

/-- The parts are taken if they are all there. -/
theorem run_signatureByPlaces {hash : Option Bytes} :
    (signatureByPlaces primitives data image hash).run =
      some (if image.sectionsStart ≤ data.length then
        verdict primitives image.block.chain (data.take image.signedSize)
          ((data.drop image.signedSize).take image.signatureSize) hash
          (data.drop image.sectionsStart)
      else .error (.truncated image.signedSize image.signatureSize)) := by
  rw [signatureByPlaces, run_demand_bind]
  by_cases hroom : image.sectionsStart ≤ data.length
  · have hfits : image.signedSize + image.signatureSize ≤ data.length := hroom
    rw [if_pos hroom, if_pos hfits, run_part_bind (by omega), run_part_bind hfits,
      run_partFrom_bind hroom, run_ofExcept]
    rfl
  · have hshort : ¬ image.signedSize + image.signatureSize ≤ data.length := hroom
    rw [if_neg hroom, if_neg hshort]

/-- A cursor at the signature has the parts around it. -/
theorem run_signatureByPlaces_at {hash : Option Bytes} {c : Cursor} (hdata : c.data = data)
    (hposition : c.position = image.signedSize) :
    (signatureByPlaces primitives data image hash).run =
      some (Cursor.outcome
        (do checkSignature primitives image.block.chain; checkSections primitives hash) c) := by
  have hle : image.signedSize ≤ data.length := hdata ▸ hposition ▸ c.position_le
  have hremaining : c.remaining = data.length - image.signedSize := by
    rw [Cursor.remaining, hdata, hposition]
  have hahead : c.ahead = data.drop image.signedSize := by
    rw [Cursor.ahead, hdata, hposition]
  have hpassed : c.passed = data.take image.signedSize := by
    rw [Cursor.passed, hdata, hposition]
  have hroom : image.block.chain.signatureLength ≤ data.length - image.signedSize ↔
      image.sectionsStart ≤ data.length := by
    rw [sectionsStart, signatureSize]
    omega
  rw [run_signatureByPlaces, outcome_checks, hremaining, hahead, hpassed, hposition,
    List.drop_drop]
  simp only [hroom]
  rfl

/-- The same from the certificate block on. -/
theorem run_checkByPlaces_at {c : Cursor} (hdata : c.data = data)
    (hposition : c.position = blockOffset) :
    (checkByPlaces primitives data image).run =
      some (Cursor.outcome (do
        Cursor.skip image.block.paddedSize
        let hash ← readSectionHash image.header
        checkSignature primitives image.block.chain
        checkSections primitives hash) c) := by
  have hle : blockOffset ≤ data.length := hdata ▸ hposition ▸ c.position_le
  have hremaining : c.remaining = data.length - blockOffset := by
    rw [Cursor.remaining, hdata, hposition]
  -- What is demanded at a place is what the cursor has left there, with and without the hash.
  rw [Cursor.outcome_skip_bind, checkByPlaces, run_demand_bind]
  by_cases hblock : blockOffset + image.block.paddedSize ≤ data.length
  · have hfits : image.block.paddedSize ≤ c.remaining := by omega
    rw [if_pos hblock, dif_pos hfits]
    have hat : (c.advance image.block.paddedSize hfits).position =
        blockOffset + image.block.paddedSize := congrArg (· + _) hposition
    cases hflag : image.header.hasSectionHash with
    | false =>
        have hsigned : image.signedSize = blockOffset + image.block.paddedSize := by
          simp [signedSize, hashSize, hflag]
        have hread : readSectionHash image.header = pure none := by
          simp [readSectionHash, hflag]
        rw [hread, pure_bind, if_neg Bool.false_ne_true]
        exact run_signatureByPlaces_at hdata (hat.trans hsigned.symm)
    | true =>
        have hsigned : image.signedSize = blockOffset + image.block.paddedSize + 32 := by
          simp [signedSize, hashSize, hflag]
        have hread : readSectionHash image.header = some <$> Cursor.read 32 := by
          simp [readSectionHash, hflag]
        have hsame : (c.advance image.block.paddedSize hfits).remaining =
            data.length - (blockOffset + image.block.paddedSize) := by
          rw [Cursor.remaining, hat]
          exact congrArg (·.length - _) hdata
        have hahead : (c.advance image.block.paddedSize hfits).ahead =
            data.drop (image.signedSize - 32) := by
          rw [Cursor.ahead, hat, hsigned, Nat.add_sub_cancel]
          exact congrArg (List.drop _) hdata
        rw [hread, if_pos rfl, bind_map_left, Cursor.outcome_read_bind, run_demand_bind, hahead,
          hat]
        by_cases hhash : blockOffset + image.block.paddedSize + 32 ≤ data.length
        · rw [if_pos hhash, dif_pos (by omega), run_part_bind (by omega)]
          exact run_signatureByPlaces_at hdata (hsigned ▸ congrArg (· + 32) hat)
        · rw [if_neg hhash, dif_neg (by omega)]
  · rw [if_neg hblock, dif_neg, hposition]
    omega

theorem runOn_skip {size : Nat} :
    Cursor.runOn (Cursor.skip size) data =
      if size ≤ data.length then .ok () else .error (.truncated 0 size) := by
  rw [Cursor.runOn_eq_outcome, ← bind_pure (Cursor.skip size), Cursor.outcome_skip_bind]
  by_cases h : size ≤ data.length
  · rw [if_pos h, dif_pos (by simpa using h)]
    rfl
  · rw [if_neg h, dif_neg (by simpa using h), Cursor.position_start]

theorem run_checkByPlaces (h : blockOffset ≤ data.length) :
    (checkByPlaces primitives data image).run =
      some (Cursor.runOn (checkRest primitives image.header image.block) data) := by
  have hstart : blockOffset ≤ (Cursor.start data).remaining := h
  rw [Cursor.runOn_eq_outcome, checkRest, Cursor.outcome_skip_bind, dif_pos hstart]
  exact run_checkByPlaces_at rfl (Nat.zero_add blockOffset)

/-- Reading by places is reading, and takes no part from outside of the data. -/
theorem run_parseByPlaces :
    (parseByPlaces primitives data).run = some (parse primitives data) := by
  -- Both go the same way up to the first failure.
  rw [parseByPlaces, parse, run_ofExcept_bind]
  cases hheader : Header.parse data with
  | error e => rfl
  | ok header =>
      rw [Result.ok_bind]
      by_cases hoffset : header.certificateOffset.toNat = blockOffset
      · simp only [hoffset, ne_eq, not_true_eq_false, if_false]
        rw [run_demand_bind, runOn_skip, Nat.zero_add]
        by_cases hblock : blockOffset ≤ data.length
        · rw [if_pos hblock, if_pos hblock, Result.ok_bind, run_partFrom_bind hblock,
            run_ofExcept_bind]
          cases hparse : CertificateBlock.parse primitives (data.drop blockOffset) with
          | error e => rfl
          | ok block =>
              rw [Result.ok_bind]
              change (checkByPlaces primitives data ⟨header, block⟩ >>= fun _ => _).run = _
              rw [ExceptT.run_bind, run_checkByPlaces hblock]
              cases Cursor.runOn (checkRest primitives header block) data with
              | ok u => rfl
              | error e => rfl
        · rw [if_neg hblock, if_neg hblock, Result.error_bind]
      · simp only [hoffset, ne_eq, not_false_eq_true, if_true]
        rfl

/-! ## Authentic images -/

theorem verdict_eq_ok {chain : Chain} {signed signature sections : Bytes} {hash : Option Bytes} :
    verdict primitives chain signed signature hash sections = .ok () ↔
      (∃ key, Chain.key primitives chain.leaf = .ok key ∧
        primitives.certificateVerifies key signed signature = true) ∧
      ∀ h, hash = some h → h = primitives.hash sections := by
  cases hkey : Chain.key primitives chain.leaf with
  | error e =>
      have haccepts : chain.accepts primitives signed signature = .error e := by
        rw [Chain.accepts, hkey, Result.error_bind]
      simp [verdict, haccepts]
  | ok key =>
      have haccepts : chain.accepts primitives signed signature =
          .ok (primitives.certificateVerifies key signed signature) := by
        rw [Chain.accepts, hkey, Result.ok_bind]
        rfl
      cases hverifies : primitives.certificateVerifies key signed signature with
      | false => simp [verdict, haccepts, hverifies]
      | true =>
          cases hash with
          | none => simp [verdict, haccepts, hverifies]
          | some hash => simp [verdict, haccepts, hverifies]

theorem run_checkByPlaces_eq_ok :
    (checkByPlaces primitives data image).run = some (.ok ()) ↔
      image.sectionsStart ≤ data.length ∧
      (∃ key, Chain.key primitives image.block.chain.leaf = .ok key ∧
        primitives.certificateVerifies key (data.take image.signedSize)
          ((data.drop image.signedSize).take image.signatureSize) = true) ∧
      (image.header.hasSectionHash = true →
        (data.drop (image.signedSize - 32)).take 32 =
          primitives.hash (data.drop image.sectionsStart)) := by
  rw [checkByPlaces, run_demand_bind]
  by_cases hroom : image.sectionsStart ≤ data.length
  · have hend : image.signedSize ≤ data.length := Nat.le_of_add_right_le hroom
    have hblock : blockOffset + image.block.paddedSize ≤ data.length := Nat.le_of_add_right_le hend
    rw [if_pos hblock]
    cases hflag : image.header.hasSectionHash with
    | false =>
        simp [run_signatureByPlaces, hroom, verdict_eq_ok]
    | true =>
        have hsigned : image.signedSize = blockOffset + image.block.paddedSize + 32 := by
          simp [signedSize, hashSize, hflag]
        rw [if_pos rfl, run_demand_bind, if_pos (hsigned ▸ hend), run_part_bind (by omega)]
        simp [run_signatureByPlaces, hroom, verdict_eq_ok]
  · -- Whichever part is missing first, there is a failure.
    have hfails (hash : Option Bytes) :
        (signatureByPlaces primitives data image hash).run ≠ some (.ok ()) := by
      simp [run_signatureByPlaces, hroom]
    refine iff_of_false ?_ fun h => hroom h.1
    split
    · cases hflag : image.header.hasSectionHash with
      | false => simpa using hfails none
      | true =>
          have hsigned : image.signedSize = blockOffset + image.block.paddedSize + 32 := by
            simp [signedSize, hashSize, hflag]
          rw [if_pos rfl, run_demand_bind]
          split
          · rw [run_part_bind (by omega)]
            exact hfails _
          · simp
    · simp

theorem authentic_of_parse (h : parse primitives data = .ok image) :
    Authentic primitives data image := by
  obtain ⟨header, hheader, h⟩ := Result.bind_eq_ok.1 h
  by_cases hoffset : header.certificateOffset.toNat = blockOffset
  · simp only [hoffset, ne_eq, not_true_eq_false, if_false] at h
    obtain ⟨_, hskip, h⟩ := Result.bind_eq_ok.1 h
    obtain ⟨block, hblock, h⟩ := Result.bind_eq_ok.1 h
    obtain ⟨_, hrest, h⟩ := Result.bind_eq_ok.1 h
    obtain rfl := Result.pure_eq_ok.1 h
    have hstart : blockOffset ≤ data.length := by
      by_contra hshort
      rw [runOn_skip, if_neg hshort] at hskip
      cases hskip
    have hplaces : (checkByPlaces primitives data ⟨header, block⟩).run = some (.ok ()) := by
      rw [run_checkByPlaces hstart, hrest]
    obtain ⟨hroom, hsigned, hsections⟩ := run_checkByPlaces_eq_ok.1 hplaces
    exact ⟨hheader, hoffset, hblock, hroom, hsigned, hsections⟩
  · simp only [hoffset, ne_eq, not_false_eq_true, if_true] at h
    cases h

theorem parse_of_authentic (h : Authentic primitives data image) :
    parse primitives data = .ok image := by
  have hstart : blockOffset ≤ data.length :=
    Nat.le_of_add_right_le (Nat.le_of_add_right_le (Nat.le_of_add_right_le h.room))
  have hchecks := run_checkByPlaces_eq_ok.2 ⟨h.room, h.signed, h.sections⟩
  rw [run_checkByPlaces hstart, Option.some_inj] at hchecks
  rw [parse, h.header, Result.ok_bind]
  simp only [h.certificateOffset, ne_eq, not_true_eq_false, if_false]
  rw [runOn_skip, if_pos hstart, Result.ok_bind, h.block, Result.ok_bind, hchecks, Result.ok_bind]
  rfl

/-! ## What the signed bytes fix -/

namespace Authentic

theorem header_eq (h : Authentic primitives data image) (h' : Authentic primitives data' image')
    (hsame : data'.take image.signedSize = data.take image.signedSize) :
    image'.header = image.header := by
  have hsize : 0 + Header.size ≤ image.signedSize := by
    rw [signedSize, blockOffset, Header.size]
    omega
  have hfirst : data'.take Header.size = data.take Header.size := 
    Bytes.part_eq_of_take_eq hsize hsame
  have hheader : Header.parse data' = .ok image.header :=
    Header.takesExactly_read.runOn h.header hfirst
  exact Except.ok.inj (h'.header.symm.trans hheader)

/-- The length of the table of certificates is among the signed bytes. -/
theorem paddedSize_eq (h : Authentic primitives data image) (h' : Authentic primitives data' image')
    (hsame : data'.take image.signedSize = data.take image.signedSize) :
    image'.block.paddedSize = image.block.paddedSize := by
  -- In both blocks the length is written in bytes 28 to 32.
  obtain ⟨_, hlayout⟩ := CertificateBlock.layout_of_parse h.block
  obtain ⟨_, hlayout'⟩ := CertificateBlock.layout_of_parse h'.block
  have hplace : blockOffset + 28 + 4 ≤ image.signedSize := by
    rw [signedSize, CertificateBlock.paddedSize, CertificateBlock.headerSize]
    omega
  have htable : image'.block.tableLength.toNat = image.block.tableLength.toNat := by
    rw [hlayout.tableLength, hlayout'.tableLength, List.drop_drop, List.drop_drop,
      Bytes.part_eq_of_take_eq hplace hsame]
  rw [CertificateBlock.paddedSize, CertificateBlock.paddedSize, htable]

theorem signedSize_eq (h : Authentic primitives data image) (h' : Authentic primitives data' image')
    (hsame : data'.take image.signedSize = data.take image.signedSize) :
    image'.signedSize = image.signedSize := by
  rw [signedSize, signedSize, h.paddedSize_eq h' hsame, h.header_eq h' hsame]

/-- The hash of the boot sections is among the signed bytes. -/
theorem hash_sections_eq (h : Authentic primitives data image)
    (h' : Authentic primitives data' image') (hflag : image.header.hasSectionHash = true)
    (hsame : data'.take image.signedSize = data.take image.signedSize) :
    primitives.hash (data'.drop image'.sectionsStart) =
      primitives.hash (data.drop image.sectionsStart) := by
  have hflag' : image'.header.hasSectionHash = true := by rwa [h.header_eq h' hsame]
  have hplace : image.signedSize - 32 + 32 ≤ image.signedSize := by
    rw [signedSize, blockOffset]
    omega
  -- In both images the hash is at the end of the signed bytes, which are the same.
  rw [← h'.sections hflag', ← h.sections hflag, h.signedSize_eq h' hsame,
    Bytes.part_eq_of_take_eq hplace hsame]

end Authentic

/-- The signatures of two images that start with the same signed bytes may differ, even in
length. -/
theorem accepts_exactly_authentic (primitives : Primitives) :
    (∀ data image, parse primitives data = .ok image ↔ Authentic primitives data image) ∧
      (∀ data, (parseByPlaces primitives data).run = some (parse primitives data)) ∧
      ∀ data data' image image',
        parse primitives data = .ok image → parse primitives data' = .ok image' →
        image.header.hasSectionHash = true →
        data'.take image.signedSize = data.take image.signedSize →
        image'.header = image.header ∧ image'.signedSize = image.signedSize ∧
          primitives.hash (data'.drop image'.sectionsStart) =
            primitives.hash (data.drop image.sectionsStart) := by
  refine ⟨fun data image => ⟨authentic_of_parse, parse_of_authentic⟩,
    fun data => run_parseByPlaces, ?_⟩
  intro data data' image image' hparse hparse' hflag hsame
  have h := authentic_of_parse hparse
  have h' := authentic_of_parse hparse'
  exact ⟨h.header_eq h' hsame, h.signedSize_eq h' hsame, h.hash_sections_eq h' hflag hsame⟩

end Image

/-! ## Two images with the same signed bytes -/

namespace Trial

/-- A byte string is hashed to its length, all certificates are alike but for their signatures, and
one signature counts. -/
def primitives : Primitives :=
  { Primitives.standard with
    hash := fun data => List.replicate 32 (UInt8.ofNat data.length)
    certificate := fun b => .ok { Sample.unsigned 0 {} with signature := ⟨0, b⟩ }
    certificateKey := fun _ => .ok ⟨1, 1⟩
    certificateVerifies := fun _ _ signature => signature = [2] }

def header (flags : UInt16) : Bytes :=
  List.replicate 20 0 ++ Header.firstMark ++ [0, 0] ++ Bytes.ofLittle 2 flags.toNat ++
    List.replicate 12 0 ++ Bytes.ofLittle 4 Image.blockOffset ++ List.replicate 8 0 ++
    Header.secondMark ++ List.replicate 40 0

/-- A block with one certificate, which has one byte. -/
def block (tableLength : UInt32) : Bytes :=
  CertificateBlock.mark ++ List.replicate 4 0 ++ Bytes.ofLittle 4 CertificateBlock.headerSize ++
    List.replicate 12 0 ++ Bytes.ofLittle 4 1 ++ Bytes.ofLittle 4 tableLength.toNat ++
    CertificateBlock.written [2] ++ List.replicate CertificateBlock.rootTableSize 2

/-- Up to its end, the block is padded by 11 bytes. -/
def image (sections : UInt8) : Bytes :=
  header 0x8000 ++ List.replicate 112 0 ++ block 5 ++ List.replicate 11 0 ++ List.replicate 32 1 ++
    [2, sections]

def parsedHeader (flags : UInt16) : Header where
  nonce := List.replicate 16 0
  formatMajor := 0
  formatMinor := 0
  flags := flags
  imageBlocks := 0
  firstBootTagBlock := 0
  firstBootSection := 0
  certificateOffset := 208
  headerBlocks := 0
  keyBlobBlock := 0
  keyBlobBlocks := 0
  sectionHashes := 0
  timestamp := 0
  product := ⟨0, 0, 0⟩
  component := ⟨0, 0, 0⟩
  build := 0

def parsedBlock (tableLength : UInt32) : CertificateBlock where
  formatMajor := 0
  formatMinor := 0
  flags := 0
  build := 0
  imageLength := 0
  tableLength := tableLength
  chain := ⟨{ Sample.unsigned 0 {} with signature := ⟨0, [2]⟩ }, []⟩
  rootTable := List.replicate CertificateBlock.rootTableSize 2
  rootIndex := 0

end Trial

theorem Image.accepts_exactly_authentic_trial :
    let parsed : Image := ⟨Trial.parsedHeader 0x8000, Trial.parsedBlock 5⟩
    Image.Authentic Trial.primitives (Trial.image 7) parsed ∧
      (Image.parseByPlaces Trial.primitives (Trial.image 7)).run = some (.ok parsed) ∧
      Trial.primitives.hash ((Trial.image 8).drop parsed.sectionsStart) =
        Trial.primitives.hash ((Trial.image 7).drop parsed.sectionsStart) := by
  intro parsed
  obtain ⟨haccepts, hplaces, hsigned⟩ := Image.accepts_exactly_authentic Trial.primitives
  have hparse : Image.parse Trial.primitives (Trial.image 7) = .ok parsed := by decide +kernel
  have hparse' : Image.parse Trial.primitives (Trial.image 8) = .ok parsed := by decide +kernel
  have hsame : (Trial.image 8).take parsed.signedSize = (Trial.image 7).take parsed.signedSize := by
    decide +kernel
  exact ⟨(haccepts _ _).1 hparse, (hplaces _).trans (congrArg some hparse),
    (hsigned _ _ _ _ hparse hparse' (by decide) hsame).2.2⟩

end Sb2
end Reflash
