import Reflash.Proofs.Bytes
import Reflash.Proofs.Device.Reply
import Reflash.Proofs.Version.Grammar

/-!
# Device.VersionReply — the two forms of a version in a reply

A device gives its version as a packed word of four bytes, highest byte first, or as a text.  No
text of a version is as short as a word, so that the length tells the two forms apart.

* `Version.five_le_length_of_parse` — the bytes of a version's text;
* `Admin.VersionReply` — what an answer says about the version, by the form that it has;
* `Admin.version_reply_unambiguous` — every answer is read as what it says, and as nothing else.
-/

namespace Reflash

open Bytes (ofText ofBig bigEndian)

/-! ## Texts and words -/

/-- A character takes a byte at least. -/
theorem Bytes.length_le_length_ofText (s : String) : s.toList.length ≤ (ofText s).length := by
  have hbytes : ofText s = s.toList.flatMap String.utf8EncodeChar := by
    simp [ofText, ← String.utf8Encode_toList, List.utf8Encode]
  rw [hbytes, List.length_flatMap,
    ← List.length_map (f := fun c => (String.utf8EncodeChar c).length)]
  refine List.length_le_sum_of_one_le _ fun n hn => ?_
  obtain ⟨c, -, rfl⟩ := List.mem_map.1 hn
  rw [String.length_utf8EncodeChar]
  exact c.utf8Size_pos

/-- Each of the three numerals has a digit, and there are two points. -/
theorem Version.five_le_length_of_parse {s : String} {v : Version} (h : parse s = .ok v) :
    5 ≤ (ofText s).length := by
  obtain ⟨x, rfl, -⟩ := parse_eq_ok_iff.1 h
  refine le_trans ?_ (Bytes.length_le_length_ofText _)
  have hmajor := List.length_pos_iff.2 x.major.ne_nil
  have hminor := List.length_pos_iff.2 x.minor.ne_nil
  have hpatch := List.length_pos_iff.2 x.patch.ne_nil
  simp only [Spelling.text, Spelling.release, Spelling.numbers, String.toList_ofList,
    List.length_append, List.length_cons]
  omega

theorem Bytes.exists_word_of_length {b : Bytes} (h : b.length = 4) :
    ∃ w : UInt32, b = ofBig 4 w.toNat := by
  have hlt : bigEndian b < 2 ^ 32 := by
    rw [bigEndian_eq_littleEndian]
    have hbound := littleEndian_lt b.reverse
    rwa [List.length_reverse, h] at hbound
  refine ⟨.ofNat (bigEndian b), ?_⟩
  rw [UInt32.toNat_ofNat_of_lt' hlt, ← h, ofBig_bigEndian]

namespace Admin

variable {answer : Except DeviceError Bytes} {result : Except DeviceError Version}

/-- What an answer to the version command comes to. -/
inductive VersionReply : Except DeviceError Bytes → Except DeviceError Version → Prop where
  | text {s : String} {v : Version} :
      Version.parse s = .ok v → VersionReply (.ok (ofText s)) (.ok v)
  | word (w : UInt32) : VersionReply (.ok (ofBig 4 w.toNat)) (.ok (.ofPacked w))
  | noText {reply : Bytes} {fault : Utf8.Fault} :
      reply.length ≠ 4 → Utf8.decode reply = .error fault →
      VersionReply (.ok reply) (.error (.malformed "VERSION" fault.message))
  | noVersion {s : String} {e : VersionError} :
      (ofText s).length ≠ 4 → Version.parse s = .error e →
      VersionReply (.ok (ofText s)) (.error (.malformed "VERSION" e.message))
  | unsupported {e : DeviceError} :
      e.statusCode? = some .invalidCommand →
      VersionReply (.error e) (.error (.rejected "VERSION" .invalidCommand))
  | failed {e : DeviceError} :
      e.statusCode? ≠ some .invalidCommand → VersionReply (.error e) (.error e)

theorem versionFrom_ok (reply : Bytes) : versionFrom (.ok reply) = versionOfReply reply :=
  rfl

theorem versionOfReply_word (w : UInt32) :
    versionOfReply (ofBig 4 w.toNat) = .ok (.ofPacked w) := by
  rw [versionOfReply, if_pos (Bytes.length_ofBig _ _), Bytes.bigEndian_ofBig w.toNat_lt,
    UInt32.ofNat_toNat]

theorem versionOfReply_text {s : String} (h : (ofText s).length ≠ 4) :
    versionOfReply (ofText s) =
      (Version.parse s).mapError fun e => .malformed "VERSION" e.message := by
  rw [versionOfReply, if_neg h, Utf8.decode_ofText]
  cases hparse : Version.parse s with
  | ok v => simp only [hparse, Except.mapError]
  | error e => simp only [hparse, Except.mapError, AdminCommand.name]

theorem VersionReply.eq (h : VersionReply answer result) : versionFrom answer = result := by
  cases h with
  | text h =>
      -- The text of a version is too long to be taken for a word.
      have hlength := Version.five_le_length_of_parse h
      rw [versionFrom_ok, versionOfReply_text (by omega), h]
      rfl
  | word w => rw [versionFrom_ok, versionOfReply_word]
  | noText hlength h =>
      rw [versionFrom_ok, versionOfReply, if_neg hlength, h]
      rfl
  | noVersion hlength h =>
      rw [versionFrom_ok, versionOfReply_text hlength, h]
      rfl
  | unsupported h => simp [versionFrom, received, h, AdminCommand.name]
  | failed h => simp [versionFrom, received, h]

/-- There is a form for every answer. -/
theorem versionReply_versionFrom (answer : Except DeviceError Bytes) :
    VersionReply answer (versionFrom answer) := by
  suffices hsome : ∃ result, VersionReply answer result by
    obtain ⟨result, h⟩ := hsome
    rwa [h.eq]
  cases answer with
  | error e =>
      by_cases h : e.statusCode? = some .invalidCommand
      · exact ⟨_, .unsupported h⟩
      · exact ⟨_, .failed h⟩
  | ok reply =>
      -- Four bytes are a word even where they spell something; only longer or shorter replies are
      -- decoded.
      by_cases hlength : reply.length = 4
      · obtain ⟨w, rfl⟩ := Bytes.exists_word_of_length hlength
        exact ⟨_, .word w⟩
      cases hdecode : Utf8.decode reply with
      | error fault => exact ⟨_, .noText hlength hdecode⟩
      | ok s =>
          obtain rfl := Utf8.decode_eq_ok_iff.1 hdecode
          cases hparse : Version.parse s with
          | ok v => exact ⟨_, .text hparse⟩
          | error e => exact ⟨_, .noVersion hlength hparse⟩

theorem versionReply_iff : VersionReply answer result ↔ versionFrom answer = result := by
  constructor
  · exact VersionReply.eq
  · rintro rfl
    exact versionReply_versionFrom answer

/-- A reply in neither of the two forms. -/
theorem exists_malformed {reply : Bytes}
    (htext : ¬ ∃ s v, reply = ofText s ∧ Version.parse s = .ok v)
    (hword : ¬ ∃ w : UInt32, reply = ofBig 4 w.toNat) :
    ∃ message, VersionReply (.ok reply) (.error (.malformed "VERSION" message)) := by
  have h := versionReply_versionFrom (.ok reply)
  generalize versionFrom (.ok reply) = result at h
  cases h with
  | text h => exact absurd ⟨_, _, rfl, h⟩ htext
  | word w => exact absurd ⟨w, rfl⟩ hword
  | noText hlength h => exact ⟨_, .noText hlength h⟩
  | noVersion hlength h => exact ⟨_, .noVersion hlength h⟩

/-- The device is asked once, and all else is in its answer. -/
theorem outcome_version {σ : Type} (device : Dialogue.Surroundings Call.Answer σ) (s : σ) :
    version.run.run device s =
      ⟨versionFrom (device s versionCall).1, [⟨versionCall, (device s versionCall).1⟩],
        (device s versionCall).2⟩ := by
  rw [run_version]
  rfl

/-- A device in any state, with any answer to the version command, is read as what the answer says:
a version's text as that version and no packed one, a word as the packed version even if its bytes
are printable, any other reply as malformed, and a command that the firmware does not know as
rejected. -/
theorem version_reply_unambiguous {σ : Type} (device : Dialogue.Surroundings Call.Answer σ)
    (s : σ) :
    (version.run.run device s).record = [⟨versionCall, (device s versionCall).1⟩] ∧
      (∀ result, (version.run.run device s).result = result ↔
        VersionReply (device s versionCall).1 result) ∧
      (∀ text v, Version.parse text = .ok v → (device s versionCall).1 = .ok (ofText text) →
        (version.run.run device s).result = .ok v) ∧
      (∀ w : UInt32, (device s versionCall).1 = .ok (ofBig 4 w.toNat) →
        (version.run.run device s).result = .ok (.ofPacked w)) ∧
      (∀ reply, (device s versionCall).1 = .ok reply →
        (¬ ∃ text v, reply = ofText text ∧ Version.parse text = .ok v) →
        (¬ ∃ w : UInt32, reply = ofBig 4 w.toNat) →
        ∃ message, (version.run.run device s).result = .error (.malformed "VERSION" message)) ∧
      ∀ e, (device s versionCall).1 = .error e → e.statusCode? = some .invalidCommand →
        (version.run.run device s).result = .error (.rejected "VERSION" .invalidCommand) := by
  rw [outcome_version]
  refine ⟨rfl, fun result => versionReply_iff.symm, ?_, ?_, ?_, ?_⟩
  · intro text v hparse hanswer
    rw [hanswer]
    exact (VersionReply.text hparse).eq
  · intro w hanswer
    rw [hanswer]
    exact (VersionReply.word w).eq
  · intro reply hanswer htext hword
    obtain ⟨message, h⟩ := exists_malformed htext hword
    rw [hanswer]
    exact ⟨message, h.eq⟩
  · intro e hanswer hcode
    rw [hanswer]
    exact (VersionReply.unsupported hcode).eq

/-- A device that gives one answer to whatever it is sent. -/
def Trial.constant : Dialogue.Surroundings Call.Answer (Except DeviceError Bytes) :=
  fun answer call =>
    match call with
    | .send .. => (answer, answer)
    | .wink | .close => (.ok (), answer)

theorem version_reply_unambiguous_trial :
    (version.run.run Trial.constant (.ok (ofText "1.8.2"))).result =
        .ok { major := 1, minor := 8, patch := 2, complete := true } ∧
      ofBig 4 0x312E3832 = ofText "1.82" ∧
      (version.run.run Trial.constant (.ok (ofText "1.82"))).result = .ok (.ofPacked 0x312E3832) ∧
      (∃ message, (version.run.run Trial.constant (.ok (ofText "1.8"))).result =
        .error (.malformed "VERSION" message)) ∧
      (version.run.run Trial.constant (.error (.rejected "CBOR" .invalidCommand))).result =
        .error (.rejected "VERSION" .invalidCommand) := by
  have hword : ofBig 4 0x312E3832 = ofText "1.82" := by decide
  refine ⟨?_, hword, ?_, ?_, ?_⟩
  · obtain ⟨-, -, htext, -⟩ := version_reply_unambiguous Trial.constant (.ok (ofText "1.8.2"))
    exact htext "1.8.2" _ (by decide) rfl
  · obtain ⟨-, -, -, hpacked, -⟩ := version_reply_unambiguous Trial.constant (.ok (ofText "1.82"))
    exact hpacked 0x312E3832 (congrArg Except.ok hword.symm)
  · obtain ⟨-, -, -, -, hother, -⟩ := version_reply_unambiguous Trial.constant (.ok (ofText "1.8"))
    have hlength : (ofText "1.8").length = 3 := by decide
    -- Three bytes are too few for the text of a version, and one too few for a word.
    refine hother _ rfl ?_ ?_
    · rintro ⟨text, v, hreply, hparse⟩
      have hfive := Version.five_le_length_of_parse hparse
      rw [← hreply, hlength] at hfive
      omega
    · rintro ⟨w, hreply⟩
      rw [hreply, Bytes.length_ofBig] at hlength
      omega
  · obtain ⟨-, -, -, -, -, hunsupported⟩ :=
      version_reply_unambiguous Trial.constant (.error (.rejected "CBOR" .invalidCommand))
    exact hunsupported _ rfl rfl

end Admin
end Reflash
