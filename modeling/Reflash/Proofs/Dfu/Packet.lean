import Reflash.Dfu.Packet
import Reflash.Proofs.Wire.Field

/-!
# Dfu.Packet — what is signed determines the command

A signature is made over the encoding of a command.  A command that was encoded is read back whole:
what was not written stays unknown, kinds keep their sign, and lists their order.  So no two
commands have the same encoding, and a signature is for one command only.  All that is asked is that
the encoding has fewer than `2 ^ 64` bytes: the size of a larger part could not be written down.

* `Tells` — what is known of a message after some of its fields;
* `InitCommand.ofBytes?_encode`, `Packet.ofBytes?_encode` — commands and packets are read back;
* `InitCommand.encoding_determines` — what follows for encodings, and for the packets that carry
  them.
-/

namespace Reflash
namespace Dfu

open Wire (Field Value)

section

variable {α β : Type} {step : α → Field → Option α} {fields more : List Field}
  {known told further : α} {number limit depth : Nat} {value : β → Value} {b : Option β}

/-! ## Fields of messages -/

/-- Of a message of which something is known already, the fields tell more. -/
def Tells (step : α → Field → Option α) (known : α) (fields : List Field) (told : α) : Prop :=
  fields.foldlM step known = some told

theorem Tells.append (h : Tells step known fields told) (h' : Tells step told more further) :
    Tells step known (fields ++ more) further := by
  rw [Tells, List.foldlM_append, h]
  exact h'

theorem Tells.cons {f : Field} (h : step known f = some told) (h' : Tells step told more further) :
    Tells step known (f :: more) further := by
  rw [Tells, List.foldlM_cons, h]
  exact h'

/-- A field that may be absent: as long as it was not met, it counts as absent. -/
theorem tells_optional (put : Option β → α)
    (h : ∀ x, b = some x → step (put none) ⟨number, value x⟩ = some (put (some x))) :
    Tells step (put none) (optional number value b) (put b) := by
  cases b with
  | none => rfl
  | some x => exact Tells.cons (h x rfl) rfl

theorem mem_optional {x : β} (h : b = some x) : ⟨number, value x⟩ ∈ optional number value b := by
  rw [h]
  exact List.mem_singleton_self _

theorem plain_optional (hnumber : 0 < number ∧ number < 2 ^ 29) (h : ∀ x, (value x).IsPlain) :
    Wire.Plain (optional number value b) := by
  intro f hf
  cases b with
  | none => cases hf
  | some x =>
      obtain rfl := List.mem_singleton.1 hf
      exact ⟨hnumber.1, hnumber.2, h x⟩

/-- A part of a message is no longer than the message. -/
theorem length_lt_of_mem {bytes : Bytes} {bound : Nat} (hmem : ⟨number, .bytes bytes⟩ ∈ fields)
    (h : (Wire.encode fields).length < bound) : bytes.length < bound :=
  Nat.lt_of_le_of_lt (Nat.le_trans Wire.length_bytes_le (Wire.length_le_encode hmem)) h

/-- A field that holds a message, which is read back since it is no longer than the whole. -/
theorem tells_message (put : Option β → α) {message : β → Bytes}
    (hfields : optional number (fun x => .bytes (message x)) b ⊆ fields)
    (hlength : (Wire.encode fields).length < 2 ^ 64)
    (h : ∀ x, (message x).length < 2 ^ 64 →
      step (put none) ⟨number, .bytes (message x)⟩ = some (put (some x))) :
    Tells step (put none) (optional number (fun x => .bytes (message x)) b) (put b) :=
  tells_optional put fun x hx => h x (length_lt_of_mem (hfields (mem_optional hx)) hlength)

theorem merge?_encode (hplain : Wire.Plain fields) (hlength : (Wire.encode fields).length < 2 ^ 64)
    (h : Tells step known fields told) :
    merge? step limit known (Wire.encode fields) = some told := by
  rw [merge?, Wire.fields?_encode hplain hlength]
  exact h

end

/-! ## Hashes and validations -/

variable {limit depth : Nat}

namespace Hash

theorem plain_fields (h : Hash) : Wire.Plain h.fields :=
  (plain_optional (by decide) Value.isPlain_ofInt).append
    (plain_optional (by decide) fun _ => trivial)

theorem tells_fields (h : Hash) : Tells step {} h.fields h := by
  have hkind : Tells step {} (optional 1 .ofInt h.kind) { kind := h.kind } :=
    tells_optional (fun kind => ({ kind } : Hash)) fun x _ => by simp [step]
  have hdigest : Tells step { kind := h.kind } (optional 2 .bytes h.digest) h :=
    tells_optional (fun digest => { h with digest }) fun x _ => by simp [step]
  exact hkind.append hdigest

theorem merge?_encode {h : Hash} (hlength : h.encode.length < 2 ^ 64) :
    merge? step limit {} h.encode = some h :=
  Dfu.merge?_encode h.plain_fields hlength h.tells_fields

end Hash

namespace BootValidation

theorem plain_fields (v : BootValidation) : Wire.Plain v.fields :=
  (plain_optional (by decide) Value.isPlain_ofInt).append
    (plain_optional (by decide) fun _ => trivial)

theorem tells_fields (v : BootValidation) : Tells step {} v.fields v := by
  have hkind : Tells step {} (optional 1 .ofInt v.kind) { kind := v.kind } :=
    tells_optional (fun kind => ({ kind } : BootValidation)) fun x _ => by simp [step]
  have hbytes : Tells step { kind := v.kind } (optional 2 .bytes v.bytes) v :=
    tells_optional (fun bytes => { v with bytes }) fun x _ => by simp [step]
  exact hkind.append hbytes

theorem merge?_encode {v : BootValidation} (hlength : v.encode.length < 2 ^ 64) :
    merge? step limit {} v.encode = some v :=
  Dfu.merge?_encode v.plain_fields hlength v.tells_fields

end BootValidation

/-! ## Commands that describe a binary -/

namespace InitCommand

/-- What is known of a command after its fields up to a number. -/
def upTo (number : Nat) (c : InitCommand) : InitCommand where
  version := if 1 ≤ number then c.version else none
  hardware := if 2 ≤ number then c.hardware else none
  stackVersions := if 3 ≤ number then c.stackVersions else []
  kind := if 4 ≤ number then c.kind else none
  stackSize := if 5 ≤ number then c.stackSize else none
  bootloaderSize := if 6 ≤ number then c.bootloaderSize else none
  appSize := if 7 ≤ number then c.appSize else none
  hash := if 8 ≤ number then c.hash else none
  isDebug := if 9 ≤ number then c.isDebug else none
  bootValidation := if 10 ≤ number then c.bootValidation else []

theorem plain_fields (c : InitCommand) : Wire.Plain c.fields := by
  have hstack : Wire.Plain (if c.stackVersions = [] then [] else [⟨3, .pack c.stackVersions⟩]) := by
    intro f hf
    split at hf
    · cases hf
    · obtain rfl := List.mem_singleton.1 hf
      exact Field.isPlain_bytes (by decide)
  have hhash : Wire.Plain (optional 8 (fun h => .bytes h.encode) c.hash) :=
    plain_optional (by decide) fun _ => trivial
  have hvalidation : Wire.Plain (c.bootValidation.map fun v => ⟨10, .bytes v.encode⟩) := by
    intro f hf
    obtain ⟨v, -, rfl⟩ := List.mem_map.1 hf
    exact Field.isPlain_bytes (by decide)
  exact (plain_optional (by decide) Value.isPlain_ofWord)
    |>.append (plain_optional (by decide) Value.isPlain_ofWord)
    |>.append hstack
    |>.append (plain_optional (by decide) Value.isPlain_ofInt)
    |>.append (plain_optional (by decide) Value.isPlain_ofWord)
    |>.append (plain_optional (by decide) Value.isPlain_ofWord)
    |>.append (plain_optional (by decide) Value.isPlain_ofWord)
    |>.append hhash
    |>.append (plain_optional (by decide) Value.isPlain_ofBool)
    |>.append hvalidation

/-- An empty list is not written, which tells nothing of it. -/
theorem tells_stackVersions (c : InitCommand) :
    Tells (step depth) (c.upTo 2)
      (if c.stackVersions = [] then [] else [⟨3, .pack c.stackVersions⟩]) (c.upTo 3) := by
  by_cases hempty : c.stackVersions = []
  · have hsame : c.upTo 3 = c.upTo 2 := by simp [upTo, hempty]
    rw [if_pos hempty, hsame]
    rfl
  · rw [if_neg hempty]
    exact Tells.cons (by simp [step, upTo]) rfl

theorem tells_bootValidation (validations : List BootValidation) (known : InitCommand)
    (h : ∀ v ∈ validations, v.encode.length < 2 ^ 64) :
    Tells (step depth) known (validations.map fun v => ⟨10, .bytes v.encode⟩)
      { known with bootValidation := known.bootValidation ++ validations } := by
  induction validations generalizing known with
  | nil => simp [Tells]
  | cons v validations ih =>
      have hread : merge? BootValidation.step (depth - 1) {} v.encode = some v :=
        BootValidation.merge?_encode (h v List.mem_cons_self)
      have hothers := ih { known with bootValidation := known.bootValidation ++ [v] }
        fun w hw => h w (List.mem_cons_of_mem v hw)
      rw [List.append_assoc, List.singleton_append] at hothers
      exact Tells.cons (by simp [step, hread]) hothers

theorem tells_fields (c : InitCommand) (h : c.encode.length < 2 ^ 64) :
    Tells (step depth) {} c.fields c := by
  have hversion : Tells (step depth) (c.upTo 0) (optional 1 .ofWord c.version) (c.upTo 1) :=
    tells_optional (fun version => { c.upTo 0 with version }) fun x _ => by simp [step]
  have hhardware : Tells (step depth) (c.upTo 1) (optional 2 .ofWord c.hardware) (c.upTo 2) :=
    tells_optional (fun hardware => { c.upTo 1 with hardware }) fun x _ => by simp [step]
  have hkind : Tells (step depth) (c.upTo 3) (optional 4 .ofInt c.kind) (c.upTo 4) :=
    tells_optional (fun kind => { c.upTo 3 with kind }) fun x _ => by simp [step]
  have hstack : Tells (step depth) (c.upTo 4) (optional 5 .ofWord c.stackSize) (c.upTo 5) :=
    tells_optional (fun stackSize => { c.upTo 4 with stackSize }) fun x _ => by simp [step]
  have hbootloader :
      Tells (step depth) (c.upTo 5) (optional 6 .ofWord c.bootloaderSize) (c.upTo 6) :=
    tells_optional (fun bootloaderSize => { c.upTo 5 with bootloaderSize }) fun x _ => by
      simp [step]
  have happ : Tells (step depth) (c.upTo 6) (optional 7 .ofWord c.appSize) (c.upTo 7) :=
    tells_optional (fun appSize => { c.upTo 6 with appSize }) fun x _ => by simp [step]
  have hhash :
      Tells (step depth) (c.upTo 7) (optional 8 (fun h => .bytes h.encode) c.hash) (c.upTo 8) :=
    tells_message (fun hash => { c.upTo 7 with hash }) (fun f hf => by simp [fields, hf]) h
      fun x hx => by
        simp [step, Hash.merge?_encode hx]
  have hdebug : Tells (step depth) (c.upTo 8) (optional 9 .ofBool c.isDebug) (c.upTo 9) :=
    tells_optional (fun isDebug => { c.upTo 8 with isDebug }) fun x _ => by simp [step]
  have hvalidation :
      Tells (step depth) (c.upTo 9) (c.bootValidation.map fun v => ⟨10, .bytes v.encode⟩) c :=
    tells_bootValidation c.bootValidation (c.upTo 9) fun v hv => by
      have hmem : ⟨10, .bytes v.encode⟩ ∈ c.fields := by
        simp only [fields, List.mem_append, List.mem_map]
        exact .inr ⟨v, hv, rfl⟩
      exact length_lt_of_mem hmem h
  exact hversion.append hhardware |>.append c.tells_stackVersions |>.append hkind |>.append hstack
    |>.append hbootloader |>.append happ |>.append hhash |>.append hdebug |>.append hvalidation

theorem merge?_encode {c : InitCommand} (hlength : c.encode.length < 2 ^ 64) :
    merge? (step depth) limit {} c.encode = some c :=
  Dfu.merge?_encode c.plain_fields hlength (c.tells_fields hlength)

theorem ofBytes?_encode {c : InitCommand} (hlength : c.encode.length < 2 ^ 64) :
    ofBytes? c.encode = some c :=
  merge?_encode hlength

end InitCommand

/-! ## Packets -/

theorem ResetCommand.merge?_encode {c : ResetCommand} (hlength : c.encode.length < 2 ^ 64) :
    merge? ResetCommand.step limit {} c.encode = some c := by
  have htimeout : Tells ResetCommand.step {} (optional 1 .ofWord c.timeout) c :=
    tells_optional (fun timeout => ({ timeout } : ResetCommand)) fun x _ => by
      simp [ResetCommand.step]
  exact Dfu.merge?_encode (plain_optional (by decide) Value.isPlain_ofWord) hlength htimeout

namespace Command

def fields (c : Command) : List Field :=
  optional 1 .ofInt c.operation ++ optional 2 (fun i => .bytes i.encode) c.init
    ++ optional 3 (fun r => .bytes r.encode) c.reset

theorem plain_fields (c : Command) : Wire.Plain c.fields := by
  have hinit : Wire.Plain (optional 2 (fun i => .bytes i.encode) c.init) :=
    plain_optional (by decide) fun _ => trivial
  have hreset : Wire.Plain (optional 3 (fun r => .bytes r.encode) c.reset) :=
    plain_optional (by decide) fun _ => trivial
  exact (plain_optional (by decide) Value.isPlain_ofInt) |>.append hinit |>.append hreset

theorem tells_fields (c : Command) (h : c.encode.length < 2 ^ 64) :
    Tells (step depth) {} c.fields c := by
  have hoperation :
      Tells (step depth) {} (optional 1 .ofInt c.operation) { operation := c.operation } :=
    tells_optional (fun operation => ({ operation } : Command)) fun x _ => by simp [step]
  have hinit : Tells (step depth) { operation := c.operation }
      (optional 2 (fun i => .bytes i.encode) c.init) { c with reset := none } :=
    tells_message (fun init => { c with init, reset := none }) (fun f hf => by simp [hf]) h
      fun x hx => by
        simp [step, InitCommand.merge?_encode hx]
  have hreset : Tells (step depth) { c with reset := none }
      (optional 3 (fun r => .bytes r.encode) c.reset) c :=
    tells_message (fun reset => { c with reset }) (fun f hf => by simp [hf]) h fun x hx => by
      simp [step, ResetCommand.merge?_encode hx]
  exact hoperation.append hinit |>.append hreset

theorem merge?_encode {c : Command} (hlength : c.encode.length < 2 ^ 64) :
    merge? (step depth) limit {} c.encode = some c :=
  Dfu.merge?_encode c.plain_fields hlength (c.tells_fields hlength)

end Command

namespace SignedCommand

def fields (c : SignedCommand) : List Field :=
  optional 1 (fun c => .bytes c.encode) c.command ++ optional 2 .ofInt c.signatureKind
    ++ optional 3 .bytes c.signature

theorem plain_fields (c : SignedCommand) : Wire.Plain c.fields := by
  have hcommand : Wire.Plain (optional 1 (fun c => .bytes c.encode) c.command) :=
    plain_optional (by decide) fun _ => trivial
  have hsignature : Wire.Plain (optional 3 .bytes c.signature) :=
    plain_optional (by decide) fun _ => trivial
  exact hcommand.append (plain_optional (by decide) Value.isPlain_ofInt) |>.append hsignature

theorem tells_fields (c : SignedCommand) (h : c.encode.length < 2 ^ 64) :
    Tells (step depth) {} c.fields c := by
  have hcommand : Tells (step depth) {} (optional 1 (fun c => .bytes c.encode) c.command)
      { command := c.command } :=
    tells_message (fun command => ({ command } : SignedCommand)) (fun f hf => by simp [hf]) h
      fun x hx => by
        simp [step, Command.merge?_encode hx]
  have hkind : Tells (step depth) { command := c.command } (optional 2 .ofInt c.signatureKind)
      { c with signature := none } :=
    tells_optional (fun signatureKind => { c with signatureKind, signature := none })
      fun x _ => by simp [step]
  have hsignature :
      Tells (step depth) { c with signature := none } (optional 3 .bytes c.signature) c :=
    tells_optional (fun signature => { c with signature }) fun x _ => by simp [step]
  exact hcommand.append hkind |>.append hsignature

theorem merge?_encode {c : SignedCommand} (hlength : c.encode.length < 2 ^ 64) :
    merge? (step depth) limit {} c.encode = some c :=
  Dfu.merge?_encode c.plain_fields hlength (c.tells_fields hlength)

end SignedCommand

namespace Packet

def fields (p : Packet) : List Field :=
  optional 1 (fun c => .bytes c.encode) p.command
    ++ optional 2 (fun c => .bytes c.encode) p.signedCommand

theorem plain_fields (p : Packet) : Wire.Plain p.fields := by
  have hcommand : Wire.Plain (optional 1 (fun c => .bytes c.encode) p.command) :=
    plain_optional (by decide) fun _ => trivial
  have hsigned : Wire.Plain (optional 2 (fun c => .bytes c.encode) p.signedCommand) :=
    plain_optional (by decide) fun _ => trivial
  exact hcommand.append hsigned

theorem tells_fields (p : Packet) (h : p.encode.length < 2 ^ 64) :
    Tells (step depth) {} p.fields p := by
  have hcommand : Tells (step depth) {} (optional 1 (fun c => .bytes c.encode) p.command)
      { command := p.command } :=
    tells_message (fun command => ({ command } : Packet)) (fun f hf => by simp [hf]) h
      fun x hx => by
        simp [step, Command.merge?_encode hx]
  have hsigned : Tells (step depth) { command := p.command }
      (optional 2 (fun c => .bytes c.encode) p.signedCommand) p :=
    tells_message (fun signedCommand => { p with signedCommand }) (fun f hf => by simp [hf]) h
      fun x hx => by
        simp [step, SignedCommand.merge?_encode hx]
  exact hcommand.append hsigned

theorem ofBytes?_encode {p : Packet} (hlength : p.encode.length < 2 ^ 64) :
    ofBytes? p.encode = some p :=
  Dfu.merge?_encode p.plain_fields hlength (p.tells_fields hlength)

end Packet

/-! ## What an encoding says -/

theorem InitCommand.encoding_determines :
    (∀ c : InitCommand, c.encode.length < 2 ^ 64 → ofBytes? c.encode = some c) ∧
      (∀ c c' : InitCommand, c.encode.length < 2 ^ 64 → c'.encode = c.encode → c' = c) ∧
      (∀ c : InitCommand, c.encode.length < 2 ^ 64 →
        (ofBytes? c.encode).map encode = some c.encode) ∧
      ∀ (p : Packet) (signed : SignedCommand) (command : Command) (c : InitCommand),
        p.signedCommand = some signed → signed.command = some command → command.init = some c →
        p.encode.length < 2 ^ 64 → ∃ q, Packet.ofBytes? p.encode = some q ∧
          q.initCommand? = some c := by
  refine ⟨fun c => ofBytes?_encode, ?_, ?_, ?_⟩
  · intro c c' hlength hsame
    have hread : ofBytes? c.encode = some c := ofBytes?_encode hlength
    have hread' : ofBytes? c'.encode = some c' := ofBytes?_encode (by rwa [hsame])
    rw [hsame, hread] at hread'
    exact (Option.some.inj hread').symm
  · intro c hlength
    rw [ofBytes?_encode hlength, Option.map_some]
  · intro p signed command c hsigned hcommand hinit hlength
    refine ⟨p, Packet.ofBytes?_encode hlength, ?_⟩
    simp [Packet.initCommand?, hsigned, hcommand, hinit]

namespace InitCommand
namespace Trial

/-- A zero and an empty hash that were written, sizes that were not, and a kind below zero. -/
def command : InitCommand where
  version := some 0x400202
  hardware := some 0
  stackVersions := [0, 300]
  kind := some (-2)
  hash := some {}
  isDebug := some false
  bootValidation := [{ kind := some 3, bytes := some [1, 2] }, {}]

def bytes : Bytes :=
  [0x08, 0x82, 0x84, 0x80, 0x02, 0x10, 0x00, 0x1A, 0x03, 0x00, 0xAC, 0x02,
    0x20, 0xFE, 0xFF, 0xFF, 0xFF, 0xFF, 0xFF, 0xFF, 0xFF, 0xFF, 0x01, 0x42, 0x00, 0x48, 0x00,
    0x52, 0x06, 0x08, 0x03, 0x12, 0x02, 0x01, 0x02, 0x52, 0x00]

/-- Beside the signed command there is a plain one. -/
def packet : Packet where
  command := some { init := some {}, reset := some { timeout := some 5 } }
  signedCommand :=
    some { command := some { operation := some 1, init := some command }, signature := some [7] }

end Trial

theorem encoding_determines_trial :
    Trial.command.encode = Trial.bytes ∧ ofBytes? Trial.bytes = some Trial.command ∧
      (∀ c : InitCommand, c.encode = Trial.bytes → c = Trial.command) ∧
      ∃ q, Packet.ofBytes? Trial.packet.encode = some q ∧ q.initCommand? = some Trial.command := by
  obtain ⟨hread, hsame, -, hcarried⟩ := encoding_determines
  have hencode : Trial.command.encode = Trial.bytes := by decide +kernel
  have hlength : Trial.command.encode.length < 2 ^ 64 := by
    rw [hencode]
    decide
  have hpacket : Trial.packet.encode.length < 2 ^ 64 := by decide +kernel
  refine ⟨hencode, hencode ▸ hread _ hlength, fun c hc => ?_, hcarried _ _ _ _ rfl rfl rfl hpacket⟩
  exact hsame _ _ hlength (hc.trans hencode.symm)

end InitCommand

end Dfu
end Reflash
