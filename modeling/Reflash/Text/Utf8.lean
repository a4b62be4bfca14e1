import Reflash.Bytes

/-!
# Utf8 — texts in byte strings

`Utf8.decode` reads a byte string as a text, or says where it stops being one: at a sequence that
no continuation can mend, with the number of bytes it spoils, or at a character cut off by the end.
`Utf8.lossy` reads on behind such places.
-/

namespace Reflash
namespace Utf8

/-- Where a byte string stops being a text; `length` is `none` for a character that is cut off. -/
structure Fault where
  index : Nat
  length : Option Nat
  deriving DecidableEq, Repr

def Fault.message (f : Fault) : String :=
  match f.length with
  | some n => s!"invalid utf-8 sequence of {n} bytes from index {f.index}"
  | none => s!"incomplete utf-8 byte sequence from index {f.index}"

/-- A lead byte: how many bytes follow it, and the bounds of the first of them. -/
def lead? (b : UInt8) : Option (Nat × UInt8 × UInt8) :=
  if 0xC2 ≤ b ∧ b ≤ 0xDF then some (1, 0x80, 0xBF)
  else if b = 0xE0 then some (2, 0xA0, 0xBF)
  else if b = 0xED then some (2, 0x80, 0x9F)
  else if 0xE1 ≤ b ∧ b ≤ 0xEF then some (2, 0x80, 0xBF)
  else if b = 0xF0 then some (3, 0x90, 0xBF)
  else if 0xF1 ≤ b ∧ b ≤ 0xF3 then some (3, 0x80, 0xBF)
  else if b = 0xF4 then some (3, 0x80, 0x8F)
  else none

/-- Looks for the fault in a character under way: `read` bytes of it, from `index` on, stand before
`b`, and `owed` more are due, the next one from `low` to `high`. -/
def faultFrom (index read owed : Nat) (low high : UInt8) : Bytes → Fault
  | [] => ⟨index, none⟩
  | x :: rest =>
      match owed with
      | owed + 1 =>
          if low ≤ x ∧ x ≤ high then faultFrom index (read + 1) owed 0x80 0xBF rest
          else ⟨index, some read⟩
      | 0 =>
          if x < 0x80 then faultFrom (index + read) 1 0 0x80 0xBF rest
          else match lead? x with
            | some (owed, low, high) => faultFrom (index + read) 1 owed low high rest
            | none => ⟨index + read, some 1⟩

/-- The first fault of a byte string that is no text. -/
def fault (b : Bytes) : Fault :=
  faultFrom 0 0 0 0x80 0xBF b

def decode (b : Bytes) : Except Fault String :=
  match String.fromUTF8? ⟨b.toArray⟩ with
  | some s => .ok s
  | none => .error (fault b)

/-- Reads a byte string as a text that has a replacement character for each fault. -/
def lossyWithin : (fuel : Nat) → Bytes → String
  | 0, _ => ""
  | fuel + 1, b =>
      match decode b with
      | .ok s => s
      | .error f =>
          let before := (String.fromUTF8? ⟨(b.take f.index).toArray⟩).getD ""
          let after := match f.length with
            | some n => lossyWithin fuel (b.drop (f.index + n))
            | none => ""
          before ++ "\ufffd" ++ after

/-- Every fault spoils a byte at least, which bounds their number. -/
def lossy (b : Bytes) : String :=
  lossyWithin (b.length + 1) b

theorem decode_ofText (s : String) : decode (Bytes.ofText s) = .ok s := by
  have h : String.fromUTF8? ⟨(Bytes.ofText s).toArray⟩ = some s := by
    simp only [Bytes.ofText, Array.toArray_toList, String.fromUTF8?]
    simp
    exact ⟨s.isValidUTF8, rfl⟩
  rw [decode, h]

/-- What is read as a text are its bytes, and nothing else is. -/
theorem decode_eq_ok_iff {b : Bytes} {s : String} : decode b = .ok s ↔ b = Bytes.ofText s := by
  constructor
  · intro h
    rw [decode, String.fromUTF8?] at h
    split at h
    case h_1 text htext =>
      obtain rfl := Except.ok.inj h
      obtain ⟨hvalid, hvalue⟩ := Option.dite_none_right_eq_some.1 htext
      obtain rfl := Option.some.inj hvalue
      rfl
    case h_2 => cases h
  · rintro rfl
    exact decode_ofText s

end Utf8
end Reflash
