import Reflash.Device.Session
import Reflash.Proofs.Device.Reply
import Reflash.Proofs.Dialogue.Asks

/-!
# Device.Session — a device is closed once

Whatever is done with a device, closing it included, its connection is closed once by the time it is
let go of.

* `asks_consult` — no operation but closing closes the connection;
* `closes_of_perform` — one operation moves a close from those that are owed to those that were
  made;
* `closes_of_session` — a whole session makes all that are owed.
-/

namespace Reflash
namespace OpenDevice

open Dialogue

variable {d d' : OpenDevice} {record : List (Exchange Call.Answer)}

/-! ## Operations that leave the connection open -/

theorem asks_call (c : AdminCommand) (data : Bytes) (length : Option Nat) :
    Asks (· ≠ .close) (Admin.call c data length).run :=
  .map (.query nofun)

theorem asks_require (c : AdminCommand) (data : Bytes) (length : Option Nat) :
    Asks (· ≠ .close) (Admin.require c data length).run := by
  refine .seq (asks_call c data length) fun reply => ?_
  cases reply with
  | none => exact .done _
  | some reply => exact .done _

theorem asks_consult (operation : DeviceOperation) : Asks (· ≠ .close) (consult operation) := by
  cases operation with
  | info | close => exact .done _
  | status =>
      refine .map ?_
      rw [Admin.run_status]
      exact .map (.query nofun)
  | version =>
      refine .map ?_
      rw [Admin.run_version]
      exact .map (.query nofun)
  | uuid =>
      refine .map (.seq (asks_call _ _ _) fun reply => ?_)
      split
      · exact .done _
      · exact .done _
      · split
        · exact .done _
        · exact .done _
  | reboot mode => exact .map (.map (asks_call _ _ _))
  | wink => exact .map (.query nofun)
  | rng => exact .map (asks_require _ _ _)
  | isLocked => exact .map (.seq (asks_require _ _ _) fun reply => .done _)
  | se050Tests => exact .map (asks_call _ _ _)
  | hasConfig key => exact .map (.seq (asks_call _ _ _) fun reply => .done _)
  | getConfig key =>
      refine .map (.seq (.adapt (asks_call _ _ _)) fun reply => ?_)
      split
      · exact .done _
      · exact .done _
      · refine .seq (.done _) fun _ => ?_
        split
        · exact .done _
        · exact .done _
  | factoryReset =>
      -- The answer itself is looked at, be it a failure or not.
      refine .map ?_
      rw [Admin.factoryReset, ExceptT.run_bind]
      refine .bind (.map (asks_call _ _ _)) fun answer => ?_
      rcases answer with e | e | reply
      · exact .done _
      · dsimp only
        split
        · exact .done _
        · exact .done _
      · exact .done _
  | factoryResetApp application =>
      exact .map (.seq (.adapt (asks_call _ _ _)) fun reply => .done _)
  | call command data length => exact .map (asks_call _ _ _)

/-! ## Closing -/

def timesClosed (record : List (Exchange Call.Answer)) : Nat :=
  record.countP fun x => x.1 = .close

/-- How often the connection is still to be closed. -/
def owed (d : OpenDevice) : Nat :=
  if d.isClosed then 0 else 1

theorem closes_of_close {result : Except DeviceError Unit}
    (h : Course d.close record (result, d')) : timesClosed record = owed d ∧ owed d' = 0 := by
  rw [close] at h
  split at h
  next hclosed =>
    obtain ⟨rfl, hd⟩ := course_done.1 h
    cases hd
    simp [timesClosed, owed, hclosed]
  next hopen =>
    obtain ⟨_, answer, _, rfl, hasked, hrest⟩ := course_bind.1 h
    obtain rfl := course_query.1 hasked
    obtain ⟨rfl, hd⟩ := course_done.1 hrest
    cases hd
    simp [timesClosed, owed, hopen]

/-- Whatever else is done with a device, it stays as it is. -/
theorem perform_of_ne_close {operation : DeviceOperation} (h : operation ≠ .close) :
    d.perform operation = consult operation >>= fun result => pure (result, d) := by
  cases operation with
  | close => exact absurd rfl h
  | _ => rfl

theorem closes_of_perform {operation : DeviceOperation} {result : Result}
    (h : Course (d.perform operation) record (result, d')) :
    timesClosed record + owed d' = owed d := by
  have hother : ∀ {other : DeviceOperation},
      Course (do return (← consult other, d)) record (result, d') →
        timesClosed record + owed d' = owed d := by
    intro other h
    obtain ⟨first, reply, _, rfl, hconsult, hrest⟩ := course_bind.1 h
    obtain ⟨rfl, hd⟩ := course_done.1 hrest
    cases hd
    have hnone : timesClosed (first ++ []) = 0 := by
      refine List.countP_eq_zero.2 fun x hx => ?_
      simpa using asks_consult other hconsult x (by simpa using hx)
    rw [hnone, Nat.zero_add]
  cases operation with
  | close =>
      obtain ⟨_, ⟨answer, closed⟩, _, rfl, hclose, hrest⟩ := course_bind.1 h
      obtain ⟨rfl, hd⟩ := course_done.1 hrest
      cases hd
      obtain ⟨hcloses, hnone⟩ := closes_of_close hclose
      rw [List.append_nil, hcloses, hnone, Nat.add_zero]
  | _ => exact hother h

/-- By induction on the operations: closes made and closes owed are as many as in the beginning. -/
theorem closes_of_session {operations : List DeviceOperation} {results : List Result}
    (h : Course (d.session operations) record results) : timesClosed record = owed d := by
  induction operations generalizing d record results with
  | nil =>
      obtain ⟨_, u, _, rfl, hrelease, hrest⟩ := course_bind.1 h
      obtain ⟨rfl, -⟩ := course_done.1 hrest
      obtain ⟨_, ⟨answer, closed⟩, _, rfl, hclose, hdone⟩ := course_bind.1 hrelease
      obtain ⟨rfl, -⟩ := course_done.1 hdone
      simpa using (closes_of_close hclose).1
  | cons operation rest ih =>
      obtain ⟨first, ⟨result, next⟩, _, rfl, hperform, hrest⟩ := course_bind.1 h
      obtain ⟨later, replies, _, rfl, hsession, hdone⟩ := course_bind.1 hrest
      obtain ⟨rfl, -⟩ := course_done.1 hdone
      have hsum : timesClosed (first ++ (later ++ [])) = timesClosed first + timesClosed later := by
        simp [timesClosed]
      rw [hsum, ih hsession, closes_of_perform hperform]

end OpenDevice
end Reflash
