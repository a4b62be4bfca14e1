import Reflash.Scripted.Double
import Reflash.Scripted.Folder
import Reflash.Scripted.World
import Reflash.Update.State

/-!
# Scripted.Scenario — sessions and updates, by script

A scenario is a list of things to do, each of which is logged for itself.  The surroundings go on
from one to the next.
-/

namespace Reflash
namespace Scripted

open Update (Question)

/-! ## Sessions -/

/-- A step of a session: what came out of it, the calls made, and the device as it was before. -/
structure SessionStep where
  before : OpenDevice
  result : OpenDevice.Result
  calls : List Call

/-- The questions of a record. -/
def calls (record : List (Dialogue.Exchange Call.Answer)) : List Call :=
  record.map (·.1)

/-- Performs operations one by one, closes the device at the end, and tells the calls for that,
too. -/
def session {σ : Type} (surroundings : Dialogue.Surroundings Call.Answer σ) :
    OpenDevice → σ → List DeviceOperation → List SessionStep × List Call × σ
  | d, s, [] =>
      let outcome := d.release.run surroundings s
      ([], calls outcome.record, outcome.state)
  | d, s, operation :: rest =>
      let outcome := (d.perform operation).run surroundings s
      let (steps, last) := session surroundings outcome.result.2 outcome.state rest
      (⟨d, outcome.result.1, calls outcome.record⟩ :: steps, last)

/-! ## Updates -/

/-- What an update starts with: a device or a bootloader, and the container. -/
structure Run where
  handle : Device ⊕ Bootloader
  source : UpdateSource
  /-- The content of the container's file, if it is one. -/
  content : Option Bytes := none

def Run.target (r : Run) : UpdateTarget :=
  match r.handle with
  | .inl d => .device d.model
  | .inr b => .bootloader b.model b.variant

/-- The world at the start of an update. -/
def World.prepare (w : World) (r : Run) : World :=
  { w with
    initial := r.handle.getLeft?
    bootloader := r.handle.getRight?
    returned := none
    files := fun path => match r.content with
      | some content => .ok content
      | none => Folder.read {} path }

structure RunReport where
  before : UpdateState
  result : Except UpdateError UpdateOutcome
  log : List Event
  after : UpdateState

def runAll (primitives : Primitives) : Updater → World → List Run → List RunReport
  | _, _, [] => []
  | u, w, r :: rest =>
      let ((u', result), log, w) := (w.prepare r).hold (u.update primitives r.target r.source)
      ⟨u.state, result, log, u'.state⟩ :: runAll primitives u' w rest

end Scripted
end Reflash
