import Reflash.Update.Run

/-!
# Update.State — the state of an updater

An updater runs updates one after another, and its state tells how the last one ended.
-/

namespace Reflash

inductive UpdateState where
  | idle
  /-- In the middle of an update, in its step that was entered last.  Nobody gets to see an updater
  then: an update says which step it enters, and its state is set once, from how the update
  ended. -/
  | inProgress (step : UpdateStep)
  | verified
  | failed (step : UpdateStep) (error : String)
  deriving DecidableEq, Repr

namespace UpdateState

def isInProgress : UpdateState → Bool
  | .inProgress _ => true
  | _ => false

def step? : UpdateState → Option UpdateStep
  | .inProgress step => some step
  | .failed step _ => some step
  | .idle | .verified => none

def text : UpdateState → String
  | .idle => "idle"
  | .inProgress step => step.text
  | .verified => "verified"
  | .failed .. => "failed"

/-- The state after an update; a failure that could happen in several steps happened in the last
one entered. -/
def after : Except UpdateFailure UpdateOutcome → UpdateState
  | .ok _ => .verified
  | .error f => .failed (f.error.step?.getD f.step) f.error.message

end UpdateState

structure Updater where
  settings : UpdateSettings
  state : UpdateState := .idle
  deriving DecidableEq, Repr

namespace Updater

open Update (Question)

variable (primitives : Primitives)

def update (u : Updater) (target : UpdateTarget) (source : UpdateSource) :
    Dialogue Question.Answer (Updater × Except UpdateError UpdateOutcome) := do
  let result ← (Update.run primitives u.settings target source).run
  return ({ u with state := .after result }, result.mapError UpdateFailure.error)

/-- Runs updates one after another, with the state after each. -/
def updates (u : Updater) : List (UpdateTarget × UpdateSource) →
    Dialogue Question.Answer (List (UpdateState × Except UpdateError UpdateOutcome))
  | [] => return []
  | (target, source) :: rest => do
      let (u, result) ← u.update primitives target source
      return (u.state, result) :: (← u.updates rest)

end Updater
end Reflash
