import Reflash.Update.Question

/-!
# Command.Terminal — an operator at a terminal

The operator is asked only if nothing was agreed to in advance.  Without an operator every question
is refused.  Warnings are always shown, all other notes only beside readable output.
-/

namespace Reflash

open Update

/-- Whether everything is agreed to, and whether notes are left out. -/
structure Terminal where
  assumeYes : Bool
  isQuiet : Bool
  deriving DecidableEq, Repr

/-- What an operator agrees to when asked. -/
abbrev Operator : Type :=
  Confirmation → Bool

/-- No answer is a refusal. -/
def Operator.absent : Operator :=
  fun _ => false

namespace Terminal

variable (t : Terminal) (operator : Operator)

def notice : Notice → List String
  | .warning w => [s!"Warning: {w.message}"]
  | _ => []

/-- What is shown before a question. -/
def note (c : Confirmation) : List String :=
  if t.isQuiet then []
  else match c with
    | .clientVersion current required =>
        [s!"This update requires pynitrokey {required.text} or newer, but the current version is "
          ++ s!"{current.text}."]
    | .notes lines => lines
    | .download .. | .update .. | .sameVersion _ => []

/-- Notes without lines need no agreement. -/
def agrees : Confirmation → Bool
  | .notes [] => true
  | c => t.assumeYes || operator c

/-- There is no device at a terminal. -/
def noDevice : DeviceError :=
  .notFound "terminal"

def callAnswer : (c : Call) → c.Answer
  | .send .. => .error noDevice
  | .wink | .close => .error noDevice

def bootloaderAnswer : (c : BootloaderCall) → c.Answer
  | .uuid => .error noDevice
  | .update _ => ([], .error noDevice)
  | .reboot => .error noDevice
  | .close => .error noDevice

/-- Answers, and adds to the lines shown so far. -/
def answer (shown : List String) : (q : Question) → q.Answer × List String
  | .tell n => ((), shown ++ notice n)
  | .confirm c =>
      (if t.agrees operator c then .ok () else .error .aborted, shown ++ t.note c)
  | .device _ call => (callAnswer call, shown)
  | .bootloader _ call => (bootloaderAnswer call, shown)
  | .awaitBootloader .. => (.error noDevice, shown)
  | .awaitDevice .. => (([], .error noDevice), shown)
  | .latestRelease => (.error (.transfer "no repository"), shown)
  | .release _ => (.error (.transfer "no repository"), shown)
  | .download _ => (([], .error (.transfer "no repository")), shown)
  | .readFile _ => (.error .missing, shown)

/-- The result of a dialogue at the terminal, and the lines shown in it. -/
def hold {α : Type} (m : StepM α) : Except UpdateError α × List String :=
  let outcome := m.run.run (t.answer operator) []
  (outcome.result, outcome.state)

end Terminal
end Reflash
