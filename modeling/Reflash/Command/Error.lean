import Reflash.Json.Basic
import Reflash.Update.Error

/-!
# Command.Error — failed commands and their exit codes

The exit code tells the kind of a failure: that of the first error of a known kind among the failure
and its causes.  A failure is told with the messages of its causes; that images are invalid has been
told in full before.
-/

namespace Reflash

inductive ExitCode where
  | success
  | failure
  | invalidInput
  | invalidContainer
  | invalidImage
  | rejected
  | releaseFailure
  | aborted
  deriving DecidableEq, Repr

namespace ExitCode

def number : ExitCode → Nat
  | .success => 0
  | .failure => 1
  | .invalidInput => 2
  | .invalidContainer => 3
  | .invalidImage => 4
  | .rejected => 5
  | .releaseFailure => 6
  | .aborted => 7

def ofCategory : Category → ExitCode
  | .container => .invalidContainer
  | .image => .invalidImage
  | .policy => .rejected
  | .release => .releaseFailure
  | _ => .failure

end ExitCode

/-- The kind of an error, as far as exit codes go by it.  An error of the tool has a code of its
own, and errors of the firmware library have that of their category; other errors, and what is only
said about the errors behind them, are of no known kind. -/
inductive ErrorKind where
  | tool (code : ExitCode)
  | update (error : UpdateError)
  | library (category : Category)
  | other
  deriving DecidableEq, Repr

namespace ErrorKind

def exitCode? : ErrorKind → Option ExitCode
  | .tool code => some code
  | .update .aborted => some .aborted
  | .update error => some (.ofCategory error.category)
  | .library category => some (.ofCategory category)
  | .other => none

def updateError? : ErrorKind → Option UpdateError
  | .update error => some error
  | _ => none

end ErrorKind

inductive CommandError where
  | unknownVariant (path : String)
  | invalidImages (count total : Nat)
  | container (path : String) (error : ContainerError)
  | unreadable (path : String) (fault : FileFault)
  | image (path : String) (variant : Variant) (error : ParseError)
  | update (error : UpdateError)
  | lookUp (model : Model) (error : ReleaseError)
  | badTag (tag : String) (error : VersionError)
  | release (error : ReleaseError)
  deriving DecidableEq, Repr

namespace CommandError

def message : CommandError → String
  | .unknownVariant path => s!"Cannot determine the hardware variant of {path}, use --variant"
  | .invalidImages count total => s!"{count} of {total} firmware images failed validation"
  | .container path _ => s!"Failed to read firmware container {path}"
  | .unreadable path _ => s!"Failed to read {path}"
  | .image path variant _ => s!"Failed to parse {variant.text} firmware image {path}"
  | .update error => error.message
  | .lookUp model _ => s!"Failed to look up the {model.name} firmware release"
  | .badTag tag _ => s!"Failed to parse version from release tag {tag}"
  | .release error => error.message

def causes : CommandError → List String
  | .unknownVariant _ | .invalidImages .. | .release _ => []
  | .container _ error => error.message :: error.causes
  | .unreadable _ fault => [fault.message]
  | .image _ _ error => error.message :: error.causes
  | .update error => error.causes
  | .lookUp _ error => [error.message]
  | .badTag _ error => [error.message]

/-- The kinds of the failure itself and of its causes, the latest first.  What stands behind an
error of a known kind is left out, as nobody looks at it. -/
def kinds : CommandError → List ErrorKind
  | .unknownVariant _ => [.tool .invalidInput]
  | .invalidImages .. => [.tool .invalidImage]
  | .container .. => [.other, .library .container]
  | .unreadable .. | .badTag .. => [.other, .other]
  | .image .. => [.other, .library .image]
  | .update error => [.update error]
  | .lookUp .. => [.other, .library .release]
  | .release _ => [.library .release]

def exitCode (e : CommandError) : ExitCode :=
  (e.kinds.findSome? ErrorKind.exitCode?).getD .failure

/-- Whether the output of the command tells everything about the failure. -/
def isReported : CommandError → Bool
  | .invalidImages .. => true
  | _ => false

def updateError? (e : CommandError) : Option UpdateError :=
  e.kinds.findSome? ErrorKind.updateError?

def hint? (e : CommandError) : Option String := do
  (← e.updateError?).hint?

def document (e : CommandError) : Json :=
  .object [("success", .bool false),
    ("error", .object [("message", .text e.message), ("causes", .list .text e.causes),
      ("exit_code", .nat e.exitCode.number),
      ("severity", .option (fun u => .text (UpdateError.severity u).text) e.updateError?),
      ("hint", .option .text e.hint?)])]

def lines (e : CommandError) : List String :=
  [s!"Error: {e.message}"] ++ e.causes.map (fun cause => s!"  Caused by: {cause}")
    ++ (e.hint?.map fun hint => s!"Hint: {hint}").toList

end CommandError
end Reflash
