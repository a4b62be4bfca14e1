import Reflash.Command.Run

/-!
# Main — the command line tool

The tool reads the one file that a command names, and prints the report of the command.  It makes no
requests to servers, and asks no operator.
-/

namespace Reflash

/-- Why a file cannot be read, by the error of the operating system. -/
def fileFault : IO.Error → FileFault
  | .noFileOrDirectory .. => .missing
  | .inappropriateType _ code _ => if code = 20 then .notDirectory else .isDirectory
  | .permissionDenied _ code _ => .other s!"Permission denied (os error {code})"
  | e => .other (toString e)

def readFile (path : String) : IO (Except FileFault Bytes) := do
  try
    return .ok (← IO.FS.readBinFile path).toList
  catch e =>
    return .error (fileFault e)

/-- Surroundings in which one file has been read. -/
def Environment.ofFile (content : Except FileFault Bytes) : Environment where
  file _ := content
  fetch _ := .error "no connection"
  save _ _ _ := .error (.transfer "no connection")

def readInput (command : Command) : IO Environment := do
  match command.file? with
  | some path => return .ofFile (← readFile path)
  | none => return .ofFile (.error .missing)

/-- A base address from the surroundings counts unless another one is given. -/
def withDefaultBase (i : Invocation) (base : Option String) : Invocation :=
  { i with options := { i.options with apiBase := i.options.apiBase.or base } }

def usageLine : String :=
  s!"Usage: {toolName} [--json] [-v] <firmware|completion> ..."

def printOutput : Output → IO Unit
  | .lines lines => lines.forM fun line => IO.println line
  | .document document => IO.println document.pretty

def printReport (r : Report) : IO UInt32 := do
  printOutput r.output
  r.messages.forM fun line => IO.eprintln line
  return UInt32.ofNat r.exitCode.number

def printStop : Stop → IO UInt32
  | .usage => do
      IO.eprintln usageLine
      return UInt32.ofNat ExitCode.invalidInput.number
  | .help => do
      IO.println usageLine
      return 0
  | .version => do
      IO.println versionLine
      return 0

end Reflash

open Reflash

def main (arguments : List String) : IO UInt32 := do
  match Invocation.parse arguments with
  | .error stop => printStop stop
  | .ok i => do
      let environment ← readInput i.command
      let i := withDefaultBase i (← IO.getEnv "NKCTL_API_BASE")
      printReport (i.run Primitives.standard environment)
