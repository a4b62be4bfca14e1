import Reflash.Command.Arguments
import Reflash.Device.Model
import Reflash.Update.Warning
import Reflash.Version.Text

/-!
# Command.Invocation — what the tool is asked to do

* `Invocation.parse` — the invocation that a command line stands for.
-/

namespace Reflash

def toolName : String := "nkctl"

def versionLine : String :=
  s!"{toolName} 0.1.0"

inductive Shell where
  | bash
  | elvish
  | fish
  | powershell
  | zsh
  deriving DecidableEq, Repr

namespace Shell

def all : List Shell :=
  [.bash, .elvish, .fish, .powershell, .zsh]

def text : Shell → String
  | .bash => "bash"
  | .elvish => "elvish"
  | .fish => "fish"
  | .powershell => "powershell"
  | .zsh => "zsh"

def ofText? (s : String) : Option Shell :=
  all.find? (·.text = s)

end Shell

inductive Command where
  /-- Checks a container and all its images. -/
  | verify (container : String) (model : Model)
  /-- Shows version and signer of an image. -/
  | image (path : String) (variant : Option Variant) (model : Model)
  /-- Lists the migrations of an update. -/
  | migrations (model : Model) (variant : Variant) (current : Option Version) (new : Version)
  /-- Tells whether a container may be installed over a version. -/
  | check (container : String) (model : Model) (current : Option Version) (ignored : List Warning)
      (ignoreClientVersion assumeYes : Bool)
  | download (model : Model) (tag : Option String) (directory : String)
      (mayReplace assumeYes : Bool)
  | completion (shell : Shell)
  deriving DecidableEq, Repr

/-- The file that a command reads. -/
def Command.file? : Command → Option String
  | .verify path _ | .image path _ _ | .check path .. => some path
  | .migrations .. | .download .. | .completion _ => none

/-- Options that every command takes. -/
structure GlobalOptions where
  json : Bool := false
  apiBase : Option String := none
  deriving DecidableEq, Repr

structure Invocation where
  options : GlobalOptions
  command : Command
  deriving DecidableEq, Repr

namespace Invocation

/-! ## Values -/

def anyText (_ : String) : Bool :=
  true

def isPath (s : String) : Bool :=
  s ≠ ""

def isModel (s : String) : Bool :=
  (Model.ofText s).toOption.isSome

def isVariant (s : String) : Bool :=
  (Variant.ofText s).toOption.isSome

def isVersion (s : String) : Bool :=
  (Version.parseEither s).toOption.isSome

def isWarning (s : String) : Bool :=
  (Warning.ofId? s).isSome

def isShell (s : String) : Bool :=
  (Shell.ofText? s).isSome

/-- The model, which is the first one unless another is named. -/
def model? (a : Arguments) : Option Model :=
  match a.value? "model" with
  | some s => (Model.ofText s).toOption
  | none => some .nk3

def version? (a : Arguments) (name : String) : Option Version := do
  (Version.parseEither (← a.value? name)).toOption

def variant? (a : Arguments) : Option Variant := do
  (Variant.ofText (← a.value? "variant")).toOption

/-! ## Commands -/

def globalSpecs : List OptionSpec :=
  [{ long := "json", use := .once, about := "Output in JSON format for machine parsing" },
    { long := "verbose", short := some 'v', use := .repeated, about := "Verbose logging" },
    { long := "api-base", use := .value anyText, about := "Release API endpoint (for testing)" }]

def modelSpec (about : String) : OptionSpec :=
  { long := "model", short := some 'm', use := .value isModel, about }

def variantSpec (about : String) : OptionSpec :=
  { long := "variant", use := .value isVariant, about }

def currentSpec (about : String) : OptionSpec :=
  { long := "current", use := .value isVersion, about }

def yesSpec (about : String) : OptionSpec :=
  { long := "yes", short := some 'y', use := .once, about }

def containerOperand : OperandSpec :=
  { name := "container", about := "Firmware container (.zip)", accepts := isPath }

/-- A command: its name, its arguments, and what they make of it unless a required one is
missing. -/
structure CommandForm where
  name : String
  about : String
  options : List OptionSpec := []
  operands : List OperandSpec := []
  build : Arguments → Option Command

def CommandForm.spec (f : CommandForm) : CommandSpec :=
  { options := f.options ++ globalSpecs, operands := f.operands }

def verifyForm : CommandForm where
  name := "verify"
  about := "Verify a firmware container and the signatures of all its images"
  options := [modelSpec "Device model the container is meant for"]
  operands := [containerOperand]
  build a := return .verify (← a.operands.head?) (← model? a)

def imageForm : CommandForm where
  name := "image"
  about := "Show version and signer of a single firmware image"
  options := [variantSpec "Hardware variant, guessed from the file name if omitted",
    modelSpec "Device model whose trust anchors are used"]
  operands := [{ name := "path", about := "Firmware image (.sb2 or .zip)", accepts := isPath }]
  build a := return .image (← a.operands.head?) (variant? a) (← model? a)

def migrationsForm : CommandForm where
  name := "migrations"
  about := "List the migrations an update would trigger"
  options := [modelSpec "Device model", variantSpec "Hardware variant",
    currentSpec "Installed firmware version, omit for an update from the bootloader",
    { long := "new", use := .value isVersion, about := "Firmware version to install" }]
  build a :=
    return .migrations (← model? a) (← variant? a) (version? a "current") (← version? a "new")

def checkForm : CommandForm where
  name := "check"
  about := "Check whether a container may be installed over a firmware version"
  options := [modelSpec "Device model", currentSpec "Installed firmware version",
    { long := "ignore-warning", use := .values isWarning
      about := "Ignore an update warning (can be repeated)" },
    { long := "ignore-pynitrokey-version", use := .once
      about := "Accept containers that require a newer pynitrokey" },
    yesSpec "Confirm all prompts"]
  operands := [containerOperand]
  build a := do
    let ignored := (a.values "ignore-warning").filterMap Warning.ofId?
    return .check (← a.operands.head?) (← model? a) (version? a "current") ignored
      (a.has "ignore-pynitrokey-version") (a.has "yes")

def downloadForm : CommandForm where
  name := "download"
  about := "Download a firmware container from the release repository"
  options := [modelSpec "Device model",
    { long := "version", use := .value anyText
      about := "Release tag, the latest release if omitted" },
    { long := "dir", short := some 'd', use := .value isPath, about := "Target directory" },
    { long := "overwrite", use := .once, about := "Replace an existing file" },
    yesSpec "Do not ask before downloading"]
  build a := do
    return .download (← model? a) (a.value? "version") ((a.value? "dir").getD ".")
      (a.has "overwrite") (a.has "yes")

def completionForm : CommandForm where
  name := "completion"
  about := "Generate shell completion scripts"
  operands := [{ name := "shell", about := "Shell to generate completion for", accepts := isShell
                 choices := Shell.all.map (·.text) }]
  build a := do
    return .completion (← Shell.ofText? (← a.operands.head?))

def firmwareForms : List CommandForm :=
  [verifyForm, imageForm, migrationsForm, checkForm, downloadForm]

/-- The command that all firmware commands stand behind. -/
def firmwareName : String := "firmware"

def firmwareAbout : String := "Firmware containers, images and releases"

def helpName : String := "help"

def helpAbout : String := "Print this message or the help of the given subcommand(s)"

def firmwareSpec : CommandSpec where
  options := globalSpecs
  commands := firmwareForms.map (·.name) ++ [helpName]

def topSpec : CommandSpec where
  options := globalSpecs
  commands := [firmwareName, completionForm.name, helpName]
  hasVersion := true

/-! ## Command lines -/

/-- Options that follow a later command count more. -/
def refine (outer : GlobalOptions) (a : Arguments) : GlobalOptions where
  json := outer.json || a.has "json"
  apiBase := (a.value? "api-base").or outer.apiBase

def runForm (options : GlobalOptions) (f : CommandForm) (arguments : List String) :
    Except Stop Invocation := do
  let a ← f.spec.scan {} arguments
  match f.build a with
  | some command => return { options := refine options a, command }
  | none => throw .usage

/-- Help is given on commands only. -/
def help {α : Type} (known : List (List String)) (names : List String) : Except Stop α :=
  if known.contains names then .error .help else .error .usage

def firmwarePaths : List (List String) :=
  [] :: firmwareSpec.commands.map fun name => [name]

def topPaths : List (List String) :=
  [[], [completionForm.name], [helpName]] ++ firmwarePaths.map (firmwareName :: ·)

def parseFirmware (options : GlobalOptions) (arguments : List String) :
    Except Stop Invocation := do
  let a ← firmwareSpec.scan {} arguments
  match a.command with
  | none => throw .usage
  | some (name, rest) =>
      match firmwareForms.find? (·.name = name) with
      | some form => runForm (refine options a) form rest
      | none => help firmwarePaths rest

def parse (arguments : List String) : Except Stop Invocation := do
  let a ← topSpec.scan {} arguments
  match a.command with
  | none => throw .usage
  | some (name, rest) =>
      if name = firmwareName then parseFirmware (refine {} a) rest
      else if name = completionForm.name then runForm (refine {} a) completionForm rest
      else help topPaths rest

end Invocation
end Reflash
