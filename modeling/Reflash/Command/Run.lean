import Reflash.Command.Answer
import Reflash.Command.Completion
import Reflash.Command.Error
import Reflash.Command.Terminal
import Reflash.Container.Parse
import Reflash.Image.FileName
import Reflash.Image.Validate
import Reflash.Json.Printer
import Reflash.Release.Server
import Reflash.Update.Policy

/-!
# Command.Run — what the commands do

A command has an answer, an error, or both; a `Report` is what becomes visible of them.  With
`--json` the command prints the document of its answer, and the tool in the end that of the error,
unless the answer has told of it.

* `CommandResult.printed` — the documents that are printed;
* `Invocation.run` — the report of an invocation.
-/

namespace Reflash

/-- What commands find around them. -/
structure Environment where
  /-- The content of a file, or why it cannot be read. -/
  file : String → Except FileFault Bytes
  /-- The release at an address. -/
  fetch : String → Except String Release
  /-- Downloads an asset into a directory, and gives the path of its file. -/
  save : Asset → (directory : String) → (mayReplace : Bool) → Except ReleaseError String
  /-- Who is at the terminal. -/
  operator : Operator := .absent

inductive Output where
  | lines (lines : List String)
  | document (document : Json)

/-- A single document is read as such; any other number of them is so many texts in a row. -/
def Output.ofDocuments : List Json → Output
  | [d] => .document d
  | documents => .lines (documents.map Json.pretty)

structure Report where
  exitCode : ExitCode
  output : Output
  /-- What is shown beside the output. -/
  messages : List String := []

/-- The end of a command, with the lines that it showed before. -/
structure CommandResult where
  answer : Option Answer := none
  error : Option CommandError := none
  shown : List String := []

namespace CommandResult

def answered (a : Answer) : CommandResult :=
  { answer := some a }

def failed (e : CommandError) : CommandResult :=
  { error := some e }

def ofExcept : Except CommandError Answer → CommandResult
  | .ok a => answered a
  | .error e => failed e

def readable (r : CommandResult) : Report where
  exitCode := (r.error.map (·.exitCode)).getD .success
  output := .lines ((r.answer.map (·.lines)).getD [])
  messages := r.shown ++ (r.error.map (·.lines)).getD []

/-- What is printed: the answer by the command, and by the tool an error that the answer does not
tell of. -/
def printed (r : CommandResult) : List Json :=
  (r.answer.map Answer.document).toList ++
    ((r.error.filter fun e => !e.isReported).map CommandError.document).toList

def machineReadable (r : CommandResult) : Report where
  exitCode := (r.error.map (·.exitCode)).getD .success
  output := .ofDocuments r.printed
  messages := r.shown

def report (json : Bool) (r : CommandResult) : Report :=
  if json then r.machineReadable else r.readable

end CommandResult

namespace Invocation

variable (primitives : Primitives) (environment : Environment)

/-! ## Containers and images -/

def readContainer (path : String) (model : Model) : Except CommandError Container :=
  match environment.file path with
  | .error fault => .error (.container path (.ofFile path fault))
  | .ok data => (Container.parse primitives data model).mapError (.container path)

/-- An error with its causes on one line. -/
def chain (e : ImageError) : String :=
  ": ".intercalate (e.message :: e.causes)

/-- An image that is not valid may still tell its version and signer. -/
def imageReport (model : Model) (release : Version) (variant : Variant) (data : Bytes) :
    Answer.ImageReport :=
  match Image.validate primitives variant data release model.anchors with
  | .ok info => ⟨variant, some info, none⟩
  | .error e =>
      ⟨variant, (Image.parse primitives variant data model.anchors).toOption, some (chain e)⟩

def verify (path : String) (model : Model) : CommandResult :=
  match readContainer primitives environment path model with
  | .error e => .failed e
  | .ok container =>
      let reports := container.images.map fun (variant, data) =>
        imageReport primitives model container.version variant data
      let invalid := reports.countP (·.error.isSome)
      { answer := some (Answer.container model container.version reports)
        error := if invalid = 0 then none else some (.invalidImages invalid reports.length) }

/-- The variant of an image by its published name, or by an extension that only one variant has. -/
def guessVariant (path : String) : Except CommandError Variant :=
  match FileName.parse? ((Path.fileName? path).getD "") with
  | some (variant, _) => .ok variant
  | none =>
      if Path.extension? path = some "sb2" then .ok .lpc55 else .error (.unknownVariant path)

def inspect (path : String) (variant : Option Variant) (model : Model) :
    Except CommandError Answer := do
  let variant ← match variant with
    | some variant => pure variant
    | none => guessVariant path
  let data ← (environment.file path).mapError (.unreadable path)
  let info ← (Image.parse primitives variant data model.anchors).mapError (.image path variant)
  return Answer.image variant info

/-! ## Policy -/

/-- The settings that a check goes by; each ignored warning counts once. -/
def config (ignored : List Warning) (ignoreClientVersion : Bool) : UpdateConfig where
  ignored := Warning.all.filter ignored.contains
  ignoreClientVersion := ignoreClientVersion

/-- The checks that an update makes before it deals with a device. -/
def checkPolicy (config : UpdateConfig) (current : Option Version) (container : Container) :
    Update.StepM Unit := do
  Update.checkVersion current container.version
  Update.checkRequirements container config

def isReinstall (current : Option Version) (new : Version) : Bool :=
  match Update.compareVersions current new with
  | .ok same => same.isSome
  | .error _ => false

def checkAnswer (model : Model) (current : Option Version) (ignored : List Warning)
    (container : Container) : Answer :=
  Answer.check model current container.version (isReinstall current container.version) ignored
    (container.images.map fun (variant, _) =>
      (variant, Migrations.of model variant current container.version))

def check (terminal : Terminal) (path : String) (model : Model) (current : Option Version)
    (config : UpdateConfig) : CommandResult :=
  match readContainer primitives environment path model with
  | .error e => .failed e
  | .ok container =>
      match terminal.hold environment.operator (checkPolicy config current container) with
      | (.ok _, shown) =>
          { answer := some (checkAnswer model current config.ignored container), shown }
      | (.error e, shown) => { error := some (.update e), shown }

/-! ## Downloads -/

def server (model : Model) (base : Option String) : Server :=
  match base with
  | some base => (Server.ofModel model).withBase base
  | none => Server.ofModel model

def findAsset (model : Model) (base tag : Option String) :
    Except CommandError (Version × Asset) := do
  let release ←
    ((server model base).lookUp environment.fetch tag).mapError (.lookUp model)
  let version ← release.version.mapError (.badTag release.tag)
  let asset ← (release.requireAsset primitives model.assetPattern).mapError .release
  return (version, asset)

def download (terminal : Terminal) (model : Model) (base tag : Option String)
    (directory : String) (mayReplace : Bool) : CommandResult :=
  match findAsset primitives environment model base tag with
  | .error e => .failed e
  | .ok (version, asset) =>
      match terminal.hold environment.operator (Update.confirm (.download none version)) with
      | (.error e, shown) => { error := some (.update e), shown }
      | (.ok _, shown) =>
          match environment.save asset directory mayReplace with
          | .error e => { error := some (.release e), shown }
          | .ok path => { answer := some (Answer.download version asset path), shown }

/-! ## The tool -/

def perform (i : Invocation) : CommandResult :=
  let terminal (assumeYes : Bool) : Terminal := ⟨assumeYes, i.options.json⟩
  match i.command with
  | .verify path model => verify primitives environment path model
  | .image path variant model => .ofExcept (inspect primitives environment path variant model)
  | .migrations model variant current new =>
      .answered (Answer.migrations model variant current new
        (Migrations.of model variant current new))
  | .check path model current ignored ignoreClientVersion assumeYes =>
      check primitives environment (terminal assumeYes) path model current
        (config ignored ignoreClientVersion)
  | .download model tag directory mayReplace assumeYes =>
      download primitives environment (terminal assumeYes) model i.options.apiBase tag directory
        mayReplace
  | .completion _ => {}

/-- Scripts for a shell have one form only. -/
def run (i : Invocation) : Report :=
  match i.command with
  | .completion shell => { exitCode := .success, output := .lines (Completion.script shell) }
  | _ => (i.perform primitives environment).report i.options.json

end Invocation
end Reflash
