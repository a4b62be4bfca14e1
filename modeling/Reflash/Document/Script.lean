import Reflash.Document.Value
import Reflash.Scripted.Scenario

/-!
# Document.Script — reading scripts

Whatever a script leaves out has the default of a scripted device.  Operations are named by what
they do.
-/

namespace Reflash
namespace Document

open Scripted (Bootloader Device Repository Run)

def scripted {α : Type} (read : Reader α) : Reader (Except DeviceError α) :=
  result deviceError read

/-- A result without a value. -/
def nothing : Reader Unit :=
  fun _ => return ()

def scriptedReply : Reader (UInt8 × Except DeviceError Bytes) :=
  fun j => return (← field byte j "command", ← scripted bytes j)

def device : Reader Device :=
  fun j => do
    let defaults : Device := { model := ← field model j "model" }
    return { defaults with
      name := (← field? text j "name").getD defaults.name
      path := ← field? text j "path"
      usbId := ← field? usbId j "vid_pid"
      replies := ← fieldList scriptedReply j "replies"
      closes := ← fieldList (scripted nothing) j "close"
      winks := ← fieldList (scripted nothing) j "wink" }

def bootloader : Reader Bootloader :=
  fun j => do
    let defaults : Bootloader :=
      { model := ← field model j "model", variant := ← field variant j "variant" }
    return { defaults with
      name := (← field? text j "name").getD defaults.name
      path := ← field? text j "path"
      uuids := ← fieldList (scripted (nullable uuid)) j "uuid"
      progress := ← fieldList (pair number) j "progress"
      updates := ← fieldList (scripted nothing) j "update"
      reboots := ← fieldList (scripted boolean) j "reboot"
      closes := ← fieldList (scripted nothing) j "close" }

def command : Reader AdminCommand :=
  fun j => do
    let name ← text j
    orMalformed (AdminCommand.all.find? (·.name = name))

def application : Reader Application :=
  fun j => do
    let name ← text j
    orMalformed (Application.all.find? (·.text = name))

def bootMode (j : Json) : Except DocumentError BootMode := do
  match ← field? text j "mode" with
  | none | some "firmware" => return .firmware
  | some "bootrom" => return .bootrom
  | some _ => throw .malformed

def operation : Reader DeviceOperation :=
  fun j => do
    match ← field text j "do" with
    | "info" => return .info
    | "status" => return .status
    | "version" => return .version
    | "uuid" => return .uuid
    | "reboot" => return .reboot (← bootMode j)
    | "wink" => return .wink
    | "close" => return .close
    | "rng" => return .rng
    | "is_locked" => return .isLocked
    | "se050_tests" => return .se050Tests
    | "has_config" => return .hasConfig (← field text j "key")
    | "get_config" => return .getConfig (← field text j "key")
    | "factory_reset" => return .factoryReset
    | "factory_reset_app" => return .factoryResetApp (← field text j "application")
    | "call" =>
        return .call (← field command j "command") (← field bytes j "data")
          (← field? number j "response_len")
    | _ => throw .malformed

def releaseError : Reader ReleaseError :=
  fun j => do
    let reason ← field text j "text"
    match ← field text j "kind" with
    | "http" => return .transfer reason
    | "io" => return .file reason
    | "not_found" => return .notFound reason
    | "no_assets" => return .noAssets reason
    | _ => throw .malformed

def release : Reader (Except ReleaseError Release) :=
  fun j => do
    match present? j "err" with
    | some e => return .error (← releaseError e)
    | none => return Release.make (← field text j "tag") (← fieldList text j "assets")

def repository : Reader Repository :=
  fun j => do
    let latest ← field? release j "latest"
    let releases := ((present? j "releases").bind Json.members?).getD []
    let download := (present? j "download").getD .null
    return {
      latest := latest.getD (.error (.notFound "latest"))
      releases := ← releases.mapM fun (tag, r) => return (tag, ← release r)
      progress := ← fieldList (pair number) download "progress"
      content := ← result releaseError bytes download }

def handle : Reader (Device ⊕ Bootloader) :=
  fun j => do
    match present? j "device" with
    | some d => return .inl (← device d)
    | none => return .inr (← field bootloader j "bootloader")

/-- The source of an update, and the content of its file, if it has one. -/
def source : Reader (UpdateSource × Option Bytes) :=
  fun j => do
    if let some data := present? j "bytes" then return (.bytes (← bytes data), none)
    if let some content := present? j "file" then
      return (.file "container", some (← bytes content))
    if let some path := present? j "path" then return (.file (← text path), none)
    return (.release (← field? text j "release"), none)

def run : Reader Run :=
  fun j => do
    let handle ← field handle j "device"
    let (source, content) ← field source j "source"
    return { handle, source, content }

end Document
end Reflash
