import Reflash.Json.Basic
import Reflash.Update.Warning
import Reflash.Version.Text

/-!
# Update.Config — settings of an update

Every setting has a default.  A document of settings may leave out any of them.
-/

namespace Reflash

/-- Delays are in milliseconds. -/
structure UpdateConfig where
  /-- Warnings that do not stop the update. -/
  ignored : List Warning := []
  ignoreClientVersion : Bool := false
  sdkVersion : Version := { major := 0, minor := 1, patch := 0, complete := true }
  /-- How long a device is left alone after it was told to reboot. -/
  settleDelay : Nat := 1000
  /-- How often the bootloader is looked for. -/
  retries : Nat := 3
  retryDelay : Nat := 500
  deriving DecidableEq, Repr

namespace UpdateConfig

def ignores (c : UpdateConfig) (w : Warning) : Bool :=
  c.ignored.contains w

def warnings? (j : Json) : Option (List Warning) := do
  let named ← (← j.items?).mapM fun item => do Warning.ofId? (← item.caseName?)
  return Warning.all.filter named.contains

def version? (j : Json) : Option Version := do
  (Version.parseEither (← j.text?)).toOption

def ofJson? (j : Json) : Option UpdateConfig := do
  let defaults : UpdateConfig := {}
  match ← j.fields? ["ignore_warnings", "ignore_pynitrokey_version", "sdk_version",
    "bootloader_settle_delay_ms", "bootloader_retries", "bootloader_retry_delay_ms"] with
  | [ignored, ignoreClientVersion, sdkVersion, settleDelay, retries, retryDelay] =>
      let number := Json.below? (0x10000000000000000)
      return {
        ignored := ← Json.orElse? warnings? defaults.ignored ignored
        ignoreClientVersion := ←
          Json.orElse? Json.bool? defaults.ignoreClientVersion ignoreClientVersion
        sdkVersion := ← Json.orElse? version? defaults.sdkVersion sdkVersion
        settleDelay := ← Json.orElse? number defaults.settleDelay settleDelay
        retries := ← Json.orElse? number defaults.retries retries
        retryDelay := ← Json.orElse? number defaults.retryDelay retryDelay }
  | _ => none

end UpdateConfig
end Reflash
