import Reflash.Document.Value
import Reflash.Update.Retry
import Reflash.Update.State

/-!
# Document.Outcome — updates and what decides about them, as documents
-/

namespace Reflash

open Json (nat object option list)

def Model.document (m : Model) : Json :=
  let key (k : SigningKey) := object [("name", .text k.name), ("official", .bool k.isOfficial),
    ("fingerprint", .text (Hex.encode k.key.fingerprint))]
  let keySet (s : KeySet) := object [("start", s.start.document), ("keys", list key s.keys)]
  let bootloader (v : Variant) := object [("variant", v.document),
    ("name", .text (m.bootloaderName v)),
    ("pid", option (fun p => nat (UInt16.toNat p)) (m.bootloaderProduct? v))]
  object [("name", .text m.name), ("short_id", .text m.shortName),
    ("device_pid", nat m.firmwareProduct.toNat), ("json", .text m.name),
    ("variants", list Variant.document m.variants), ("bootloaders", list bootloader Variant.all),
    ("repository", .text m.repositoryName), ("pattern", .text m.assetPattern),
    ("rkth", option (fun h => .text (Hex.encode h)) m.anchors.rootTableHash),
    ("key_sets", list keySet m.anchors.keySets)]

def Attempt.document (a : Attempt) : Json :=
  object [("i", nat a.index), ("retries", nat a.total), ("last", .bool a.isLast),
    ("text", .text a.text)]

def Migration.document (m : Migration) : Json :=
  object [("name", .text m.text), ("retries", nat m.retries)]

def UpdateConfig.document (c : UpdateConfig) : Json :=
  let digits (n : Nat) := Json.text (toString n)
  object [("ignore_warnings", list (fun w => .text (Warning.id w)) c.ignored),
    ("ignores", list (fun w => .bool (c.ignores w)) Warning.all),
    ("ignore_pynitrokey_version", .bool c.ignoreClientVersion),
    ("sdk_version", c.sdkVersion.document),
    ("bootloader_settle_delay_ms", digits c.settleDelay), ("bootloader_retries", digits c.retries),
    ("bootloader_retry_delay_ms", digits c.retryDelay)]

def UpdateOutcome.document (o : UpdateOutcome) : Json :=
  object [("version", o.version.document), ("status", o.status.document)]

namespace UpdateState

def kind : UpdateState → String
  | .idle => "idle"
  | .inProgress _ => "in-progress"
  | .verified => "verified"
  | .failed .. => "failed"

/-- A state with its parts. -/
def parts (s : UpdateState) : Json :=
  object ([("state", .text s.kind)] ++ match s with
    | .idle | .verified => []
    | .inProgress step => [("step", .text step.id)]
    | .failed step error => [("step", .text step.id), ("error", .text error)])

def summary (s : UpdateState) : Json :=
  object [("text", .text s.text), ("in_progress", .bool s.isInProgress)]

def document (s : UpdateState) : Json :=
  object [("json", s.parts), ("text", .text s.text), ("in_progress", .bool s.isInProgress),
    ("step", option (fun p => .text (UpdateStep.id p)) s.step?)]

end UpdateState
end Reflash
