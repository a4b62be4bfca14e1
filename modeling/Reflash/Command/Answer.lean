import Reflash.Image.Trust
import Reflash.Json.Basic
import Reflash.Release.Basic
import Reflash.Update.Migration
import Reflash.Update.Warning

/-!
# Command.Answer — the output of commands

An answer can be read by people, as lines, or by programs, as a document.
-/

namespace Reflash

structure Answer where
  lines : List String
  document : Json

namespace Answer

open Json (nat object option list)

/-- The members of a document that tells of a success or failure. -/
def report (isSuccess : Bool) (members : List (String × Json)) : Json :=
  object (("success", .bool isSuccess) :: members)

def version (v : Version) : Json :=
  .text v.text

/-! ## Images -/

def signer (i : ImageInfo) : String :=
  i.signer.getD "unsigned"

def official (i : ImageInfo) : String :=
  if i.isOfficial then "yes" else "no"

def infoMembers (i : ImageInfo) : List (String × Json) :=
  [("version", version i.version), ("signed_by", option .text i.signer),
    ("signed_by_nitrokey", .bool i.isOfficial)]

def image (v : Variant) (i : ImageInfo) : Answer where
  lines := [s!"Variant: {v.text}", s!"  Version:   {i.version.text}", s!"  Signed by: {signer i}",
    s!"  Official:  {official i}"]
  document := report true (("variant", .text v.text) :: infoMembers i)

/-- What is known of an image of a container, and why it is not valid. -/
structure ImageReport where
  variant : Variant
  info : Option ImageInfo
  error : Option String

namespace ImageReport

def line (r : ImageReport) : String :=
  match r.error, r.info with
  | some error, _ => s!"  ✗ {r.variant.text}: {error}"
  | none, some i => s!"  ✓ {r.variant.text}: {i.version.text} signed by {signer i}"
  | none, none => s!"  ✓ {r.variant.text}"

def document (r : ImageReport) : Json :=
  object ([("variant", .text r.variant.text)] ++ (r.info.map infoMembers).getD []
    ++ [("error", option .text r.error)])

end ImageReport

def container (m : Model) (v : Version) (images : List ImageReport) : Answer where
  lines := s!"Firmware container {v.text}" :: images.map (·.line)
  document := report (images.all (·.error.isNone)) [("model", .text m.name), ("version", version v),
    ("images", list ImageReport.document images)]

/-! ## Migrations -/

def migrationLines (s : Migrations) : List String :=
  (if s.toList = [] then ["No migrations"]
    else "Migrations:" :: s.toList.map fun migration => s!"  - {migration.text}")
    ++ [s!"Finalization retries: {s.retries}"] ++ s.notes

def migrationDocument (s : Migrations) : Json :=
  object [("migrations", list (fun migration => .text (Migration.text migration)) s.toList),
    ("finalization_retries", nat s.retries), ("information", list .text s.notes)]

def migrations (m : Model) (v : Variant) (current : Option Version) (new : Version)
    (s : Migrations) : Answer where
  lines := migrationLines s
  document := report true [("model", .text m.name), ("variant", .text v.text),
    ("current", option version current), ("new", version new), ("plan", migrationDocument s)]

/-! ## Checks and downloads -/

/-- A container that may be installed, with the migrations for each variant. -/
def check (m : Model) (current : Option Version) (new : Version) (isReinstall : Bool)
    (ignored : List Warning) (plans : List (Variant × Migrations)) : Answer where
  lines := s!"✓ {new.text} can be installed"
    :: plans.flatMap fun (v, s) => s!"{v.text}:" :: migrationLines s
  document := report true [("model", .text m.name), ("current", option version current),
    ("version", version new), ("reinstall", .bool isReinstall),
    ("ignored_warnings", list (fun w => .text (Warning.id w)) ignored),
    ("variants", object (plans.map fun (v, s) => (v.text, migrationDocument s)))]

def download (v : Version) (asset : Asset) (path : String) : Answer where
  lines := [s!"✓ Downloaded {v.text} to {path}"]
  document := report true [("version", version v), ("url", .text asset.url), ("path", .text path)]

end Answer
end Reflash
