import Reflash.Json.Decoder.Record

/-!
# Image.Manifest — what a firmware package says about itself

The manifest of a package names the entries of an application: a packet, and the binary that the
packet announces.  Each of these may be absent.
-/

namespace Reflash

/-- The names of a package's entries, as far as its manifest gives them. -/
structure PackageManifest where
  /-- The packet and the binary of the application. -/
  application : Option (Option String × Option String) := none
  deriving DecidableEq, Repr

namespace PackageManifest

open Json.Decoder (Member record nullable text)

def files : Json.Decoder (Option String × Option String) :=
  let members : List (Member (Option String × Option String)) :=
    [ { name := "dat_file", isRequired := false
        read := fun (_, binary) => return (← nullable text, binary) },
      { name := "bin_file", isRequired := false
        read := fun (packet, _) => return (packet, ← nullable text) } ]
  record "ManifestFiles" members (none, none)

def contents : Json.Decoder PackageManifest :=
  let application : Member PackageManifest :=
    { name := "application", isRequired := false, read := fun _ => return ⟨← nullable files⟩ }
  record "ApplicationManifest" [application] {}

def decode (document : Bytes) : Except Json.Fault PackageManifest :=
  let manifest : Member PackageManifest := { name := "manifest", read := fun _ => contents }
  (record "PackageManifest" [manifest] {}).decode document

end PackageManifest
end Reflash
