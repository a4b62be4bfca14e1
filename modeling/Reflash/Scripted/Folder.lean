import Reflash.Files

/-!
# Scripted.Folder — a working directory with plain files in it

Commands run in a directory that holds the files they are given and nothing else.  Around it stands
the directory tree of a system, of which only what every system has is known.

* `Folder.read` — the content of the file that a path leads to.
-/

namespace Reflash
namespace Scripted

structure Folder where
  files : List (String × Bytes) := []

namespace Folder

/-- Directories that every system has. -/
def systemDirectories : List String :=
  ["bin", "boot", "dev", "etc", "home", "lib", "media", "mnt", "opt", "proc", "root", "run", "sbin",
    "srv", "sys", "tmp", "usr", "usr/bin", "usr/lib", "usr/local", "usr/sbin", "usr/share", "var",
    "var/lib", "var/log", "var/tmp"]

/-- Files that every system has. -/
def systemFiles : List (String × Bytes) :=
  [("dev/null", []), ("etc/passwd", Bytes.ofText "root:x:0:0:root:/root:/bin/sh\n")]

/-- Where a path has led so far. -/
inductive Place where
  | folder
  /-- Some directory above the folder. -/
  | above
  /-- A directory, by the names that lead to it from the root. -/
  | system (names : List String)
  | file (content : Bytes)
  deriving DecidableEq, Repr

/-- Follows a name. -/
def Place.enter (folder : Folder) : Place → String → Except FileFault Place
  | .file _, _ => .error .notDirectory
  | place, "" | place, "." => .ok place
  | .folder, ".." | .above, ".." => .ok .above
  | .system names, ".." => .ok (.system names.dropLast)
  | .folder, name =>
      match folder.files.lookup name with
      | some content => .ok (.file content)
      | none => .error .missing
  | .above, _ => .error .missing
  | .system names, name =>
      let path := "/".intercalate (names ++ [name])
      if path ∈ systemDirectories then .ok (.system (names ++ [name]))
      else match systemFiles.lookup path with
        | some content => .ok (.file content)
        | none => .error .missing

def read (folder : Folder) (path : String) : Except FileFault Bytes := do
  if path = "" then throw .missing
  if let some fault := Files.pathFault? path then throw fault
  let names := (path.toList.splitOn '/').map String.ofList
  let start : Place := if names.head? = some "" then .system [] else .folder
  match ← names.foldlM (·.enter folder) start with
  | .file content => return content
  | _ => throw .isDirectory

end Folder
end Scripted
end Reflash
