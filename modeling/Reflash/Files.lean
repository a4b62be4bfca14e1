import Reflash.Bytes

/-!
# Files — a file system as far as the library sees it

Paths lead to files or directories; writing a file replaces what it held before.  The faults of file
systems are told in the words of the operating system.

The parts of a path are separated by slashes; empty parts and single dots name nothing.  The
extension of a name is what follows its last dot, unless nothing stands before that.
-/

namespace Reflash

/-- Why a path does not lead to the content of a file. -/
inductive FileFault where
  | missing
  | notDirectory
  | isDirectory
  | longName
  | badName
  | other (reason : String)
  deriving DecidableEq, Repr

def FileFault.message : FileFault → String
  | .missing => "No such file or directory (os error 2)"
  | .notDirectory => "Not a directory (os error 20)"
  | .isDirectory => "Is a directory (os error 21)"
  | .longName => "File name too long (os error 36)"
  | .badName => "file name contained an unexpected NUL byte"
  | .other reason => reason

inductive FileNode where
  | file (content : Bytes)
  | directory
  deriving DecidableEq, Repr

/-- What each path leads to, if anything. -/
abbrev Files : Type :=
  String → Option FileNode

namespace Files

/-- What is wrong with a path wherever it leads: names have 255 bytes at most, and paths 4095. -/
def pathFault? (path : String) : Option FileFault :=
  if path.contains '\x00' then some .badName
  else if 4096 ≤ path.utf8ByteSize ∨
      (path.toList.splitOn '/').any fun part => 255 < (String.ofList part).utf8ByteSize then
    some .longName
  else none

def write (files : Files) (path : String) (content : Bytes) : Except FileFault Files :=
  match pathFault? path with
  | some fault => .error fault
  | none =>
      match files path with
      | some .directory => .error .isDirectory
      | _ => .ok fun p => if p = path then some (.file content) else files p

/-- The path of an entry of a directory. -/
def join (directory name : String) : String :=
  if directory = "" ∨ directory.toList.getLast? = some '/' then directory ++ name
  else directory ++ "/" ++ name

end Files

/-! ## Names of files in paths -/

namespace Path

/-- The parts that name something. -/
def parts (path : String) : List (List Char) :=
  (path.toList.splitOn '/').filter fun part => part ≠ [] ∧ part ≠ ['.']

/-- The name of what the path leads to; two dots are no name. -/
def fileName? (path : String) : Option String :=
  match (parts path).getLast? with
  | none | some ['.', '.'] => none
  | some part => some (String.ofList part)

def extension? (path : String) : Option String := do
  let name ← fileName? path
  let reversed := name.toList.reverse
  match reversed.dropWhile (· ≠ '.') with
  | '.' :: _ :: _ => some (String.ofList (reversed.takeWhile (· ≠ '.')).reverse)
  | _ => none

end Path
end Reflash
