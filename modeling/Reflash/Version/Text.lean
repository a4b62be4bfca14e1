import Reflash.Text.Decimal
import Reflash.Text.Lines
import Reflash.Version.Basic

/-!
# Version.Text — the grammar of versions

A version is written `major.minor.patch`, then optionally `-` and a pre-release text, then
optionally `+` and a build text; the build text starts at the first `+`, the pre-release text at the
first `-` before that.  Tagged versions put a `v` in front.

* `Version.parse` — the plain form;
* `Version.parseTagged` — the form with a `v`;
* `Version.parseEither` — whichever of the two the text is.
-/

namespace Reflash
namespace Version

/-- A text up to its first `mark`, and what follows the mark. -/
def cutAt (mark : Char) (s : List Char) : List Char × Option (List Char) :=
  match Text.cut? mark s with
  | some (before, after) => (before, some after)
  | none => (s, none)

/-- A part of the core: a 32-bit number. -/
def part (text : String) (digits : List Char) : Except VersionError Nat :=
  match Decimal.below? (0x100000000) digits with
  | some n => .ok n
  | none => .error (.badPart text)

def parse (s : String) : Except VersionError Version :=
  let (release, build) := cutAt '+' s.toList
  let (numbers, pre) := cutAt '-' release
  let text := String.ofList release
  match numbers.splitOn '.' with
  | [major, minor, patch] => do
      return {
        major := ← part text major
        minor := ← part text minor
        patch := ← part text patch
        pre := pre.map String.ofList
        build := build.map String.ofList
        complete := true }
  | _ => .error (.wrongParts text)

def parseTagged (s : String) : Except VersionError Version :=
  match s.toList with
  | 'v' :: rest => parse (String.ofList rest)
  | _ => .error (.missingV s)

def parseEither (s : String) : Except VersionError Version :=
  match s.toList with
  | 'v' :: _ => parseTagged s
  | _ => parse s

end Version
end Reflash
