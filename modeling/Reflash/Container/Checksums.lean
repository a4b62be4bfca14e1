import Reflash.Container.Basic
import Reflash.Text.Hex
import Reflash.Text.Lines

/-!
# Container.Checksums — lists of checksums

Every line of a list has a checksum, two spaces and the path of an entry; the path may hold spaces,
too.  If a path is listed several times, the last line counts.

* `Checksums.parse` — reads a list;
* `Checksums.check` — whether bytes have the checksum that is listed for a path.
-/

namespace Reflash

/-- The checksum that is listed for each path. -/
abbrev Checksums : Type :=
  List (String × String)

namespace Checksums

def line (l : List Char) : Except ChecksumsFault (String × String) :=
  match Text.cutPair? ' ' l with
  | some (checksum, path) => .ok (String.ofList path, String.ofList checksum)
  | none => .error (.line (String.ofList l))

def ofText (s : String) : Except ChecksumsFault Checksums :=
  (Text.lines s.toList).mapM line

def parse (b : Bytes) : Except ChecksumsFault Checksums :=
  match Utf8.decode b with
  | .ok s => ofText s
  | .error fault => .error (.notText fault)

def lookup? (c : Checksums) (path : String) : Option String :=
  c.reverse.lookup path

/-- Digits count in either case. -/
def sameDigits (a b : String) : Bool :=
  a.toList.map Char.toLower == b.toList.map Char.toLower

def check (hash : Bytes → Bytes) (c : Checksums) (path : String) (data : Bytes) :
    Except ContainerError Unit :=
  match c.lookup? path with
  | none => .error (.checksum path .unlisted)
  | some expected =>
      let actual := Hex.encode (hash data)
      if sameDigits actual expected then .ok ()
      else .error (.checksum path (.mismatch expected actual))

end Checksums
end Reflash
