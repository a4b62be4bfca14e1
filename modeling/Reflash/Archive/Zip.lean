import Reflash.Archive.Basic
import Reflash.Archive.Packing
import Reflash.Archive.Zip.Directory

/-!
# Archive.Zip — ZIP archives

A ZIP archive is read from its end: the end record tells where the directory is, and the directory
lists the entries.  Whatever looks like an end record is tried, the last one first.

* `Zip.read?` — the archive in a byte string.
-/

namespace Reflash
namespace Zip

/-- Where the bytes of an entry start, after its local record. -/
def dataStart (b : Bytes) (d : Directory) (e : Listing) : Except EntryFault Nat :=
  let position := d.origin + e.offset
  let r := b.drop position
  if r.length < 30 then .error (.unreadable "invalid Zip archive: Unexpected end of local record")
  else if localMark.isPrefixOf r then .ok (position + 30 + field r 26 2 + field r 28 2)
  else .error (.unreadable "invalid Zip archive: Invalid local file header")

/-- Expands the packed bytes of an entry. -/
def unpack (e : Listing) (packed : Bytes) : Except EntryFault Bytes :=
  match Packing.ofNumber? e.method with
  | some p => (p.expand e.size packed).mapError .unreadable
  | none => .error (.unreadable "unsupported Zip archive: Compression method not supported")

/-- The bytes of an entry; those missing at the end of the archive are not missed here, but their
checksum will be. -/
def contents (b : Bytes) (d : Directory) (e : Listing) : Except EntryFault Bytes :=
  if e.isEncrypted then
    .error (.unreadable "unsupported Zip archive: Password required to decrypt file")
  else do
    let start ← dataStart b d e
    if e.hasStrength then throw (.unreadable "provided password is incorrect")
    let data ← unpack e ((b.drop start).take e.packedSize)
    if (Crc32.checksum data).toNat = e.checksum then return data
    else throw (.unreadable "Invalid checksum")

/-- The entries of a directory. -/
def members? (b : Bytes) (d : Directory) : Option (List (String × Except EntryFault Bytes)) := do
  return (← d.listings? b).map fun e => (e.name, contents b d e)

def read? (b : Bytes) : Option Archive :=
  ((directories b).findSome? (members? b)).map Archive.ofList

end Zip
end Reflash
