import Reflash.Archive.Zip.Listing

/-!
# Archive.Zip.Directory — where the directory of an archive is

The end record of an archive tells where its directory is.  Where the numbers do not fit into that
record, a locator before it leads to a wider one.  Other data may stand before the archive, so
positions count from where the directory, or the wider record, is really found.

* `Zip.directories` — the directories that end records lead to, that of the last record first.
-/

namespace Reflash
namespace Zip

/-- A directory: how many bytes stand before the archive, where it begins and how many entries it
has. -/
structure Directory where
  origin : Nat
  position : Nat
  count : Nat
  disk : Nat
  ownDisk : Nat
  deriving DecidableEq, Repr

/-! ## End records -/

/-- The end of an archive. -/
structure EndRecord where
  position : Nat
  disk : Nat
  ownDisk : Nat
  countHere : Nat
  count : Nat
  offset : Nat
  deriving DecidableEq, Repr

/-- An end record with the comment that it announces. -/
def EndRecord.at? (b : Bytes) (position : Nat) : Option EndRecord :=
  let r := b.drop position
  if 22 + field r 20 2 ≤ r.length then
    some {
      position
      disk := field r 4 2
      ownDisk := field r 6 2
      countHere := field r 8 2
      count := field r 10 2
      offset := field r 16 4 }
  else none

/-- Whether a number did not fit. -/
def EndRecord.mayBeNarrow (r : EndRecord) : Bool :=
  r.count == 0xFFFF || r.offset == tooWide

/-- The directory of an archive with an end record alone.  One without entries needs none. -/
def EndRecord.directory? (r : EndRecord) (b : Bytes) : Option Directory :=
  let behind (origin : Nat) : Directory := {
    origin
    position := origin + r.offset
    count := r.countHere
    disk := r.disk
    ownDisk := r.ownDisk }
  if r.count = 0 then some (behind (r.position - r.offset))
  else if r.position ≤ r.offset then none
  else
    (positionsBetween directoryMark r.offset r.position b).head?.map fun p => behind (p - r.offset)

/-! ## Wide records -/

/-- Where a wide end record should be. -/
structure Locator where
  position : Nat
  disk : Nat
  offset : Nat
  disks : Nat
  deriving DecidableEq, Repr

/-- The locator just before an end record. -/
def Locator.before? (b : Bytes) (position : Nat) : Option Locator :=
  let r := b.drop (position - 20)
  if 20 ≤ position ∧ locatorMark.isPrefixOf r then
    some { position := position - 20, disk := field r 4 4, offset := field r 8 8
           disks := field r 16 4 }
  else none

/-- The directory by a wide end record, which must reach as far as the locator. -/
def Locator.directoryAt? (l : Locator) (b : Bytes) (position : Nat) : Option Directory :=
  let r := b.drop position
  let count := field r 32 8
  let offset := field r 48 8
  let origin := position - l.offset
  if 44 ≤ field r 4 8 ∧ position + field r 4 8 + 12 = l.position ∧ field r 20 4 = l.disk ∧
      46 * count + offset ≤ position then
    some { origin, position := origin + offset, count, disk := field r 16 4
           ownDisk := field r 20 4 }
  else none

/-- The directory that a locator leads to; the wide record may not list more entries for one disk
than for all of them. -/
def Locator.directory? (l : Locator) (b : Bytes) : Option (Option Directory) :=
  if l.position ≤ l.offset ∨ 1 < l.disks then none
  else (positionsBetween wideEndMark l.offset l.position b).findSome? fun p =>
    (l.directoryAt? b p).map fun d =>
      if field (b.drop p) 24 8 ≤ d.count then some d else none

def EndRecord.leadsTo? (r : EndRecord) (b : Bytes) : Option Directory :=
  match if r.mayBeNarrow then Locator.before? b r.position else none with
  | some l => (l.directory? b).join
  | none => r.directory? b

def directories (b : Bytes) : List Directory :=
  ((positions endMark 0 b).reverse.filterMap (EndRecord.at? b)).filterMap (·.leadsTo? b)

/-- The entries of a directory.  An archive must be on one disk, and all positions are numbers of
sixty-four bits. -/
def Directory.listings? (d : Directory) (b : Bytes) : Option (List Listing) := do
  if d.disk ≠ d.ownDisk then none
  let listings ← Listing.all? d.count (b.drop d.position)
  if listings.all fun e => d.origin + e.offset < 0x10000000000000000 then return listings else none

end Zip
end Reflash
