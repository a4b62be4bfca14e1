import Reflash.Image.Cursor

/-!
# Image.Sb2.Header — the header of an SB2.1 image

The header has 96 bytes, all numbers lowest byte first.

| offset | size | field |
|---|---|---|
| 0 | 16 | nonce |
| 16 | 4 | ignored |
| 20 | 4 | `STMP` |
| 24 | 2 | format version, major and minor |
| 26 | 2 | flags |
| 28 | 16 | blocks of the image, first boot tag block, boot section, offset of the certificates |
| 44 | 8 | header blocks, key blob block, its block count, section hashes |
| 52 | 4 | `sgtl` |
| 56 | 8 | timestamp |
| 64 | 24 | product and component version, each part followed by two ignored bytes |
| 88 | 4 | build number |
| 92 | 4 | ignored |
-/

namespace Reflash
namespace Sb2

/-- A version whose parts are binary coded decimals. -/
structure BcdVersion where
  major : UInt16
  minor : UInt16
  patch : UInt16
  deriving DecidableEq, Repr

namespace BcdVersion

/-- A part, and the two bytes after it. -/
def part : ReadM UInt16 := do
  let n ← Cursor.word16
  Cursor.skip 2
  return n

def read : ReadM BcdVersion :=
  return { major := ← part, minor := ← part, patch := ← part }

def version (v : BcdVersion) : Except VersionError Version :=
  Version.ofBcd v.major v.minor v.patch

end BcdVersion

structure Header where
  nonce : Bytes
  formatMajor : UInt8
  formatMinor : UInt8
  flags : UInt16
  imageBlocks : UInt32
  firstBootTagBlock : UInt32
  firstBootSection : UInt32
  certificateOffset : UInt32
  headerBlocks : UInt16
  keyBlobBlock : UInt16
  keyBlobBlocks : UInt16
  sectionHashes : UInt16
  timestamp : UInt64
  product : BcdVersion
  component : BcdVersion
  build : UInt32
  deriving DecidableEq, Repr

namespace Header

def size : Nat := 96

/-- `STMP` -/
def firstMark : Bytes := [0x53, 0x54, 0x4D, 0x50]

/-- `sgtl` -/
def secondMark : Bytes := [0x73, 0x67, 0x74, 0x6C]

def read : ReadM Header := do
  let nonce ← Cursor.read 16
  Cursor.skip 4
  Cursor.expect firstMark (.header .mark)
  let formatMajor ← Cursor.byte
  let formatMinor ← Cursor.byte
  let flags ← Cursor.word16
  let imageBlocks ← Cursor.word32
  let firstBootTagBlock ← Cursor.word32
  let firstBootSection ← Cursor.word32
  let certificateOffset ← Cursor.word32
  let headerBlocks ← Cursor.word16
  let keyBlobBlock ← Cursor.word16
  let keyBlobBlocks ← Cursor.word16
  let sectionHashes ← Cursor.word16
  Cursor.expect secondMark (.header .mark)
  let timestamp ← Cursor.word64
  let product ← BcdVersion.read
  let component ← BcdVersion.read
  let build ← Cursor.word32
  Cursor.skip 4
  return {
    nonce, formatMajor, formatMinor, flags, imageBlocks, firstBootTagBlock, firstBootSection,
    certificateOffset, headerBlocks, keyBlobBlock, keyBlobBlocks, sectionHashes, timestamp, product,
    component, build }

def parse (data : Bytes) : Except ParseError Header :=
  Cursor.runOn read data

/-- A flag says that the boot sections are hashed. -/
def hasSectionHash (h : Header) : Bool :=
  h.flags &&& 0x8000 != 0

end Header
end Sb2
end Reflash
