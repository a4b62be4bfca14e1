import Reflash.Archive.Lzma.Chunks
import Reflash.Hash.Checksum
import Reflash.Hash.Sha256

/-!
# Archive.Xz — streams of packed blocks

A stream is a header, blocks, an index of these and a footer.  A block is packed in chunks, after
filters have been applied, and followed by a checksum of the kind that the stream has.

* `Xz.expand` — the bytes of the stream at the head of a byte string.
-/

namespace Reflash
namespace Xz

/-! ## Faults -/

/-- What is wrong with a stream. -/
inductive Fault where
  | exhausted
  | chunks (fault : Lzma.ChunkFault)
  | mark
  | flags
  | headerChecksum
  | checkKind
  | longNumber
  | largeNumber
  | openNumber
  | shortBlock (part : String)
  | filter
  | filterSize (name : String)
  | reach
  | lastFilter
  | blockEnd
  | blockPadding
  | blockChecksum
  | padding
  | checksum
  | blockSize
  | indexPadding
  | indexChecksum
  | blockCount
  | footerChecksum
  | footerFlags
  | footerMark
  deriving DecidableEq, Repr

def Fault.message : Fault → String
  | .exhausted => "failed to fill whole buffer"
  | .chunks fault => fault.message
  | .mark => "invalid XZ magic bytes"
  | .flags => "invalid XZ stream flags"
  | .headerChecksum => "XZ stream header CRC32 mismatch"
  | .checkKind => "unsupported XZ check type"
  | .longNumber => "XZ multibyte integer too long"
  | .largeNumber => "XZ multibyte integer too large"
  | .openNumber => "incomplete XZ multibyte integer"
  | .blockEnd => "invalid XZ block header CRC32 position"
  | .shortBlock part => s!"XZ block header too short for {part}"
  | .filter => "unsupported filter type found"
  | .filterSize name => s!"invalid {name} properties size"
  | .reach => "invalid LZMA2 dictionary size"
  | .lastFilter => "XZ block's last filter must be a LZMA2 filter"
  | .blockPadding => "invalid XZ block header padding"
  | .blockChecksum => "XZ block header CRC32 mismatch"
  | .padding => "invalid XZ block padding"
  | .checksum => "invalid block checksum"
  | .blockSize => "invalid index record unpadded size"
  | .indexPadding => "invalid index padding"
  | .indexChecksum => "index CRC32 mismatch"
  | .blockCount => "number of blocks processed doesn't match index records"
  | .footerChecksum => "stream footer CRC32 mismatch"
  | .footerFlags => "stream header and footer flags mismatch"
  | .footerMark => "invalid XZ footer magic bytes"

end Xz

/-- Readings of a stream, with what is ahead. -/
abbrev XzM : Type → Type :=
  StateT Bytes (Except Xz.Fault)

namespace Xz

def check (rule : Bool) (fault : Fault) : XzM Unit :=
  if rule then return () else throw fault

/-! ## Numbers -/

def bytes (count : Nat) : XzM Bytes := do
  let b ← get
  check (count ≤ b.length) .exhausted
  set (b.drop count)
  return b.take count

/-- A number in groups of seven bits, the lowest first.  There are at most `groups` of them: if
there are more, or the data end, `long` and `short` say so. -/
def number (long short : Fault) : (groups : Nat) → XzM Nat
  | 0 => do throw (if (← get).isEmpty then short else long)
  | groups + 1 => do
      check (!(← get).isEmpty) short
      let n := Bytes.littleEndian (← bytes 1)
      if n < 128 then return n else return n - 128 + 128 * (← number long short groups)

/-- A number in the index. -/
def indexNumber : XzM Nat :=
  number .longNumber .exhausted 9

/-- A number in the header of a block. -/
def blockNumber : XzM Nat :=
  number .largeNumber .openNumber 9

/-! ## Checks -/

/-- The kind of checksum behind each block. -/
inductive Check where
  | none
  | crc32
  | crc64
  | sha256
  deriving DecidableEq, Repr

def Check.ofNumber? : UInt8 → Option Check
  | 0 => some .none
  | 1 => some .crc32
  | 4 => some .crc64
  | 10 => some .sha256
  | _ => Option.none

def crc (b : Bytes) : Bytes :=
  Bytes.ofLittle 4 (Crc32.checksum b).toNat

def Check.of (c : Check) (b : Bytes) : Bytes :=
  match c with
  | .none => []
  | .crc32 => crc b
  | .crc64 => Bytes.ofLittle 8 (Crc64.checksum b).toNat
  | .sha256 => Sha256.digest b

/-- Insists on the checksum of some bytes. -/
def checked (b : Bytes) (fault : Fault) : XzM Unit := do
  check ((← bytes 4) == crc b) fault

/-! ## Blocks -/

/-- A filter before packing: each byte was replaced by its difference to the one so far back. -/
structure Delta where
  distance : Nat
  deriving DecidableEq, Repr

def Delta.undo (d : Delta) (b : Bytes) : Bytes :=
  (b.foldl (fun done x =>
    done.push (x + if done.size < d.distance then 0 else (done[done.size - d.distance]?).getD 0))
    (#[] : Array UInt8)).toList

/-- How far back references may reach, from the byte that says so. -/
def reach? (n : Nat) : Option Nat :=
  if n < 40 then some (Lzma.reach ((2 + n % 2) <<< (n / 2 + 11)))
  else if n = 40 then some (Lzma.reach 0xFFFFFFF0)
  else none

/-- A filter, or the packing itself with its reach. -/
inductive Filter where
  | delta (filter : Delta)
  | packing (reach : Nat)
  deriving DecidableEq, Repr

/-- The one byte of settings that a filter has. -/
def setting (name : String) : XzM Nat := do
  check (!(← get).isEmpty) (.shortBlock s!"{name} properties")
  check ((← blockNumber) == 1) (.filterSize name)
  check (!(← get).isEmpty) (.shortBlock s!"{name} properties")
  return Bytes.littleEndian (← bytes 1)

def filter : XzM Filter := do
  check (!(← get).isEmpty) (.shortBlock "filters")
  match ← blockNumber with
  | 3 => return .delta { distance := 1 + (← setting "Delta") }
  | 33 =>
      match reach? (← setting "LZMA2") with
      | some reach => return .packing reach
      | none => throw .reach
  | _ => throw .filter

def Filter.undo (f : Filter) (b : Bytes) : Except Fault Bytes :=
  match f with
  | .delta d => .ok (d.undo b)
  | .packing reach => ((Lzma.Chunks.expand reach b).mapError .chunks).map (·.1)

/-- The filters of a block, and the reach of the last one, which is packing. -/
structure Block where
  filters : List Filter
  reach : Nat
  deriving Repr

/-- The block with those filters. -/
def Block.ofFilters? (all : List Filter) : Option Block :=
  match all.getLast? with
  | some (.packing reach) => some { filters := all.dropLast, reach }
  | _ => none

/-- One of the sizes that a block may tell. -/
def noted (name : String) : XzM Unit := do
  check (8 ≤ (← get).length) (.shortBlock name)
  let _ ← blockNumber

/-- The header of a block, after the byte that tells its size.  Behind the filters there are zeros
up to the checksum. -/
def header (size : Nat) : XzM Block := do
  let body ← bytes (4 * size + 3)
  let rest ← get
  set body
  let flags := Bytes.littleEndian (← bytes 1)
  if flags.testBit 6 then noted "compressed size"
  if flags.testBit 7 then noted "uncompressed size"
  let all ← (List.range (1 + flags % 4)).mapM fun _ => filter
  let some block := Block.ofFilters? all | throw .lastFilter
  let padding := (← get).length - 4
  check ((← bytes padding).all (· == 0)) .blockPadding
  check ((← get).length == 4) .blockEnd
  check ((← get) == crc (UInt8.ofNat size :: body.take (body.length - 4))) .blockChecksum
  set rest
  return block

/-- Zeros up to a multiple of four, after so many bytes. -/
def padded (count : Nat) (fault : Fault) : XzM Unit := do
  check ((← bytes (count * 3 % 4)).all (· == 0)) fault

/-- The bytes of a block, behind its header. -/
def block (c : Check) (b : Block) : XzM Bytes := do
  let packed ← get
  match Lzma.Chunks.expand b.reach packed with
  | .error fault => throw (.chunks fault)
  | .ok (data, rest) =>
      set rest
      padded (packed.length - rest.length) .padding
      let data ← b.filters.reverse.foldlM (fun data f => f.undo data) data
      check ((← bytes (c.of data).length) == c.of data) .checksum
      return data

/-- Blocks up to the index, with their number; `fuel` bounds that. -/
def blocks (c : Check) : (fuel : Nat) → XzM (Nat × Bytes)
  | 0 => throw .exhausted
  | fuel + 1 => do
      match Bytes.littleEndian (← bytes 1) with
      | 0 => return (0, [])
      | size => do
          let data ← block c (← header size)
          let (count, later) ← blocks c fuel
          return (count + 1, data ++ later)

/-! ## Streams -/

/-- The index has two numbers for each block, of which the first is not zero. -/
def records : (count : Nat) → XzM Unit
  | 0 => return ()
  | count + 1 => do
      check ((← indexNumber) != 0) .blockSize
      let _ ← indexNumber
      records count

/-- The index, after its first byte. -/
def index (count : Nat) : XzM Unit := do
  let start ← get
  let listed ← indexNumber
  records (min listed start.length)
  padded (start.length - (← get).length + 1) .indexPadding
  let read := start.take (start.length - (← get).length)
  checked (0 :: read) .indexChecksum
  check (listed == count) .blockCount

def stream : XzM Bytes := do
  let start ← get
  check ((← bytes 6) == [0xFD, 0x37, 0x7A, 0x58, 0x5A, 0]) .mark
  let flags ← bytes 2
  check (flags.headD 0 == 0) .flags
  match Check.ofNumber? (flags.getLastD 0) with
  | none => throw .checkKind
  | some c => do
      checked flags .headerChecksum
      let (count, data) ← blocks c start.length
      index count
      let noted ← bytes 4
      let footer ← bytes 6
      check (noted == crc footer) .footerChecksum
      check ((← bytes 2) == Bytes.ofText "YZ") .footerMark
      check (footer.drop 4 == flags) .footerFlags
      return data

def expand (b : Bytes) : Except Fault Bytes :=
  (stream.run b).map (·.1)

end Xz
end Reflash
