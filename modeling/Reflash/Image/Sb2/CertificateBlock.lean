import Reflash.Crypto.Chain
import Reflash.Image.Cursor

/-!
# Image.Sb2.CertificateBlock — the certificates of an SB2.1 image

A block is a header of 32 bytes, the table of certificates, each with its length in front, and the
table of the hashes of four root keys.  The root of the chain has to be one of these.

* `CertificateBlock.parse` — reads a block and verifies its chain;
* `CertificateBlock.paddedSize` — the room that the block takes in an image.
-/

namespace Reflash
namespace Sb2

structure CertificateBlock where
  formatMajor : UInt16
  formatMinor : UInt16
  flags : UInt32
  build : UInt32
  imageLength : UInt32
  tableLength : UInt32
  chain : Chain
  rootTable : Bytes
  /-- The place of the chain's root in the table. -/
  rootIndex : Nat
  deriving DecidableEq, Repr

namespace CertificateBlock

variable (primitives : Primitives)

def headerSize : Nat := 32

/-- The root table has room for four hashes. -/
def rootTableSize : Nat := 4 * 32

/-- `cert` -/
def mark : Bytes := [0x63, 0x65, 0x72, 0x74]

/-- A certificate with its length in front. -/
def readCertificate : ReadM Bytes := do
  Cursor.read (← Cursor.word32).toNat

def readCertificates : (count : Nat) → ReadM (List Bytes)
  | 0 => return []
  | count + 1 => do
      let first ← readCertificate
      return first :: (← readCertificates count)

def liftCrypto {α : Type} (result : Except CryptoError α) : ReadM α :=
  match result with
  | .ok a => return a
  | .error e => throw (.crypto e)

/-- The place of a hash in a root table. -/
def rootIndex? (rootTable hash : Bytes) : Option Nat :=
  (rootTable.blocks 32).findIdx? (· == hash)

/-- Reads a block from data of which `length` bytes are left. -/
def read (length : Nat) : ReadM CertificateBlock := do
  if length < headerSize then throw (.certificateBlock .size)
  Cursor.expect mark (.certificateBlock .mark)
  let formatMajor ← Cursor.word16
  let formatMinor ← Cursor.word16
  if (← Cursor.word32).toNat ≠ headerSize then throw (.certificateBlock .headerLength)
  let flags ← Cursor.word32
  let build ← Cursor.word32
  let imageLength ← Cursor.word32
  let count ← Cursor.word32
  let tableLength ← Cursor.word32
  if length < tableLength.toNat + rootTableSize then throw (.certificateBlock .tableLength)
  let chain ← liftCrypto (Chain.decode primitives (← readCertificates count.toNat))
  liftCrypto (Chain.verify primitives chain)
  let rootTable ← Cursor.read rootTableSize
  let hash ← liftCrypto (Chain.rootKeyHash primitives chain)
  match rootIndex? rootTable hash with
  | some rootIndex =>
      return {
        formatMajor, formatMinor, flags, build, imageLength, tableLength, chain, rootTable,
        rootIndex }
  | none => throw (.certificateBlock .unlistedRoot)

def parse (data : Bytes) : Except ParseError CertificateBlock :=
  Cursor.runOn (read primitives data.length) data

/-- Blocks fill whole units of 16 bytes. -/
def paddedSize (b : CertificateBlock) : Nat :=
  (headerSize + b.tableLength.toNat + rootTableSize + 15) / 16 * 16

/-- The hash by which the whole table of root keys is trusted. -/
def rootTableHash (b : CertificateBlock) : Bytes :=
  primitives.hash b.rootTable

end CertificateBlock
end Sb2
end Reflash
