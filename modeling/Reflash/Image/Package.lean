import Reflash.Crypto.Keys
import Reflash.Dfu.Fault
import Reflash.Image.Error
import Reflash.Image.Trust

/-!
# Image.Package — firmware packages for the NRF52

A package is an archive whose manifest names a binary and the packet that announces it.  The command
in the packet gives the size and the hash of the binary; if the packet is signed, the signature is
over the encoding of that command.

* `Package.parse` — the packages whose parts agree;
* `Package.info` — their version and signer.
-/

namespace Reflash

structure Package where
  packet : Dfu.Packet
  /-- The packet as it is written. -/
  packetBytes : Bytes
  binary : Bytes
  /-- The command of the packet that counts. -/
  command : Dfu.InitCommand
  deriving DecidableEq, Repr

namespace Package

variable (primitives : Primitives)

/-! ## Commands -/

/-- What a command announces; unknown kinds count as applications. -/
inductive Kind where
  | application
  | stack
  | bootloader
  | stackAndBootloader
  | externalApplication
  deriving DecidableEq, Repr

def Kind.ofNumber (n : Option Int32) : Kind :=
  if n = some 1 then .stack
  else if n = some 2 then .bootloader
  else if n = some 3 then .stackAndBootloader
  else if n = some 4 then .externalApplication
  else .application

/-- A size that was not written is zero. -/
def size (n : Option UInt32) : Nat :=
  (n.getD 0).toNat

/-- The sizes that the kind of firmware needs have to be there. -/
def checkSizes (c : Dfu.InitCommand) : Except ParseError Unit :=
  match Kind.ofNumber c.kind with
  | .application | .externalApplication =>
      if size c.appSize = 0 then .error (.missingSize .application) else .ok ()
  | .stack => if size c.stackSize = 0 then .error (.missingSize .stack) else .ok ()
  | .bootloader => if size c.bootloaderSize = 0 then .error (.missingSize .bootloader) else .ok ()
  | .stackAndBootloader =>
      if size c.stackSize = 0 ∨ size c.bootloaderSize = 0 then
        .error (.missingSize .stackOrBootloader)
      else .ok ()

/-- Hashes in commands are reversed. -/
def hashOf (binary : Bytes) : Bytes :=
  (primitives.hash binary).reverse

def checkBinary (c : Dfu.InitCommand) (binary : Bytes) : Except ParseError Unit := do
  if size c.appSize ≠ binary.length then throw (.wrongSize (size c.appSize) binary.length)
  if c.hash.bind (·.digest) ≠ some (hashOf primitives binary) then throw .wrongHash

/-! ## Packages -/

def entry (archive : Archive) (name : String) : Except ParseError Bytes :=
  match archive name with
  | .ok data => .ok data
  | .error fault => .error (.entry name fault)

def manifestName : String := "manifest.json"

/-- The names of the packet and the binary. -/
def names (manifest : PackageManifest) : Except ParseError (String × String) :=
  match manifest.application with
  | none => .error (.manifestLacks .application)
  | some (none, _) => .error (.manifestLacks .packet)
  | some (some _, none) => .error (.manifestLacks .binary)
  | some (some packet, some binary) => .ok (packet, binary)

def readManifest (archive : Archive) : Except ParseError PackageManifest := do
  let data ← entry archive manifestName
  match primitives.packageManifest data with
  | .ok manifest => return manifest
  | .error fault => throw (.badManifest fault)

def ofArchive (archive : Archive) : Except ParseError Package := do
  let manifest ← readManifest primitives archive
  let (packetName, binaryName) ← names manifest
  let packetBytes ← entry archive packetName
  let binary ← entry archive binaryName
  let some packet := primitives.packet? packetBytes
    | throw (.badPacket (Dfu.Packet.fault packetBytes))
  let some command := packet.initCommand? | throw .missingInitCommand
  checkSizes command
  checkBinary primitives command binary
  return { packet, packetBytes, binary, command }

def parse (data : Bytes) : Except ParseError Package :=
  match primitives.archive? data with
  | some archive => ofArchive primitives archive
  | none => .error .notArchive

/-! ## Versions and signers -/

def version (p : Package) : Version :=
  .ofPacked (p.command.version.getD 0)

/-- Signatures are written with each half reversed. -/
def orderSignature (signature : Bytes) : Bytes :=
  (signature.take 32).reverse ++ (signature.drop 32).reverse

/-- The key of a set that a signed package is signed with. -/
def signerIn (p : Package) (keys : KeySet) : Option SigningKey := do
  let signed ← p.packet.signedCommand
  keys.findSigner primitives p.command.encode (orderSignature (signed.signature.getD []))

/-- The key of the set in force at the version of the package. -/
def signer (p : Package) (sets : List KeySet) : Option SigningKey := do
  signerIn primitives p (← KeySet.select sets p.version)

/-- A package that is signed with none of the keys has an unknown signer. -/
def infoOf (p : Package) (sets : List KeySet) : ImageInfo :=
  match p.packet.signedCommand with
  | none => ⟨p.version, none, false⟩
  | some _ =>
      match signer primitives p sets with
      | some key => ⟨p.version, some key.name, key.isOfficial⟩
      | none => ⟨p.version, some "unknown", false⟩

def info (data : Bytes) (sets : List KeySet) : Except ParseError ImageInfo := do
  return infoOf primitives (← parse primitives data) sets

end Package
end Reflash
