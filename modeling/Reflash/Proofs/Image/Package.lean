import Mathlib.Tactic.MkIffOfInductiveProp
import Reflash.Image.Package
import Reflash.Proofs.Result

/-!
# Image.Package — what stands in an accepted package

* `Package.Opened` — the packet and the binary of a package, as its archive and its manifest give
  them;
* `Package.parse_of_opened` — from there on, acceptance is up to the packet and the binary;
* `Package.Consistent` — what a packet says of the binary that it announces;
* `Package.Accepted` — all that is asked of an archive, and what its package holds;
* `Package.parse_exactly_consistent` — the packages that are accepted, and what is known of each of
  them.
-/

namespace Reflash
namespace Package

section

variable {primitives : Primitives} {data bytes binary : Bytes} {packet : Dfu.Packet}
  {command : Dfu.InitCommand} {package : Package}

/-- The entries that the manifest names are there, and the packet can be read. -/
def Opened (primitives : Primitives) (data : Bytes) (packet : Dfu.Packet) (bytes binary : Bytes) :
    Prop :=
  ∃ archive manifest packetName binaryName,
    primitives.archive? data = some archive ∧ readManifest primitives archive = .ok manifest ∧
      manifest.application = some (some packetName, some binaryName) ∧
      archive packetName = .ok bytes ∧ archive binaryName = .ok binary ∧
      primitives.packet? bytes = some packet

/-- A command agrees with a binary in its size and its hash. -/
structure Consistent (primitives : Primitives) (command : Dfu.InitCommand) (binary : Bytes) :
    Prop where
  sizes : checkSizes command = .ok ()
  length : size command.appSize = binary.length
  digest : command.hash.bind (·.digest) = some (hashOf primitives binary)

/-! ## Steps of the reading -/

theorem entry_eq_ok {archive : Archive} {name : String} :
    entry archive name = .ok bytes ↔ archive name = .ok bytes := by
  rw [entry]
  cases archive name with
  | ok found => simp
  | error fault => simp

theorem names_eq_ok {manifest : PackageManifest} {packetName binaryName : String} :
    names manifest = .ok (packetName, binaryName) ↔
      manifest.application = some (some packetName, some binaryName) := by
  rw [names]
  rcases manifest.application with _ | ⟨_ | first, _ | second⟩
  · simp
  · simp
  · simp
  · simp
  · simp

theorem checkBinary_eq_ok :
    checkBinary primitives command binary = .ok () ↔
      size command.appSize = binary.length ∧
        command.hash.bind (·.digest) = some (hashOf primitives binary) := by
  have hlast : (if command.hash.bind (·.digest) ≠ some (hashOf primitives binary) then
        throw .wrongHash else pure () : Except ParseError Unit) = .ok () ↔
      command.hash.bind (·.digest) = some (hashOf primitives binary) := by
    split
    next hhash => simpa using hhash
    next hhash => exact iff_of_true rfl (not_not.1 hhash)
  rw [checkBinary, Result.unless_eq_ok, not_not, hlast]

/-! ## Packages that can be opened -/

/-- The package that is made of its parts, if they agree. -/
def assemble (primitives : Primitives) (packet : Dfu.Packet) (bytes binary : Bytes) :
    Except ParseError Package :=
  match packet.initCommand? with
  | none => .error .missingInitCommand
  | some command => do
      checkSizes command
      checkBinary primitives command binary
      return { packet, packetBytes := bytes, binary, command }

theorem parse_of_opened (h : Opened primitives data packet bytes binary) :
    parse primitives data = assemble primitives packet bytes binary := by
  obtain ⟨archive, manifest, packetName, binaryName, harchive, hmanifest, hnames, hbytes, hbinary,
    hpacket⟩ := h
  have hnames' := names_eq_ok.2 hnames
  have hbytes' := entry_eq_ok.2 hbytes
  have hbinary' := entry_eq_ok.2 hbinary
  simp only [parse, harchive, ofArchive, hmanifest, hnames', hbytes', hbinary', hpacket,
    Result.ok_bind, assemble]
  cases packet.initCommand? with
  | none => rfl
  | some command => rfl

theorem opened_of_parse (h : parse primitives data = .ok package) :
    Opened primitives data package.packet package.packetBytes package.binary := by
  rw [parse] at h
  cases harchive : primitives.archive? data with
  | none => simp [harchive] at h
  | some archive =>
      simp only [harchive, ofArchive] at h
      obtain ⟨manifest, hmanifest, h⟩ := Result.bind_eq_ok.1 h
      obtain ⟨⟨packetName, binaryName⟩, hnames, h⟩ := Result.bind_eq_ok.1 h
      obtain ⟨bytes, hbytes, h⟩ := Result.bind_eq_ok.1 h
      obtain ⟨binary, hbinary, h⟩ := Result.bind_eq_ok.1 h
      cases hpacket : primitives.packet? bytes with
      | none => simp [hpacket] at h
      | some packet =>
          simp only [hpacket] at h
          cases hcommand : packet.initCommand? with
          | none => simp [hcommand] at h
          | some command =>
              simp only [hcommand] at h
              obtain ⟨_, -, h⟩ := Result.bind_eq_ok.1 h
              obtain ⟨_, -, h⟩ := Result.bind_eq_ok.1 h
              obtain rfl := Result.pure_eq_ok.1 h
              exact ⟨archive, manifest, packetName, binaryName, harchive, hmanifest,
                names_eq_ok.1 hnames, entry_eq_ok.1 hbytes, entry_eq_ok.1 hbinary, hpacket⟩

theorem assemble_eq_ok :
    assemble primitives packet bytes binary = .ok package ↔
      package.packet = packet ∧ package.packetBytes = bytes ∧ package.binary = binary ∧
        packet.initCommand? = some package.command ∧
          Consistent primitives package.command binary := by
  rw [assemble]
  cases packet.initCommand? with
  | none => simp
  | some command =>
      constructor
      · intro h
        obtain ⟨_, hsizes, h⟩ := Result.bind_eq_ok.1 h
        obtain ⟨_, hbinary, h⟩ := Result.bind_eq_ok.1 h
        obtain rfl := Result.pure_eq_ok.1 h
        obtain ⟨hlength, hdigest⟩ := checkBinary_eq_ok.1 hbinary
        exact ⟨rfl, rfl, rfl, rfl, hsizes, hlength, hdigest⟩
      · rintro ⟨rfl, rfl, rfl, hcommand, hsizes, hlength, hdigest⟩
        obtain rfl := Option.some.inj hcommand
        have hbinary := checkBinary_eq_ok.2 ⟨hlength, hdigest⟩
        exact Result.bind_eq_ok.2 ⟨(), hsizes, Result.bind_eq_ok.2 ⟨(), hbinary, rfl⟩⟩

/-- Of an accepted package, the command that counts agrees with the binary. -/
theorem command_of_parse (h : parse primitives data = .ok package) :
    package.packet.initCommand? = some package.command ∧
      Consistent primitives package.command package.binary := by
  have hassemble := parse_of_opened (opened_of_parse h)
  rw [h] at hassemble
  exact (assemble_eq_ok.1 hassemble.symm).2.2.2

theorem parse_eq_ok_iff :
    parse primitives data = .ok package ↔
      Opened primitives data package.packet package.packetBytes package.binary ∧
        package.packet.initCommand? = some package.command ∧
        Consistent primitives package.command package.binary := by
  constructor
  · intro h
    exact ⟨opened_of_parse h, command_of_parse h⟩
  · rintro ⟨hopened, hcommand, hconsistent⟩
    rw [parse_of_opened hopened, assemble_eq_ok]
    exact ⟨rfl, rfl, rfl, hcommand, hconsistent⟩

/-! ## What is asked of a package -/

/-- The sizes of what is in the binary are not zero.  The kinds 1 to 3 have a radio stack, a
bootloader, and both; all other kinds count as applications. -/
@[mk_iff]
structure Sized (command : Dfu.InitCommand) : Prop where
  application : command.kind ∉ [some 1, some 2, some 3] → size command.appSize ≠ 0
  stack : command.kind ∈ [some 1, some 3] → size command.stackSize ≠ 0
  bootloader : command.kind ∈ [some 2, some 3] → size command.bootloaderSize ≠ 0

theorem checkSizes_eq_ok_iff : checkSizes command = .ok () ↔ Sized command := by
  rw [sized_iff, checkSizes]
  by_cases hstack : command.kind = some 1
  · simp [Kind.ofNumber, hstack]
  by_cases hbootloader : command.kind = some 2
  · simp [Kind.ofNumber, hbootloader]
  by_cases hboth : command.kind = some 3
  · simp [Kind.ofNumber, hboth]
  by_cases hexternal : command.kind = some 4
  · simp [Kind.ofNumber, hexternal]
  · simp [Kind.ofNumber, hstack, hbootloader, hboth, hexternal]

/-- The command that counts is the signed one, if there is one. -/
structure Selected (packet : Dfu.Packet) (command : Dfu.InitCommand) : Prop where
  ofSigned : ∀ signed, packet.signedCommand = some signed →
    signed.command.bind (·.init) = some command
  ofPlain : packet.signedCommand = none → packet.command.bind (·.init) = some command

theorem initCommand?_of_signed {signed : Dfu.SignedCommand}
    (h : packet.signedCommand = some signed) :
    packet.initCommand? = signed.command.bind (·.init) := by
  simp [Dfu.Packet.initCommand?, h]

theorem initCommand?_of_plain (h : packet.signedCommand = none) :
    packet.initCommand? = packet.command.bind (·.init) := by
  simp [Dfu.Packet.initCommand?, h]

theorem initCommand?_eq_some_iff :
    packet.initCommand? = some command ↔ Selected packet command := by
  constructor
  · intro h
    refine ⟨fun signed hsigned => ?_, fun hplain => ?_⟩
    · rw [← initCommand?_of_signed hsigned, h]
    · rw [← initCommand?_of_plain hplain, h]
  · intro h
    cases hsigned : packet.signedCommand with
    | none => rw [initCommand?_of_plain hsigned, h.ofPlain hsigned]
    | some signed => rw [initCommand?_of_signed hsigned, h.ofSigned signed hsigned]

structure Accepted (primitives : Primitives) (archive : Archive) (package : Package) : Prop where
  entries : ∃ document manifest packetName binaryName,
    archive "manifest.json" = .ok document ∧ primitives.packageManifest document = .ok manifest ∧
      manifest.application = some (some packetName, some binaryName) ∧
      archive packetName = .ok package.packetBytes ∧ archive binaryName = .ok package.binary
  packet : primitives.packet? package.packetBytes = some package.packet
  command : Selected package.packet package.command
  sized : Sized package.command
  length : size package.command.appSize = package.binary.length
  digest : package.command.hash.bind (·.digest) = some (primitives.hash package.binary).reverse

theorem readManifest_eq_ok {archive : Archive} {manifest : PackageManifest} :
    readManifest primitives archive = .ok manifest ↔
      ∃ document, archive "manifest.json" = .ok document ∧
        primitives.packageManifest document = .ok manifest := by
  rw [readManifest, Result.bind_eq_ok]
  refine exists_congr fun document => and_congr entry_eq_ok ?_
  cases primitives.packageManifest document with
  | ok decoded => rw [Except.ok.injEq]; exact Result.pure_eq_ok
  | error fault => simp

theorem parse_eq_ok_iff_accepted :
    parse primitives data = .ok package ↔
      ∃ archive, primitives.archive? data = some archive ∧ Accepted primitives archive package := by
  rw [parse_eq_ok_iff, initCommand?_eq_some_iff]
  constructor
  · rintro ⟨⟨archive, manifest, packetName, binaryName, harchive, hmanifest, hnames, hbytes,
      hbinary, hpacket⟩, hselected, hconsistent⟩
    obtain ⟨document, hdocument, hdecode⟩ := readManifest_eq_ok.1 hmanifest
    refine ⟨archive, harchive, ?_, hpacket, hselected, checkSizes_eq_ok_iff.1 hconsistent.sizes,
      hconsistent.length, hconsistent.digest⟩
    exact ⟨document, manifest, packetName, binaryName, hdocument, hdecode, hnames, hbytes, hbinary⟩
  · rintro ⟨archive, harchive, h⟩
    obtain ⟨document, manifest, packetName, binaryName, hdocument, hdecode, hnames, hbytes,
      hbinary⟩ := h.entries
    refine ⟨?_, h.command, checkSizes_eq_ok_iff.2 h.sized, h.length, h.digest⟩
    exact ⟨archive, manifest, packetName, binaryName, harchive,
      readManifest_eq_ok.2 ⟨document, hdocument, hdecode⟩, hnames, hbytes, hbinary, h.packet⟩

/-- An application is never empty. -/
theorem Accepted.binary_ne_nil {archive : Archive} (h : Accepted primitives archive package)
    (hkind : package.command.kind ∉ [some 1, some 2, some 3]) : package.binary ≠ [] := by
  intro hempty
  refine h.sized.application hkind ?_
  rw [h.length, hempty, List.length_nil]

theorem parse_exactly_consistent (primitives : Primitives) (data : Bytes) :
    (∀ package, parse primitives data = .ok package ↔
      ∃ archive, primitives.archive? data = some archive ∧ Accepted primitives archive package) ∧
    ∀ package, parse primitives data = .ok package →
      (package.command.kind ∉ [some 1, some 2, some 3] → package.binary ≠ []) ∧
      package.packet.initCommand? = some package.command ∧
      package.packet.initCommand?.map (fun command => Version.ofPacked (command.version.getD 0)) =
        some package.version := by
  refine ⟨fun package => parse_eq_ok_iff_accepted, ?_⟩
  intro package hparse
  obtain ⟨archive, -, haccepted⟩ := parse_eq_ok_iff_accepted.1 hparse
  have hcommand := initCommand?_eq_some_iff.2 haccepted.command
  refine ⟨haccepted.binary_ne_nil, hcommand, ?_⟩
  rw [hcommand]
  rfl

end

/-! ## A package of a kind that is not known -/

namespace Accepted
namespace Trial

/-- The binary has two bytes, of which the hash in the command has the second one first. -/
def command : Dfu.InitCommand where
  version := some 0x400202
  kind := some 77
  appSize := some 2
  hash := some { kind := some 3, digest := some [2, 1] }

def packet : Dfu.Packet where
  command := some {}
  signedCommand := some { command := some { init := some command } }

/-- Bytes are their own hash, and every byte string is the same archive. -/
def primitives : Primitives :=
  { Primitives.standard with
    hash := fun data => data
    archive? := fun _ => some
      (.ofList [("manifest.json", .ok []), ("packet", .ok [0]), ("binary", .ok [1, 2])])
    packageManifest := fun _ => .ok { application := some (some "packet", some "binary") }
    packet? := fun _ => some packet }

def package : Package :=
  ⟨packet, [0], [1, 2], command⟩

end Trial
end Accepted

theorem parse_exactly_consistent_trial :
    parse Accepted.Trial.primitives [] = .ok Accepted.Trial.package ∧
      (∃ archive, Accepted.Trial.primitives.archive? [] = some archive ∧
        Accepted Accepted.Trial.primitives archive Accepted.Trial.package) ∧
      Accepted.Trial.package.binary ≠ [] ∧
      Accepted.Trial.package.packet.initCommand? = some Accepted.Trial.command := by
  obtain ⟨hexactly, hknown⟩ := parse_exactly_consistent Accepted.Trial.primitives []
  have hparse : parse Accepted.Trial.primitives [] = .ok Accepted.Trial.package := by decide +kernel
  obtain ⟨hbinary, hcommand, -⟩ := hknown _ hparse
  exact ⟨hparse, (hexactly _).1 hparse, hbinary (by decide), hcommand⟩

end Package
end Reflash
