import Reflash.Proofs.Image.Package
import Reflash.Proofs.Lists

/-!
# Image.Signer — whom a package is signed by

Size and hash of the binary, the version and the signed message of a package are all taken from one
command: the signed one, if there is one, even if it is empty.

* `Package.SignedWith` — the last key, of the set in force, that accepts a signature;
* `Package.signer_of_command` — who an accepted package is signed by, and that the plain command of
  a signed package has no part in it.
-/

namespace Reflash

section

variable {primitives : Primitives} {key : SigningKey} {message signature : Bytes}

theorem KeySet.findSigner_eq_some_iff {s : KeySet} :
    s.findSigner primitives message signature = some key ↔
      primitives.packageVerifies key.key message signature = true ∧
        ∃ before after, s.keys = before ++ key :: after ∧
          ∀ k ∈ after, primitives.packageVerifies k.key message signature = false := by
  simp only [findSigner, List.find?_eq_some_iff_append, Bool.not_eq_true']
  exact and_congr_right fun _ => Lists.exists_split_reverse

namespace Package

variable {sets : List KeySet} {p : Package} {data data' bytes bytes' binary : Bytes}
  {packet packet' : Dfu.Packet} {info : ImageInfo}

/-! ## The signer of a package -/

/-- The key is the last one of the set in force at a version that accepts a signature. -/
def SignedWith (primitives : Primitives) (sets : List KeySet) (version : Version)
    (message signature : Bytes) (key : SigningKey) : Prop :=
  ∃ set, KeySet.select sets version = some set ∧
    primitives.packageVerifies key.key message signature = true ∧
    ∃ before after, set.keys = before ++ key :: after ∧
      ∀ k ∈ after, primitives.packageVerifies k.key message signature = false

theorem signer_eq_some_iff :
    signer primitives p sets = some key ↔
      ∃ signed, p.packet.signedCommand = some signed ∧
        SignedWith primitives sets p.version p.command.encode
          (orderSignature (signed.signature.getD [])) key := by
  simp only [signer, signerIn, bind, Option.bind_eq_some_iff, KeySet.findSigner_eq_some_iff]
  constructor
  · rintro ⟨set, hset, signed, hsigned, hkey⟩
    exact ⟨signed, hsigned, set, hset, hkey⟩
  · rintro ⟨signed, hsigned, set, hset, hkey⟩
    exact ⟨set, hset, signed, hsigned, hkey⟩

theorem infoOf_eq :
    infoOf primitives p sets = {
      version := p.version
      signer := p.packet.signedCommand.map fun _ =>
        ((signer primitives p sets).map SigningKey.name).getD "unknown"
      isOfficial := ((signer primitives p sets).map SigningKey.isOfficial).getD false } := by
  rw [infoOf]
  cases hsigned : p.packet.signedCommand with
  | none =>
      -- Without a signed command, no key is tried.
      have hnone : signer primitives p sets = none := by
        rw [Option.eq_none_iff_forall_ne_some]
        intro key hkey
        obtain ⟨signed, hsome, -⟩ := signer_eq_some_iff.1 hkey
        rw [hsigned] at hsome
        cases hsome
      rw [hnone]
      rfl
  | some signed =>
      cases signer primitives p sets with
      | none => rfl
      | some key => rfl

/-! ## The command that counts -/

/-- One command is what all that is said of a package goes by. -/
structure Described (primitives : Primitives) (sets : List KeySet) (packet : Dfu.Packet)
    (binary : Bytes) (command : Dfu.InitCommand) (info : ImageInfo) : Prop where
  ofSigned : ∀ signed, packet.signedCommand = some signed →
    signed.command.bind (·.init) = some command
  ofPlain : packet.signedCommand = none → packet.command.bind (·.init) = some command
  length : (command.appSize.getD 0).toNat = binary.length
  digest : command.hash.bind (·.digest) = some (primitives.hash binary).reverse
  version : info.version = .ofPacked (command.version.getD 0)
  signer : info.signer = none ↔ packet.signedCommand = none
  official : info.isOfficial = true ↔
    ∃ signed key, packet.signedCommand = some signed ∧
      SignedWith primitives sets (.ofPacked (command.version.getD 0)) command.encode
        (orderSignature (signed.signature.getD [])) key ∧
      key.isOfficial = true

theorem described_of_parse (h : parse primitives data = .ok p) :
    Described primitives sets p.packet p.binary p.command (infoOf primitives p sets) where
  ofSigned := (initCommand?_eq_some_iff.1 (command_of_parse h).1).ofSigned
  ofPlain := (initCommand?_eq_some_iff.1 (command_of_parse h).1).ofPlain
  length := (command_of_parse h).2.length
  digest := (command_of_parse h).2.digest
  version := by rw [infoOf_eq, Package.version]
  signer := by simp [infoOf_eq]
  official := by
    have hkey : (infoOf primitives p sets).isOfficial = true ↔
        ∃ key, signer primitives p sets = some key ∧ key.isOfficial = true := by
      rw [infoOf_eq]
      cases signer primitives p sets with
      | none => simp
      | some key => simp
    rw [hkey]
    constructor
    · rintro ⟨key, hkey, hofficial⟩
      obtain ⟨signed, hsigned, hwith⟩ := signer_eq_some_iff.1 hkey
      exact ⟨signed, key, hsigned, hwith, hofficial⟩
    · rintro ⟨signed, key, hsigned, hwith, hofficial⟩
      exact ⟨key, signer_eq_some_iff.2 ⟨signed, hsigned, hwith⟩, hofficial⟩

/-- Two packages that can be opened have the same outcome if they have the same binary and signed
command. -/
theorem info_eq_of_signed (h : Opened primitives data packet bytes binary)
    (h' : Opened primitives data' packet' bytes' binary) {signed : Dfu.SignedCommand}
    (hsigned : packet.signedCommand = some signed)
    (hsigned' : packet'.signedCommand = some signed) :
    Package.info primitives data' sets = Package.info primitives data sets := by
  have hcommand : packet'.initCommand? = packet.initCommand? := by
    rw [initCommand?_of_signed hsigned, initCommand?_of_signed hsigned']
  rw [Package.info, Package.info, parse_of_opened h, parse_of_opened h', assemble, assemble,
    hcommand]
  -- The checks look at the command and the binary, and what is told of a package at its signed
  -- command.
  cases packet.initCommand? with
  | none => rfl
  | some command =>
      have hinfo : infoOf primitives ⟨packet', bytes', binary, command⟩ sets =
          infoOf primitives ⟨packet, bytes, binary, command⟩ sets := by
        simp [infoOf, signer, signerIn, Package.version, hsigned, hsigned']
      simp only [bind_assoc, pure_bind, hinfo]

/-- There is no way back to the plain command. -/
theorem info_of_empty_signed (h : Opened primitives data packet bytes binary)
    {signed : Dfu.SignedCommand} (hsigned : packet.signedCommand = some signed)
    (hempty : signed.command.bind (·.init) = none) :
    Package.info primitives data sets = .error .missingInitCommand := by
  have hcommand : packet.initCommand? = none := (initCommand?_of_signed hsigned).trans hempty
  rw [Package.info, parse_of_opened h, assemble, hcommand, Result.error_bind]

theorem signer_of_command (primitives : Primitives) (sets : List KeySet) :
    (∀ data info, Package.info primitives data sets = .ok info →
      ∃ packet bytes binary command, Opened primitives data packet bytes binary ∧
        Described primitives sets packet binary command info) ∧
    ∀ data packet bytes binary signed, Opened primitives data packet bytes binary →
      packet.signedCommand = some signed →
      (signed.command.bind (·.init) = none →
        Package.info primitives data sets = .error .missingInitCommand) ∧
      ∀ data' packet' bytes', Opened primitives data' packet' bytes' binary →
        packet'.signedCommand = some signed →
        Package.info primitives data' sets = Package.info primitives data sets := by
  constructor
  · intro data info hinfo
    obtain ⟨p, hparse, hpure⟩ := Result.bind_eq_ok.1 hinfo
    obtain rfl := Result.pure_eq_ok.1 hpure
    exact ⟨p.packet, p.packetBytes, p.binary, p.command, opened_of_parse hparse,
      described_of_parse hparse⟩
  · intro data packet bytes binary signed h hsigned
    refine ⟨info_of_empty_signed h hsigned, ?_⟩
    intro data' packet' bytes' h' hsigned'
    exact info_eq_of_signed h h' hsigned hsigned'

end Package

end

/-! ## A package with two commands -/

namespace Package
namespace Trial

def signed : Dfu.SignedCommand where
  command := some { init := some {
    version := some 0x400202, appSize := some 1, hash := some { digest := some [3] } } }
  signature := some [1, 2]

/-- The plain command is of another version. -/
def packet : Dfu.Packet where
  command := some { init := some { version := some 0, appSize := some 1 } }
  signedCommand := some signed

/-- Bytes are their own hash, and every signature counts unless the key has no points.  Without the
plain command, the packet is written as another byte. -/
def primitives : Primitives :=
  { Primitives.standard with
    hash := fun data => data
    packageVerifies := fun key _ _ => key.x ≠ 0
    archive? := fun data => some
      (.ofList [("manifest.json", .ok []), ("packet", .ok data), ("binary", .ok [3])])
    packageManifest := fun _ => .ok { application := some (some "packet", some "binary") }
    packet? := fun data => some (if data = [0] then packet else { packet with command := none }) }

/-- Two of the keys accept signatures, and the last of these is the official one. -/
def sets : List KeySet :=
  [{ start := { major := 0, minor := 0, patch := 0 }
     keys := [⟨"test", false, ⟨1, 1⟩⟩, ⟨"official", true, ⟨2, 2⟩⟩, ⟨"other", false, ⟨0, 0⟩⟩] }]

theorem opened (bytes : Bytes) :
    Opened primitives bytes (if bytes = [0] then packet else { packet with command := none }) bytes
      [3] :=
  ⟨_, _, "packet", "binary", rfl, rfl, rfl, rfl, rfl, rfl⟩

end Trial

theorem signer_of_command_trial :
    Package.info Trial.primitives [0] Trial.sets =
        .ok ⟨.ofPacked 0x400202, some "official", true⟩ ∧
      (∃ packet bytes binary command, Opened Trial.primitives [0] packet bytes binary ∧
        Described Trial.primitives Trial.sets packet binary command
          ⟨.ofPacked 0x400202, some "official", true⟩) ∧
      Package.info Trial.primitives [1] Trial.sets =
        Package.info Trial.primitives [0] Trial.sets := by
  have hinfo : Package.info Trial.primitives [0] Trial.sets =
      .ok ⟨.ofPacked 0x400202, some "official", true⟩ := by decide +kernel
  obtain ⟨hdescribed, hsigned⟩ := signer_of_command Trial.primitives Trial.sets
  exact ⟨hinfo, hdescribed _ _ hinfo,
    (hsigned _ _ _ _ Trial.signed (Trial.opened [0]) rfl).2 _ _ _ (Trial.opened [1]) rfl⟩

end Package
end Reflash
