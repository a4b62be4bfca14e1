import Reflash.Proofs.Image.Verdict

/-!
# Image.Malformed — signatures that no key can have made

A signature over the curve P-256 has 64 bytes.  Signatures of any other length are not faults of a
package: they are put in order, tried with every key and accepted by none, so that the package has
an unknown signer.  Nothing else that is learnt from a package depends on its signature.

* `Package.orderSignature_orderSignature` — each half of a signature is reversed, and reversed back;
* `KeySet.findSigner_of_length` — the keys do not accept signatures of another length;
* `Package.parse_resigned` — with another signature, a package is accepted as before;
* `Image.malformed_signature_is_unknown` — what becomes of such a package.
-/

namespace Reflash

/-! ## Keys -/

theorem P256.Key.verifies_of_length (key : P256.Key) (message : Bytes) {signature : Bytes}
    (h : signature.length ≠ 64) : key.verifies message signature = false := by
  rw [verifies, if_neg fun hvalid => h hvalid.1]

/-- Signatures are checked as packages are really signed; everything else is left open. -/
def Primitives.withP256 (primitives : Primitives) : Primitives :=
  { primitives with packageVerifies := P256.Key.verifies }

theorem KeySet.findSigner_of_length (primitives : Primitives) (keys : KeySet) (message : Bytes)
    {signature : Bytes} (h : signature.length ≠ 64) :
    keys.findSigner primitives.withP256 message signature = none := by
  refine List.find?_eq_none.2 fun key _ => ?_
  rw [Bool.not_eq_true]
  exact P256.Key.verifies_of_length key.key message h

namespace Package

/-! ## The order of a signature -/

theorem length_orderSignature (signature : Bytes) :
    (orderSignature signature).length = signature.length := by
  rw [orderSignature, List.length_append, List.length_reverse, List.length_reverse,
    ← List.length_append, List.take_append_drop]

theorem orderSignature_of_short {signature : Bytes} (h : signature.length ≤ 32) :
    orderSignature signature = signature.reverse := by
  rw [orderSignature, List.take_of_length_le h, List.drop_of_length_le h, List.reverse_nil,
    List.append_nil]

theorem orderSignature_append {low high : Bytes} (h : low.length = 32) :
    orderSignature (low ++ high) = low.reverse ++ high.reverse := by
  rw [orderSignature, List.take_left' h, List.drop_left' h]

theorem orderSignature_orderSignature (signature : Bytes) :
    orderSignature (orderSignature signature) = signature := by
  by_cases hshort : signature.length ≤ 32
  · have hreversed : signature.reverse.length ≤ 32 := by rwa [List.length_reverse]
    rw [orderSignature_of_short hshort, orderSignature_of_short hreversed, List.reverse_reverse]
  · have hlow : (signature.take 32).reverse.length = 32 := by
      rw [List.length_reverse, List.length_take]
      omega
    calc
      orderSignature (orderSignature signature) =
          orderSignature ((signature.take 32).reverse ++ (signature.drop 32).reverse) := rfl
      _ = signature.take 32 ++ signature.drop 32 := by
          rw [orderSignature_append hlow, List.reverse_reverse, List.reverse_reverse]
      _ = signature := List.take_append_drop 32 signature

/-! ## Packages with another signature -/

section

variable {primitives : Primitives} {data data' bytes' : Bytes} {signature : Option Bytes}
  {p : Package} {sets : List KeySet}

/-- The packet with another signature, or with none. -/
def resigned (packet : Dfu.Packet) (signature : Option Bytes) : Dfu.Packet :=
  { packet with signedCommand := packet.signedCommand.map fun signed => { signed with signature } }

theorem signedCommand_resigned {packet : Dfu.Packet} {signed : Dfu.SignedCommand}
    (h : packet.signedCommand = some signed) (signature : Option Bytes) :
    (resigned packet signature).signedCommand = some { signed with signature } := by
  rw [resigned, h, Option.map_some]

theorem initCommand?_resigned (packet : Dfu.Packet) (signature : Option Bytes) :
    (resigned packet signature).initCommand? = packet.initCommand? := by
  cases hsigned : packet.signedCommand with
  | none =>
      have hsame : resigned packet signature = packet := by
        rw [resigned, hsigned, Option.map_none, ← hsigned]
      rw [hsame]
  | some signed =>
      rw [initCommand?_of_signed hsigned,
        initCommand?_of_signed (signedCommand_resigned hsigned signature)]

/-- The signature is not looked at when a package is parsed. -/
theorem parse_resigned (h : parse primitives data = .ok p)
    (h' : Opened primitives data' (resigned p.packet signature) bytes' p.binary) :
    parse primitives data' = .ok ⟨resigned p.packet signature, bytes', p.binary, p.command⟩ := by
  obtain ⟨-, hcommand, hconsistent⟩ := parse_eq_ok_iff.1 h
  refine parse_eq_ok_iff.2 ⟨h', ?_, hconsistent⟩
  rw [initCommand?_resigned, hcommand]

/-- No key is found for a signature of another length. -/
theorem infoOf_of_length {signed : Dfu.SignedCommand}
    (hsigned : p.packet.signedCommand = some signed) (h : (signed.signature.getD []).length ≠ 64) :
    infoOf primitives.withP256 p sets = ⟨p.version, some "unknown", false⟩ := by
  have hlength : (orderSignature (signed.signature.getD [])).length ≠ 64 := by
    rwa [length_orderSignature]
  have hsigner : signer primitives.withP256 p sets = none := by
    rw [signer]
    cases KeySet.select sets p.version with
    | none => rfl
    | some keys =>
        change signerIn primitives.withP256 p keys = none
        rw [signerIn, hsigned]
        exact KeySet.findSigner_of_length primitives keys p.command.encode hlength
  rw [infoOf, hsigned, hsigner]

end

end Package

namespace Image

theorem validate_of_unknown {primitives : Primitives} {data : Bytes} {anchors : TrustAnchors}
    {release version : Version}
    (h : parse primitives .nrf52 data anchors = .ok ⟨version, some "unknown", false⟩)
    (hversion : version.triple = release.triple) :
    validate primitives .nrf52 data release anchors = .error (.untrustedSigner "unknown") := by
  rw [validate_of_parse h, accept_eq_error_iff (complete_of_parse h)]
  exact .signer hversion rfl rfl

/-- Whatever its signature, a package is parsed to the same version.  If the signature has not 64
bytes, its signer is unknown for all keys there are, and no release can be flashed from it. -/
theorem malformed_signature_is_unknown (primitives : Primitives) :
    (∀ signature, (Package.orderSignature signature).length = signature.length ∧
        Package.orderSignature (Package.orderSignature signature) = signature) ∧
      ∀ data p, Package.parse primitives.withP256 data = .ok p → p.packet.signedCommand.isSome →
        ∀ (signature : Option Bytes) (data' bytes' : Bytes),
          Package.Opened primitives.withP256 data' (Package.resigned p.packet signature) bytes'
            p.binary →
          ∀ anchors : TrustAnchors,
            (∃ info, parse primitives.withP256 .nrf52 data' anchors = .ok info ∧
              info.version = p.version) ∧
            (∀ release fault, validate primitives.withP256 .nrf52 data' release anchors ≠
              .error (.parse fault)) ∧
            ((signature.getD []).length ≠ 64 →
              parse primitives.withP256 .nrf52 data' anchors =
                .ok ⟨p.version, some "unknown", false⟩ ∧
              ∀ release : Version, p.version.triple = release.triple →
                validate primitives.withP256 .nrf52 data' release anchors =
                  .error (.untrustedSigner "unknown")) := by
  constructor
  · intro signature
    exact ⟨Package.length_orderSignature signature, Package.orderSignature_orderSignature signature⟩
  · intro data p hparse hsigned signature data' bytes' hopened anchors
    have hresigned := Package.parse_resigned hparse hopened
    have hinfo : ∀ info, Package.infoOf primitives.withP256 _ anchors.keySets = info →
        parse primitives.withP256 .nrf52 data' anchors = .ok info :=
      fun info h => Package.info_eq_ok_iff.2 ⟨_, hresigned, h⟩
    refine ⟨⟨_, hinfo _ rfl, Package.version_infoOf⟩, ?_, ?_⟩
    · intro release fault hvalidate
      rw [validate_eq_parse_iff, hinfo _ rfl] at hvalidate
      cases hvalidate
    · intro hlength
      obtain ⟨signed, hsome⟩ := Option.isSome_iff_exists.1 hsigned
      have hcommand := Package.signedCommand_resigned hsome signature
      have hunknown := hinfo _ (Package.infoOf_of_length hcommand hlength)
      exact ⟨hunknown, fun release hversion => validate_of_unknown hunknown hversion⟩

end Image

/-! ## A package with a byte too few -/

/-- The packet is written as its signature. -/
def Package.Trial.signedAs : Primitives :=
  { primitives with packet? := fun data => some (resigned packet (some data)) }

theorem Image.malformed_signature_is_unknown_trial :
    let primitives := Package.Trial.signedAs.withP256
    let signature := List.replicate 64 1
    let short := List.replicate 63 1
    let release : Version := { major := 1, minor := 8, patch := 2, complete := true }
    (∃ p, Package.parse primitives signature = .ok p ∧ p.packet.signedCommand.isSome ∧
      Package.Opened primitives short (Package.resigned p.packet (some short)) short p.binary) ∧
      parse primitives .nrf52 short Trial.anchors =
        .ok ⟨.ofPacked 0x400202, some "unknown", false⟩ ∧
      validate primitives .nrf52 short release Trial.anchors =
        .error (.untrustedSigner "unknown") := by
  intro primitives signature short release
  let p : Package := ⟨Package.resigned Package.Trial.packet (some signature), signature, [3],
    (Package.Trial.packet.initCommand?).getD {}⟩
  have hparse : Package.parse primitives signature = .ok p := by decide +kernel
  have hopened :
      Package.Opened primitives short (Package.resigned p.packet (some short)) short p.binary :=
    ⟨_, _, "packet", "binary", rfl, rfl, rfl, rfl, rfl, rfl⟩
  obtain ⟨-, hrest⟩ := malformed_signature_is_unknown Package.Trial.signedAs
  obtain ⟨-, -, hunknown⟩ :=
    hrest signature p hparse rfl (some short) short short hopened Trial.anchors
  obtain ⟨hinfo, hvalidate⟩ := hunknown (by decide)
  exact ⟨⟨p, hparse, rfl, hopened⟩, hinfo, hvalidate release (by decide)⟩

end Reflash
