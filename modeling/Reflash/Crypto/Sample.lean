import Reflash.Crypto.Chain

/-!
# Crypto.Sample — certificate chains to try things out with

Sample chains are made with keys that anybody may know.  Each certificate is signed with the key of
the one before it, unless a spec says that a foreign key is used.
-/

namespace Reflash
namespace Sample

/-- A key with its private exponent. -/
structure PrivateKey where
  key : Rsa.Key
  exponent : Nat

def PrivateKey.sign (k : PrivateKey) (message : Bytes) : Bytes :=
  k.key.sign k.exponent message

/-- The number of certificates that there are keys for. -/
def chainLimit : Nat := 4

/-- The moduli and private exponents of the keys for chains, and of a foreign key. -/
def keyNumbers : List (Nat × Nat) :=
  [
    (0xc727db5f8b80d946897f00f06d648610323a39daa632c8eac5cb365fd7e07c76a9b72350d6307849b0194e1d7e156a87dc81a5f18c47d946c04c190d47a38804e2e47dfb4c5803e86a9f5ca262ff07e0d08bd9fdfe4a2ae72e2042426ca3828063484913833eefbff92ca1de22c2a14ef9a736c89076e358f137902b2e67f5e5,
      0x6cc34094026cc0bc3bf4e73f668ea2848fd9aaa4d56520c2ce78775e8a57e7c12a5880e9f1bf90c1b5716c6ec0dfd349154c9ca2b8d8b83962656cbd0ae5ad2efe5d84b20ce18594ed981b2cb2105bf5f449d6b4eb2c74325be371d70f50a51c0a16c91a108fba3fb034063c8512fdd6c6daa670ab79e3c06a3f2104215c46c1),
    (0xde7679f0ec9ef32514ac575542b0f4787baa855705be088f48b9ee1dab54808d403e05c4c9bf8b618eed9baf109fc33a0278cedc014e2a0900348cb174ba1c94147755bcdcac50b7ccc1395666edf8f799bc1bb23347184a45cd233bddddec8618588684bc7270f3519cd21110e0a7a81f82c764fcba787d0dd3dfb4529a25c9,
      0x7bac7dea3481c146b2118593beb9c58f5da0d4f4261b19831eb94ee96ba054bf3221c8ef3801a6a91bde789880b370c34530883fc2f203687196c548ba4de5285c341e8478a5e89a6ee20687345ed3c214e0f97f067d06db8637e5a6d3acd5fa0fcd203f6b127fa25a98f7f33af4bd2b49d112c35a3db5f068adbcc8a8f328c9),
    (0xb978491e8a7a425ab414a4bd24bb95811f87c266291ce56055218ea1897b66ed925728ee5cec5ea5916d380c4b1a9f05a6dc7424ac5a3857206cf0e3e8bee9d13fbf94e93fef32250a0626a78f59ce11d05bf05196e4f1fd7f29de019d21ab1051f173489d276061792979a1e5c00e4751845c5d35df92d5bdc686dd4d425c2d,
      0xa43bc87bbbe1f13a0276b93e27f5d7b88464221776d678a32a1f51fee710181fcd53531267c4833717a4e059ba73b3573cdfc014ed6de2affc2d9bce253e512a907d23728f845f1cd4aff9e2270e107b9ed2d30de64620e840808b80a75497a3275aa725a5697a776b09ccffdaa0032078b614e4d32500da6b0b5946ca88911d),
    (0xba25ecce759b9e3b8d6a45f17316c21f27806a114a55cbc4b7a884431ea7f25bb6839087f9c27eec1900858594a08dae18166e0b925b41a9d08b1ab729a3eaeeff2ba9625240318950d3d75156be8105757d2e679d225eeee993c0d928664fa8155e77b8866501ef71060b0ac63e43befe6070d2841dde1ef7f2471035465041,
      0x2553f196bd32c59a3f936e0f2afb075663ff76459d587312319a135bba4c0767a8c3dd39c735df69cce1b3e4c397269220b66ebed74c8170622762e613ed90f0a08696ee64c1a3db5f894056b903e4057ab7661a60cbee8227253148b14e9bce55cffbe2845394448b95390a22fbe1a3fa6598a49cfc243f0932960819c3ea21),
    (0xcf41d0df8eafd9863c83bd1d5758d7ddfc913ca6c68d138a24be4f395d23627bc07f1ec0caff6821437b58e29fd70050bdc884f9a56c54334b1fa43a4045995811efa0f9e00616d49b9d5b08ea9dc01a84dc5e295bd2a7780d00736a1bea17578dd02775931c6bf6c21088ab503fb0b1d03cef95637243dde4497d1fa6e24b49,
      0x7156bda1b386e8bea6d3281526921822761efa7afd7362af15ded8b636ffc5b885113f411101d0f0f7d5394b5d3b9719905f5a90a6ecf1b2c72f3b80fb6ad42abf67146f49c63e7d30685e7f72a49cfd19bfa7a5cf9ac9e984547975ad4b192f4d04031f5d98660714d167ddbeb175042a8a96821d747a9d58849c9b2b3d9cf1)]

/-- The key of a certificate of a chain; beyond the last one, the foreign key. -/
def key (index : Nat) : PrivateKey :=
  let (modulus, exponent) := keyNumbers.getD index (1, 1)
  ⟨⟨modulus, 65537⟩, exponent⟩

def foreignKey : PrivateKey :=
  key chainLimit

/-- How a certificate deviates from what it should be. -/
structure CertificateSpec where
  isOld : Bool := false
  isForeign : Bool := false
  deriving DecidableEq, Repr

/-! ## Certificates -/

/-- 2.5.4.3 -/
def commonName : Der.Oid :=
  ⟨[0x55, 0x04, 0x03]⟩

def name (index : Nat) : DistinguishedName :=
  let text := if index = 0 then "Nitrokey Test Root" else s!"Nitrokey Test Intermediate {index}"
  [[⟨commonName, ⟨0x0C, Bytes.ofText text⟩⟩]]

def time (s : String) : Der.Element :=
  ⟨0x17, Bytes.ofText s⟩

def algorithm : Algorithm :=
  ⟨Chain.signatureAlgorithm, none⟩

def unsigned (index : Nat) (spec : CertificateSpec) : Certificate where
  version := if spec.isOld then 0 else 2
  serial := [UInt8.ofNat (index + 1)]
  innerAlgorithm := algorithm
  issuer := name (index - 1)
  validity := [time "200913122640Z", time "460119184000Z"]
  subject := name index
  keyInfo := KeyInfo.ofRsa (key index).key
  issuerId := none
  subjectId := none
  extensions := none
  algorithm := algorithm
  signature := ⟨0, []⟩

def certificate (index : Nat) (spec : CertificateSpec) : Certificate :=
  let c := unsigned index spec
  let signer := if spec.isForeign then foreignKey else key (index - 1)
  { c with signature := ⟨0, signer.sign c.signedBytes⟩ }

/-! ## Chains -/

/-- The certificates of a chain, root first. -/
def chain (specs : List CertificateSpec) : Except String (List Certificate) :=
  if specs = [] ∨ chainLimit < specs.length then .error "chains hold 1 to 4 certificates"
  else .ok (specs.zipIdx.map fun (spec, index) => certificate index spec)

/-- Signs with the key of the last certificate of a chain. -/
def sign (depth : Nat) (message : Bytes) : Bytes :=
  (key (depth - 1)).sign message

def signForeign (message : Bytes) : Bytes :=
  foreignKey.sign message

/-- The hash that identifies a key. -/
def PrivateKey.hash (k : PrivateKey) : Bytes :=
  Sha256.digest k.key.export

end Sample
end Reflash
