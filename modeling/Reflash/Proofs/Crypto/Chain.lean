import Mathlib.Data.List.Chain
import Reflash.Crypto.Sample
import Reflash.Proofs.Result

/-!
# Crypto.Chain — which chains of certificates hold

A chain is checked from the root on, and the first thing that is wrong with it is what is told.

* `Chain.Certified`, `Chain.Forged`, `Chain.Unchecked` — what may come of checking one signature;
* `Chain.verify_eq_ok_iff`, `Chain.verify_eq_error_iff` — the chains that hold, and what is told of
  all others;
* `Chain.verify_of_prefix`, `Chain.verify_append_iff` — what is left of a chain that is cut short,
  and what a further certificate does to it;
* `Chain.verify_by_links` — all of this by the numbers of the certificates.
-/

namespace Reflash
namespace Chain

/-! ## One signature -/

/-- The key of the issuer can be read, the signature is of the only kind there is, and the key
accepts it. -/
def Certified (primitives : Primitives) (c issuer : Certificate) : Prop :=
  ∃ k, primitives.certificateKey issuer = .ok k ∧ c.algorithm.id = signatureAlgorithm ∧
    primitives.certificateVerifies k c.signedBytes c.signature.bytes = true

/-- The signature can be checked, and the key does not accept it. -/
def Forged (primitives : Primitives) (c issuer : Certificate) : Prop :=
  ∃ k, primitives.certificateKey issuer = .ok k ∧ c.algorithm.id = signatureAlgorithm ∧
    primitives.certificateVerifies k c.signedBytes c.signature.bytes = false

/-- Why a signature cannot be checked. -/
inductive Unchecked (primitives : Primitives) (c issuer : Certificate) : CryptoError → Prop where
  | key {fault : KeyInfo.Fault} (h : primitives.certificateKey issuer = .error fault) :
      Unchecked primitives c issuer (.unsupportedKey fault)
  | algorithm {k : Rsa.Key} (hkey : primitives.certificateKey issuer = .ok k)
      (h : c.algorithm.id ≠ signatureAlgorithm) :
      Unchecked primitives c issuer (.unsupportedAlgorithm c.algorithm.id)

/-- What is told of a signature that does not hold; `forgery` is told of one that can be checked. -/
def Flaw (primitives : Primitives) (c issuer : Certificate) (forgery e : CryptoError) : Prop :=
  Unchecked primitives c issuer e ∨ (Forged primitives c issuer ∧ e = forgery)

section

variable {primitives : Primitives} {c issuer : Certificate} {e forgery : CryptoError}
  {rest : Except CryptoError Unit}

theorem isSignedBy_of_unreadable {fault : KeyInfo.Fault}
    (h : primitives.certificateKey issuer = .error fault) :
    isSignedBy primitives c issuer = .error (.unsupportedKey fault) := by
  rw [isSignedBy, key, h]
  rfl

theorem isSignedBy_of_readable {k : Rsa.Key} (h : primitives.certificateKey issuer = .ok k) :
    isSignedBy primitives c issuer =
      if c.algorithm.id = signatureAlgorithm then
        .ok (primitives.certificateVerifies k c.signedBytes c.signature.bytes)
      else .error (.unsupportedAlgorithm c.algorithm.id) := by
  rw [isSignedBy, key, h]
  rfl

theorem isSignedBy_eq_ok_iff {b : Bool} :
    isSignedBy primitives c issuer = .ok b ↔
      ∃ k, primitives.certificateKey issuer = .ok k ∧ c.algorithm.id = signatureAlgorithm ∧
        primitives.certificateVerifies k c.signedBytes c.signature.bytes = b := by
  cases hkey : primitives.certificateKey issuer with
  | error fault => simp [isSignedBy_of_unreadable hkey]
  | ok k =>
      rw [isSignedBy_of_readable hkey]
      by_cases halgorithm : c.algorithm.id = signatureAlgorithm
      · simp [halgorithm]
      · simp [halgorithm]

theorem isSignedBy_eq_error_iff :
    isSignedBy primitives c issuer = .error e ↔ Unchecked primitives c issuer e := by
  constructor
  · intro h
    cases hkey : primitives.certificateKey issuer with
    | error fault =>
        rw [isSignedBy_of_unreadable hkey] at h
        cases h
        exact .key hkey
    | ok k =>
        rw [isSignedBy_of_readable hkey] at h
        split at h
        · cases h
        next halgorithm =>
          cases h
          exact .algorithm hkey halgorithm
  · rintro (hkey | ⟨hkey, halgorithm⟩)
    · exact isSignedBy_of_unreadable hkey
    · rw [isSignedBy_of_readable hkey, if_neg halgorithm]

/-- A signature in front of the rest of a check. -/
theorem signed_eq_ok_iff :
    (isSignedBy primitives c issuer >>= fun signed => if signed then rest else throw forgery) =
      .ok () ↔
      Certified primitives c issuer ∧ rest = .ok () := by
  rw [Result.bind_eq_ok]
  constructor
  · rintro ⟨signed, hsigned, hrest⟩
    cases signed with
    | true => exact ⟨isSignedBy_eq_ok_iff.1 hsigned, hrest⟩
    | false => cases hrest
  · rintro ⟨hcertified, hrest⟩
    exact ⟨true, isSignedBy_eq_ok_iff.2 hcertified, hrest⟩

theorem signed_eq_error_iff :
    (isSignedBy primitives c issuer >>= fun signed => if signed then rest else throw forgery) =
      .error e ↔
      Flaw primitives c issuer forgery e ∨ (Certified primitives c issuer ∧ rest = .error e) := by
  rw [Result.bind_eq_error]
  constructor
  · rintro (hunchecked | ⟨signed, hsigned, hrest⟩)
    · exact .inl (.inl (isSignedBy_eq_error_iff.1 hunchecked))
    · cases signed with
      | true => exact .inr ⟨isSignedBy_eq_ok_iff.1 hsigned, hrest⟩
      | false => exact .inl (.inr ⟨isSignedBy_eq_ok_iff.1 hsigned, (Except.error.inj hrest).symm⟩)
  · rintro ((hunchecked | ⟨hforged, rfl⟩) | ⟨hcertified, hrest⟩)
    · exact .inl (isSignedBy_eq_error_iff.2 hunchecked)
    · exact .inr ⟨false, isSignedBy_eq_ok_iff.2 hforged, rfl⟩
    · exact .inr ⟨true, isSignedBy_eq_ok_iff.2 hcertified, hrest⟩

end

/-! ## Versions -/

/-- The number of the first certificate of an older version. -/
def FirstOld (certificates : List Certificate) (i : Nat) : Prop :=
  ∃ h : i < certificates.length, isCurrent certificates[i] = false ∧
    ∀ j (hj : j < i), isCurrent certificates[j] = true

section

variable {certificates : List Certificate} {e : CryptoError}

theorem findIdx?_eq_some_iff {i : Nat} :
    certificates.findIdx? (!isCurrent ·) = some i ↔ FirstOld certificates i := by
  simp [List.findIdx?_eq_some_iff_getElem, FirstOld]

theorem exists_firstOld {x : Certificate} (hx : x ∈ certificates) (hold : isCurrent x = false) :
    ∃ i, FirstOld certificates i := by
  have hsome : (certificates.findIdx? (!isCurrent ·)).isSome := by
    rw [List.findIdx?_isSome, List.any_eq_true]
    exact ⟨x, hx, by simp [hold]⟩
  obtain ⟨i, hi⟩ := Option.isSome_iff_exists.1 hsome
  exact ⟨i, findIdx?_eq_some_iff.1 hi⟩

theorem checkVersions_eq_ok_iff :
    checkVersions certificates = .ok () ↔ ∀ x ∈ certificates, isCurrent x = true := by
  rw [checkVersions]
  cases hfind : certificates.findIdx? (!isCurrent ·) with
  | none => simpa using List.findIdx?_eq_none_iff.1 hfind
  | some i =>
      obtain ⟨hi, hold, -⟩ := List.findIdx?_eq_some_iff_getElem.1 hfind
      have hmem : certificates[i] ∈ certificates := List.getElem_mem hi
      simp only [reduceCtorEq, false_iff, not_forall]
      exact ⟨_, hmem, by simpa using hold⟩

theorem checkVersions_eq_error_iff :
    checkVersions certificates = .error e ↔
      ∃ i, e = .oldCertificate i ∧ FirstOld certificates i := by
  rw [checkVersions]
  constructor
  · intro h
    split at h
    next i hfind =>
      cases h
      exact ⟨i, rfl, findIdx?_eq_some_iff.1 hfind⟩
    · cases h
  · rintro ⟨i, rfl, hold⟩
    rw [findIdx?_eq_some_iff.2 hold]

end

/-! ## Links -/

section

variable {primitives : Primitives} {parent : Certificate} {index : Nat} {rest : List Certificate}
  {e : CryptoError}

theorem checkLinks_cons (c : Certificate) :
    checkLinks primitives parent index (c :: rest) =
      (isSignedBy primitives c parent >>= fun signed =>
        if signed then checkLinks primitives c (index + 1) rest else throw (.brokenChain index)) :=
  rfl

theorem checkLinks_eq_ok_iff :
    checkLinks primitives parent index rest = .ok () ↔
      List.IsChain (fun issuer c => Certified primitives c issuer) (parent :: rest) := by
  induction rest generalizing parent index with
  | nil =>
      simp [checkLinks, Result.pure_eq_ok]
  | cons c rest ih =>
      rw [checkLinks_cons, signed_eq_ok_iff, List.isChain_cons_cons, ih]

/-- The first link that does not hold is told, under its number. -/
theorem checkLinks_eq_error_iff :
    checkLinks primitives parent index rest = .error e ↔
      ∃ i, ∃ h : i + 1 < (parent :: rest).length,
        Flaw primitives (parent :: rest)[i + 1] (parent :: rest)[i] (.brokenChain (index + i)) e ∧
          ∀ j (hj : j < i), Certified primitives (parent :: rest)[j + 1] (parent :: rest)[j] := by
  induction rest generalizing parent index with
  | nil =>
      simp [checkLinks, pure, Except.pure]
  | cons c rest ih =>
      rw [checkLinks_cons, signed_eq_error_iff, ih]
      constructor
      · rintro (hflaw | ⟨hcertified, i, hi, hflaw, hbefore⟩)
        · exact ⟨0, by simp, hflaw, fun j hj => absurd hj (Nat.not_lt_zero j)⟩
        · -- What is told of the rest is told under numbers that are one higher.
          have hnumber : index + 1 + i = index + (i + 1) := by omega
          refine ⟨i + 1, Nat.succ_lt_succ hi, hnumber ▸ hflaw, ?_⟩
          intro j hj
          cases j with
          | zero => exact hcertified
          | succ j => exact hbefore j (Nat.lt_of_succ_lt_succ hj)
      · rintro ⟨i, hi, hflaw, hbefore⟩
        cases i with
        | zero => exact .inl hflaw
        | succ i =>
            have hnumber : index + (i + 1) = index + 1 + i := by omega
            refine .inr
              ⟨hbefore 0 (Nat.succ_pos i), i, Nat.lt_of_succ_lt_succ hi, hnumber ▸ hflaw, ?_⟩
            intro j hj
            exact hbefore (j + 1) (Nat.succ_lt_succ hj)

end

/-! ## Chains -/

section

variable {primitives : Primitives} {c : Chain} {e : CryptoError}

/-- By the signature of the root and the links one after the other. -/
theorem verify_eq_ok_iff :
    verify primitives c = .ok () ↔
      (∀ x ∈ c.certificates, isCurrent x = true) ∧ Certified primitives c.root c.root ∧
        List.IsChain (fun issuer x => Certified primitives x issuer) c.certificates := by
  rw [verify, Result.bind_eq_ok]
  constructor
  · rintro ⟨⟨⟩, hversions, hsigned⟩
    obtain ⟨hroot, hlinks⟩ := signed_eq_ok_iff.1 hsigned
    exact ⟨checkVersions_eq_ok_iff.1 hversions, hroot, checkLinks_eq_ok_iff.1 hlinks⟩
  · rintro ⟨hversions, hroot, hlinks⟩
    have hrest : checkLinks primitives c.root 1 c.others = .ok () := checkLinks_eq_ok_iff.2 hlinks
    exact ⟨(), checkVersions_eq_ok_iff.2 hversions, signed_eq_ok_iff.2 ⟨hroot, hrest⟩⟩

/-- Versions come first, then the root's own signature, and then the links in their order. -/
theorem verify_eq_error_iff :
    verify primitives c = .error e ↔
      (∃ i, e = .oldCertificate i ∧ FirstOld c.certificates i) ∨
        (∀ x ∈ c.certificates, isCurrent x = true) ∧
          (Flaw primitives c.root c.root .notSelfSigned e ∨
            Certified primitives c.root c.root ∧
              ∃ i, ∃ h : i + 1 < c.certificates.length,
                Flaw primitives c.certificates[i + 1] c.certificates[i] (.brokenChain (1 + i)) e ∧
                  ∀ j (hj : j < i),
                    Certified primitives c.certificates[j + 1] c.certificates[j]) := by
  rw [verify, Result.bind_eq_error, checkVersions_eq_error_iff]
  refine or_congr_right ?_
  constructor
  · rintro ⟨⟨⟩, hversions, hsigned⟩
    refine ⟨checkVersions_eq_ok_iff.1 hversions, ?_⟩
    exact (signed_eq_error_iff.1 hsigned).imp_right fun ⟨hroot, hlinks⟩ =>
      ⟨hroot, checkLinks_eq_error_iff.1 hlinks⟩
  · rintro ⟨hversions, hcases⟩
    refine ⟨(), checkVersions_eq_ok_iff.2 hversions, signed_eq_error_iff.2 ?_⟩
    exact hcases.imp_right fun ⟨hroot, hlinks⟩ => ⟨hroot, checkLinks_eq_error_iff.2 hlinks⟩

theorem not_flaw_oldCertificate {x issuer : Certificate} {forgery : CryptoError} {i : Nat}
    (hforgery : forgery ≠ .oldCertificate i) :
    ¬ Flaw primitives x issuer forgery (.oldCertificate i) := by
  rintro (hunchecked | ⟨-, hsame⟩)
  · cases hunchecked
  · exact hforgery hsame.symm

theorem flaw_brokenChain_iff {x issuer : Certificate} {forgery : CryptoError} {i : Nat} :
    Flaw primitives x issuer forgery (.brokenChain i) ↔
      Forged primitives x issuer ∧ forgery = .brokenChain i := by
  constructor
  · rintro (hunchecked | ⟨hforged, hsame⟩)
    · cases hunchecked
    · exact ⟨hforged, hsame.symm⟩
  · rintro ⟨hforged, rfl⟩
    exact .inr ⟨hforged, rfl⟩

/-- No primitive is needed to find an old certificate. -/
theorem verify_eq_oldCertificate_iff {i : Nat} :
    verify primitives c = .error (.oldCertificate i) ↔ FirstOld c.certificates i := by
  rw [verify_eq_error_iff]
  constructor
  · rintro (⟨i', hi', hold⟩ | ⟨-, hroot | ⟨-, n, hn, hlink, -⟩⟩)
    · cases hi'
      exact hold
    · exact absurd hroot (not_flaw_oldCertificate nofun)
    · exact absurd hlink (not_flaw_oldCertificate nofun)
  · intro hold
    exact .inl ⟨i, rfl, hold⟩

/-- Certificate number `n + 1` is the first one that the key of its predecessor does not accept. -/
structure BrokenAt (primitives : Primitives) (c : Chain) (n : Nat) : Prop where
  current : ∀ x ∈ c.certificates, isCurrent x = true
  root : Certified primitives c.root c.root
  bound : n + 1 < c.certificates.length
  forged : Forged primitives c.certificates[n + 1] c.certificates[n]
  before : ∀ j (hj : j < n), Certified primitives c.certificates[j + 1] c.certificates[j]

theorem verify_eq_brokenChain_iff {i : Nat} :
    verify primitives c = .error (.brokenChain i) ↔ ∃ n, i = n + 1 ∧ BrokenAt primitives c n := by
  rw [verify_eq_error_iff]
  constructor
  · rintro (⟨n, hother, -⟩ | ⟨hcurrent, hflaw | ⟨hroot, n, hn, hflaw, hbefore⟩⟩)
    · cases hother
    · cases (flaw_brokenChain_iff.1 hflaw).2
    · obtain ⟨hforged, hnumber⟩ := flaw_brokenChain_iff.1 hflaw
      cases hnumber
      exact ⟨n, Nat.add_comm 1 n, hcurrent, hroot, hn, hforged, hbefore⟩
  · rintro ⟨n, rfl, hbroken⟩
    have hflaw := flaw_brokenChain_iff.2 ⟨hbroken.forged, congrArg _ (Nat.add_comm 1 n)⟩
    exact .inr ⟨hbroken.current, .inr ⟨hbroken.root, n, hbroken.bound, hflaw, hbroken.before⟩⟩

/-! ## Shorter and longer chains -/

theorem verify_of_prefix {p : Chain} (h : verify primitives c = .ok ())
    (hinitial : p.certificates <+: c.certificates) : verify primitives p = .ok () := by
  obtain ⟨hcurrent, hroot, hlinks⟩ := verify_eq_ok_iff.1 h
  have hsame : p.root = c.root := (List.cons_prefix_cons.1 hinitial).1
  refine verify_eq_ok_iff.2 ⟨?_, hsame ▸ hroot, hlinks.prefix hinitial⟩
  intro x hx
  exact hcurrent x (hinitial.subset hx)

/-- The chain with a further certificate, which is the leaf then. -/
def append (c : Chain) (x : Certificate) : Chain :=
  ⟨c.root, c.others ++ [x]⟩

theorem certificates_append (c : Chain) (x : Certificate) :
    (c.append x).certificates = c.certificates ++ [x] :=
  rfl

theorem verify_append_iff {x : Certificate} (h : verify primitives c = .ok ()) :
    verify primitives (c.append x) = .ok () ↔
      isCurrent x = true ∧ Certified primitives x c.leaf := by
  obtain ⟨hcurrent, hroot, hlinks⟩ := verify_eq_ok_iff.1 h
  have hleaf : c.certificates.getLast? = some c.leaf := List.getLast?_eq_some_getLast _
  rw [verify_eq_ok_iff, certificates_append, List.isChain_append, hleaf]
  constructor
  · rintro ⟨hall, -, -, -, hlast⟩
    exact ⟨hall x (by simp), hlast _ rfl _ rfl⟩
  · rintro ⟨hx, hsigned⟩
    refine ⟨?_, hroot, hlinks, List.isChain_singleton x, ?_⟩
    · intro y hy
      rcases List.mem_append.1 hy with hy | hy
      · exact hcurrent y hy
      · rwa [List.mem_singleton.1 hy]
    · rintro _ ⟨⟩ _ ⟨⟩
      exact hsigned

end

/-- A chain holds exactly if all its certificates are current, the first one is signed with its own
key, and each further one with the key of the one before it.  Old certificates are told first,
whatever the signatures are. -/
theorem verify_by_links (primitives : Primitives) (c : Chain) :
    (verify primitives c = .ok () ↔
        (∀ x ∈ c.certificates, isCurrent x = true) ∧ Certified primitives c.root c.root ∧
          ∀ i (_ : i + 1 < c.certificates.length),
            Certified primitives c.certificates[i + 1] c.certificates[i]) ∧
      (∀ i, verify primitives c = .error (.oldCertificate i) ↔ FirstOld c.certificates i) ∧
      (∀ x ∈ c.certificates, isCurrent x = false →
        ∃ i, FirstOld c.certificates i ∧ ∀ others, verify others c = .error (.oldCertificate i)) ∧
      (∀ i, verify primitives c = .error (.brokenChain i) ↔
        ∃ n, i = n + 1 ∧ BrokenAt primitives c n) ∧
      (verify primitives c = .ok () →
        (∀ p : Chain, p.certificates <+: c.certificates → verify primitives p = .ok ()) ∧
          ∀ x, verify primitives (c.append x) = .ok () ↔
            isCurrent x = true ∧ Certified primitives x c.leaf) := by
  refine ⟨?_, fun i => verify_eq_oldCertificate_iff, ?_, fun i => verify_eq_brokenChain_iff, ?_⟩
  · rw [verify_eq_ok_iff, List.isChain_iff_getElem]
  · intro x hx hold
    obtain ⟨i, hfirst⟩ := exists_firstOld hx hold
    exact ⟨i, hfirst, fun others => verify_eq_oldCertificate_iff.2 hfirst⟩
  · intro h
    exact ⟨fun p hinitial => verify_of_prefix h hinitial, fun x => verify_append_iff h⟩

/-! ## Three certificates -/

namespace Trial

/-- The key of a certificate is its serial number, and a signature is the number of its key. -/
def primitives : Primitives :=
  { Primitives.standard with
    certificateKey := fun c => .ok ⟨Bytes.bigEndian c.serial, 1⟩
    certificateVerifies := fun k _ signature => Bytes.bigEndian signature = k.modulus }

def certificate (number issuer : UInt8) : Certificate :=
  { Sample.unsigned 0 {} with serial := [number], signature := ⟨0, [issuer]⟩ }

end Trial

/-- The third certificate has to be signed by the second one, and not by the root. -/
theorem verify_by_links_trial :
    let short : Chain := ⟨Trial.certificate 1 1, [Trial.certificate 2 1]⟩
    let outdated : Certificate := { Trial.certificate 3 1 with version := 0 }
    verify Trial.primitives (short.append (Trial.certificate 3 2)) = .ok () ∧
      BrokenAt Trial.primitives (short.append (Trial.certificate 3 1)) 1 ∧
      ∀ others, verify others (short.append outdated) = .error (.oldCertificate 2) := by
  intro short outdated
  have hshort : verify Trial.primitives short = .ok () := by decide +kernel
  obtain ⟨-, -, -, -, hlonger⟩ := verify_by_links Trial.primitives short
  obtain ⟨-, -, -, hbroken, -⟩ :=
    verify_by_links Trial.primitives (short.append (Trial.certificate 3 1))
  refine ⟨((hlonger hshort).2 _).2 ⟨rfl, ⟨2, 1⟩, rfl, rfl, by decide⟩, ?_, fun others => ?_⟩
  · obtain ⟨n, hn, hat⟩ := (hbroken 2).1 (by decide +kernel)
    cases hn
    exact hat
  · obtain ⟨-, hold, -⟩ := verify_by_links others (short.append outdated)
    refine (hold 2).2 ⟨by decide, rfl, ?_⟩
    rintro (_ | _ | j) hj
    · rfl
    · rfl
    · omega

end Chain
end Reflash
