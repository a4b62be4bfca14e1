import Reflash.Proofs.Command.Check

/-!
# Command.Endings — the exit codes of commands

A script learns from the exit code what kind of failure there was.

* `PolicyEnding` — how a check of a container ends, with what the operator agrees to;
* `Ending` — how commands about files and versions end, each way with its number;
* `number_of_run_iff` — the exit code is the number of the way that a command ends.
-/

namespace Reflash

/-- Commands that need no server; they have a report in both forms. -/
def Command.isLocal : Command → Bool
  | .verify .. | .image .. | .migrations .. | .check .. => true
  | .download .. | .completion _ => false

/-- The number of the exit code that a result leads to. -/
def CommandResult.number (r : CommandResult) : Nat :=
  ((r.error.map CommandError.exitCode).getD .success).number

namespace Invocation

open Update

/-! ## Policy -/

/-- The operator agrees to it, in advance or when asked. -/
def Agreed (assumeYes : Bool) (operator : Operator) (c : Confirmation) : Prop :=
  assumeYes = true ∨ operator c = true

/-- An older version than the installed one is to be installed. -/
def Downgrades (current : Option Version) (new : Version) : Prop :=
  ∃ v, current = some v ∧ new.core < v.core

/-- The installed version is to be installed again, which is `same` as far as it is known. -/
def Reinstalls (current : Option Version) (new same : Version) : Prop :=
  ∃ v, current = some v ∧ ¬ new.core < v.core ∧ v.Level new ∧
    same = if v.complete && new.complete then v else v.core

def LacksLibrary (config : UpdateConfig) (container : Container) : Prop :=
  ∃ sdk, container.sdk = some sdk ∧ config.sdkVersion < sdk

/-- A client version counts only if no library version is asked for. -/
def LacksClient (container : Container) (required : Version) : Prop :=
  container.sdk = none ∧ container.client = some required ∧ clientVersion < required

/-- The comparison of versions is passed. -/
structure Comparable (agreed : Confirmation → Prop) (current : Option Version) (new : Version) :
    Prop where
  upgrade : ¬ Downgrades current new
  agreement : ∀ same, Reinstalls current new same → agreed (.sameVersion same)

/-- The exit codes of a check of a container that can be read.  What the operator is asked about
versions comes before the requirements of the container. -/
inductive PolicyEnding (agreed : Confirmation → Prop) (config : UpdateConfig)
    (current : Option Version) (container : Container) : Nat → Prop where
  | downgrade (h : Downgrades current container.version) :
      PolicyEnding agreed config current container 5
  | reinstall {same : Version} (h : Reinstalls current container.version same)
      (hrefused : ¬ agreed (.sameVersion same)) : PolicyEnding agreed config current container 7
  | library (hcomparable : Comparable agreed current container.version)
      (h : LacksLibrary config container) (hconfig : config.ignores .sdkVersion = false) :
      PolicyEnding agreed config current container 5
  | client {required : Version} (hcomparable : Comparable agreed current container.version)
      (h : LacksClient container required) (hconfig : config.ignoreClientVersion = false) :
      PolicyEnding agreed config current container 5
  | clientRefused {required : Version} (hcomparable : Comparable agreed current container.version)
      (h : LacksClient container required) (hconfig : config.ignoreClientVersion = true)
      (hrefused : ¬ agreed (.clientVersion clientVersion required)) :
      PolicyEnding agreed config current container 7
  | passed (hcomparable : Comparable agreed current container.version)
      (hlibrary : LacksLibrary config container → config.ignores .sdkVersion = true)
      (hclient : ∀ required, LacksClient container required →
        config.ignoreClientVersion = true ∧ agreed (.clientVersion clientVersion required)) :
      PolicyEnding agreed config current container 0

section

variable {config : UpdateConfig} {current : Option Version} {new same required : Version}
  {container : Container} {terminal : Terminal} {operator : Operator}

theorem consentsAt_of_agreed {c : Confirmation} (h : Agreed terminal.assumeYes operator c) :
    consentsAt terminal operator c = .ok () := by
  rw [consentsAt, if_pos]
  cases h with
  | inl hyes => exact agrees_of_assumeYes hyes c
  | inr hasked =>
      rw [Terminal.agrees.eq_def]
      split
      · rfl
      · rw [hasked, Bool.or_true]

/-- Notes without lines apart, there is no other agreement. -/
theorem consentsAt_of_not_agreed {c : Confirmation} (h : ¬ Agreed terminal.assumeYes operator c)
    (hc : c ≠ .notes []) : consentsAt terminal operator c = .error .aborted := by
  rw [consentsAt, if_neg]
  rw [Terminal.agrees.eq_def]
  split
  · exact absurd rfl hc
  · rw [Bool.or_eq_true]
    exact h

theorem compareVersions_of_downgrades (h : Downgrades current new) :
    ∃ v, compareVersions current new = .error (.downgrade v new) := by
  obtain ⟨v, rfl, hlower⟩ := h
  exact ⟨v, by rw [compareVersions, if_pos hlower]⟩

theorem compareVersions_of_reinstalls (h : Reinstalls current new same) :
    compareVersions current new = .ok (some same) := by
  obtain ⟨v, rfl, hlower, hlevel, rfl⟩ := h
  rw [compareVersions, if_neg hlower, if_neg (not_not.2 hlevel)]
  split
  · rfl
  · rfl

theorem compareVersions_of_neither (hdown : ¬ Downgrades current new)
    (hagain : ∀ same, ¬ Reinstalls current new same) : compareVersions current new = .ok none := by
  cases current with
  | none => rfl
  | some v =>
      have hlower : ¬ new.core < v.core := fun hlower => hdown ⟨v, rfl, hlower⟩
      have hlevel : ¬ v.Level new := fun hlevel => hagain _ ⟨v, rfl, hlower, hlevel, rfl⟩
      rw [compareVersions, if_neg hlower, if_pos hlevel]

theorem comparison_of_comparable (h : Comparable (Agreed terminal.assumeYes operator) current new) :
    (compareVersions current new >>= comparisonBy (consentsAt terminal operator)) = .ok () := by
  by_cases hagain : ∃ same, Reinstalls current new same
  · obtain ⟨same, hagain⟩ := hagain
    rw [compareVersions_of_reinstalls hagain, Result.ok_bind, comparisonBy,
      consentsAt_of_agreed (h.agreement same hagain)]
  · rw [compareVersions_of_neither h.upgrade (not_exists.1 hagain)]
    rfl

/-- What is left after the comparison. -/
theorem verdictBy_of_comparable
    (h : Comparable (Agreed terminal.assumeYes operator) current container.version) :
    verdictBy (consentsAt terminal operator) config current container =
      requirementsBy (consentsAt terminal operator) container config := by
  have hcompared := comparison_of_comparable h
  calc
    verdictBy (consentsAt terminal operator) config current container
        = (compareVersions current container.version >>=
            comparisonBy (consentsAt terminal operator)) >>= fun _ =>
              requirementsBy (consentsAt terminal operator) container config := by
          rw [bind_assoc]
          rfl
    _ = requirementsBy (consentsAt terminal operator) container config := by
          rw [hcompared, Result.ok_bind]

theorem requirementsBy_of_lacksLibrary (h : LacksLibrary config container) :
    requirementsBy (consentsAt terminal operator) container config =
      warningVerdict config .sdkVersion := by
  obtain ⟨sdk, hsdk, hnewer⟩ := h
  simp only [requirementsBy, hsdk, if_pos hnewer]

theorem requirementsBy_of_lacksClient (h : LacksClient container required) :
    requirementsBy (consentsAt terminal operator) container config =
      if config.ignoreClientVersion then
        consentsAt terminal operator (.clientVersion clientVersion required)
      else .error (.outdatedClient required clientVersion) := by
  obtain ⟨hsdk, hclient, hnewer⟩ := h
  simp only [requirementsBy, hsdk, hclient, if_pos hnewer]

theorem requirementsBy_of_neither (hlibrary : ¬ LacksLibrary config container)
    (hclient : ∀ required, ¬ LacksClient container required) :
    requirementsBy (consentsAt terminal operator) container config = .ok () := by
  rw [requirementsBy]
  split
  next sdk hsdk => exact if_neg fun hnewer => hlibrary ⟨sdk, hsdk, hnewer⟩
  next required hsdk hrequired =>
    exact if_neg fun hnewer => hclient required ⟨hsdk, hrequired, hnewer⟩
  · rfl

/-- The number of the exit code of a check that comes to this. -/
def checkNumber : Except UpdateError Unit → Nat
  | .ok _ => ExitCode.success.number
  | .error e => (CommandError.update e).exitCode.number

/-- Every way to end has one number. -/
theorem number_of_policyEnding {n : Nat}
    (h : PolicyEnding (Agreed terminal.assumeYes operator) config current container n) :
    checkNumber (verdictBy (consentsAt terminal operator) config current container) = n := by
  cases h with
  | downgrade h =>
      obtain ⟨v, hv⟩ := compareVersions_of_downgrades h
      rw [verdictBy, hv]
      rfl
  | reinstall h hrefused =>
      rw [verdictBy, compareVersions_of_reinstalls h, Result.ok_bind, comparisonBy,
        consentsAt_of_not_agreed hrefused (by simp)]
      rfl
  | library hcomparable h hconfig =>
      rw [verdictBy_of_comparable hcomparable, requirementsBy_of_lacksLibrary h, warningVerdict,
        hconfig]
      rfl
  | client hcomparable h hconfig =>
      rw [verdictBy_of_comparable hcomparable, requirementsBy_of_lacksClient h, hconfig]
      rfl
  | clientRefused hcomparable h hconfig hrefused =>
      rw [verdictBy_of_comparable hcomparable, requirementsBy_of_lacksClient h, hconfig,
        consentsAt_of_not_agreed hrefused (by simp)]
      rfl
  | passed hcomparable hlibrary hclient =>
      -- Nothing is lacking, or what is lacking does not matter.
      rw [verdictBy_of_comparable hcomparable]
      by_cases hlacksLibrary : LacksLibrary config container
      · rw [requirementsBy_of_lacksLibrary hlacksLibrary, warningVerdict, hlibrary hlacksLibrary]
        rfl
      by_cases hlacksClient : ∃ required, LacksClient container required
      · obtain ⟨required, hlacksClient⟩ := hlacksClient
        obtain ⟨hconfig, hagreed⟩ := hclient required hlacksClient
        rw [requirementsBy_of_lacksClient hlacksClient, hconfig, consentsAt_of_agreed hagreed]
        rfl
      · rw [requirementsBy_of_neither hlacksLibrary (not_exists.1 hlacksClient)]
        rfl

/-- There is no other way to end. -/
theorem exists_policyEnding (agreed : Confirmation → Prop) (config : UpdateConfig)
    (current : Option Version) (container : Container) :
    ∃ n, PolicyEnding agreed config current container n := by
  -- In the order of the checks, so that each one may rely on those before it.
  by_cases hdown : Downgrades current container.version
  · exact ⟨5, .downgrade hdown⟩
  by_cases hrefused : ∃ same, Reinstalls current container.version same ∧
      ¬ agreed (.sameVersion same)
  · obtain ⟨same, hagain, hrefused⟩ := hrefused
    exact ⟨7, .reinstall hagain hrefused⟩
  have hcomparable : Comparable agreed current container.version :=
    ⟨hdown, fun same hagain => by_contra fun hno => hrefused ⟨same, hagain, hno⟩⟩
  by_cases hlibrary : LacksLibrary config container ∧ config.ignores .sdkVersion = false
  · exact ⟨5, .library hcomparable hlibrary.1 hlibrary.2⟩
  have hlibrary' : LacksLibrary config container → config.ignores .sdkVersion = true := fun h =>
    Bool.eq_true_of_not_eq_false fun hno => hlibrary ⟨h, hno⟩
  by_cases hclient : ∃ required, LacksClient container required
  · obtain ⟨required, hclient⟩ := hclient
    cases hconfig : config.ignoreClientVersion with
    | false => exact ⟨5, .client hcomparable hclient hconfig⟩
    | true =>
        by_cases hagreed : agreed (.clientVersion clientVersion required)
        · refine ⟨0, .passed hcomparable hlibrary' fun other hother => ⟨hconfig, ?_⟩⟩
          obtain rfl : required = other := Option.some.inj (hclient.2.1.symm.trans hother.2.1)
          exact hagreed
        · exact ⟨7, .clientRefused hcomparable hclient hconfig hagreed⟩
  · exact ⟨0, .passed hcomparable hlibrary' fun required h => absurd ⟨required, h⟩ hclient⟩

end

/-! ## Files -/

section

variable (primitives : Primitives) (environment : Environment)

/-- The file can be read, and it is a container for the model. -/
def Loads (path : String) (model : Model) (container : Container) : Prop :=
  ∃ data, environment.file path = .ok data ∧ Container.parse primitives data model = .ok container

/-- An image may be flashed as part of a release. -/
def Valid (model : Model) (release : Version) (image : Variant × Bytes) : Prop :=
  ∃ info, Image.validate primitives image.1 image.2 release model.anchors = .ok info

/-- The variant of an image is named, or its file tells it. -/
def Determines (path : String) (variant : Option Variant) (v : Variant) : Prop :=
  variant = some v ∨ variant = none ∧ guessVariant path = .ok v

/-- The exit codes of commands.  A container that cannot be read is as bad as one that is none, but
for a single image the two are told apart. -/
inductive Ending : Command → Nat → Prop where
  | valid {path : String} {model : Model} {container : Container}
      (h : Loads primitives environment path model container)
      (hvalid : ∀ image ∈ container.images, Valid primitives model container.version image) :
      Ending (.verify path model) 0
  | invalid {path : String} {model : Model} {container : Container}
      (h : Loads primitives environment path model container)
      (hinvalid : ∃ image ∈ container.images, ¬ Valid primitives model container.version image) :
      Ending (.verify path model) 4
  | unverifiable {path : String} {model : Model}
      (h : ∀ container, ¬ Loads primitives environment path model container) :
      Ending (.verify path model) 3
  | shown {path : String} {variant : Option Variant} {model : Model} {v : Variant} {data : Bytes}
      {info : ImageInfo} (hvariant : Determines path variant v)
      (hfile : environment.file path = .ok data)
      (h : Image.parse primitives v data model.anchors = .ok info) :
      Ending (.image path variant model) 0
  | undetermined {path : String} {variant : Option Variant} {model : Model}
      (h : ∀ v, ¬ Determines path variant v) : Ending (.image path variant model) 2
  | unreadable {path : String} {variant : Option Variant} {model : Model} {v : Variant}
      {fault : FileFault} (hvariant : Determines path variant v)
      (h : environment.file path = .error fault) :
      Ending (.image path variant model) 1
  | malformed {path : String} {variant : Option Variant} {model : Model} {v : Variant}
      {data : Bytes} {e : ParseError} (hvariant : Determines path variant v)
      (hfile : environment.file path = .ok data)
      (h : Image.parse primitives v data model.anchors = .error e) :
      Ending (.image path variant model) 4
  | listed {model : Model} {variant : Variant} {current : Option Version} {new : Version} :
      Ending (.migrations model variant current new) 0
  | unchecked {path : String} {model : Model} {current : Option Version} {ignored : List Warning}
      {ignoreClientVersion assumeYes : Bool}
      (h : ∀ container, ¬ Loads primitives environment path model container) :
      Ending (.check path model current ignored ignoreClientVersion assumeYes) 3
  | checked {path : String} {model : Model} {current : Option Version} {ignored : List Warning}
      {ignoreClientVersion assumeYes : Bool} {container : Container} {n : Nat}
      (h : Loads primitives environment path model container)
      (hpolicy : PolicyEnding (Agreed assumeYes environment.operator)
        (config ignored ignoreClientVersion) current container n) :
      Ending (.check path model current ignored ignoreClientVersion assumeYes) n

end

section

variable {primitives : Primitives} {environment : Environment} {path : String} {model : Model}
  {container : Container} {variant : Option Variant} {v : Variant}

theorem readContainer_eq_ok_iff :
    readContainer primitives environment path model = .ok container ↔
      Loads primitives environment path model container := by
  rw [readContainer]
  cases hfile : environment.file path with
  | error fault => simp [Loads, hfile]
  | ok data => simp [Loads, hfile]

theorem readContainer_of_not_loads
    (h : ∀ container, ¬ Loads primitives environment path model container) :
    ∃ e, readContainer primitives environment path model = .error (.container path e) := by
  rw [readContainer]
  cases hfile : environment.file path with
  | error fault => exact ⟨_, rfl⟩
  | ok data =>
      cases hparse : Container.parse primitives data model with
      | ok container => exact absurd ⟨data, hfile, hparse⟩ (h container)
      | error e =>
          refine ⟨e, ?_⟩
          simp only [hparse]
          rfl

/-- The images that are not valid are counted. -/
theorem verify_of_loads (h : Loads primitives environment path model container) :
    ∃ invalid total, (verify primitives environment path model).error =
        (if invalid = 0 then none else some (.invalidImages invalid total)) ∧
      (invalid = 0 ↔
        ∀ image ∈ container.images, Valid primitives model container.version image) := by
  have hreport : ∀ image : Variant × Bytes,
      (imageReport primitives model container.version image.1 image.2).error.isSome = true ↔
        ¬ Valid primitives model container.version image := by
    intro image
    rw [imageReport, Valid]
    split
    next info hinfo => simp [hinfo]
    next e he => simp [he]
  rw [verify, readContainer_eq_ok_iff.2 h]
  refine ⟨_, _, rfl, ?_⟩
  rw [List.countP_eq_zero, List.forall_mem_map]
  exact forall₂_congr fun image _ => by rw [hreport, not_not]

theorem inspect_of_determines (h : Determines path variant v) :
    inspect primitives environment path variant model =
      (environment.file path).mapError (.unreadable path) >>= fun data =>
        (Image.parse primitives v data model.anchors).mapError (.image path v) >>= fun info =>
          .ok (Answer.image v info) := by
  rcases h with rfl | ⟨rfl, hguess⟩
  · rfl
  · rw [inspect, hguess]
    rfl

theorem error_of_guessVariant {e : CommandError} (h : guessVariant path = .error e) :
    e = .unknownVariant path := by
  -- Not `rw`: to make an equation for `guessVariant` is slow, as it matches on the reading of a
  -- file name.
  delta guessVariant at h
  split at h
  · cases h
  · split at h
    · cases h
    · cases h
      rfl

theorem inspect_of_undetermined (h : ∀ v, ¬ Determines path variant v) :
    inspect primitives environment path variant model = .error (.unknownVariant path) := by
  cases variant with
  | some v => exact absurd (.inl rfl) (h v)
  | none =>
      cases hguess : guessVariant path with
      | ok v => exact absurd (.inr ⟨rfl, hguess⟩) (h v)
      | error e =>
          obtain rfl := error_of_guessVariant hguess
          rw [inspect, hguess]
          rfl

/-! ## Exit codes -/

theorem number_check {current : Option Version} {config : UpdateConfig} {terminal : Terminal}
    (h : Loads primitives environment path model container) :
    (check primitives environment terminal path model current config).number =
      checkNumber
        (verdictBy (consentsAt terminal environment.operator) config current container) := by
  have hheld := hold_checkPolicyBy terminal environment.operator config current container
  cases hhold : terminal.hold environment.operator (checkPolicy config current container) with
  | mk result shown =>
      rw [hhold] at hheld
      rw [← hheld]
      simp only [check, readContainer_eq_ok_iff.2 h, hhold]
      cases result with
      | ok u => rfl
      | error e => rfl

end

section

variable {primitives : Primitives} {environment : Environment} {i : Invocation} {n : Nat}

theorem run_of_local (hlocal : i.command.isLocal = true) :
    i.run primitives environment = (i.perform primitives environment).report i.options.json := by
  rw [run]
  split
  next shell hcommand =>
    rw [hcommand] at hlocal
    cases hlocal
  · rfl

/-- The exit code does not depend on the form of the output. -/
theorem number_of_run (hlocal : i.command.isLocal = true) :
    (i.run primitives environment).exitCode.number = (i.perform primitives environment).number := by
  rw [run_of_local hlocal, CommandResult.report]
  split
  · rfl
  · rfl

/-- Each way to end has its number. -/
theorem number_of_ending (h : Ending primitives environment i.command n) :
    (i.perform primitives environment).number = n := by
  obtain ⟨options, command⟩ := i
  cases h with
  | valid h hvalid =>
      obtain ⟨invalid, total, herror, hiff⟩ := verify_of_loads h
      rw [if_pos (hiff.2 hvalid)] at herror
      simp only [CommandResult.number, perform, herror]
      rfl
  | invalid h hinvalid =>
      obtain ⟨invalid, total, herror, hiff⟩ := verify_of_loads h
      -- One image is enough.
      have hsome : invalid ≠ 0 := by
        intro hnone
        obtain ⟨image, hmem, hbad⟩ := hinvalid
        exact hbad (hiff.1 hnone image hmem)
      rw [if_neg hsome] at herror
      simp only [CommandResult.number, perform, herror]
      rfl
  | unverifiable h =>
      obtain ⟨e, he⟩ := readContainer_of_not_loads h
      simp only [perform, verify, he]
      rfl
  | shown hvariant hfile h =>
      simp only [perform, inspect_of_determines hvariant, hfile, Except.mapError, Result.ok_bind, h]
      rfl
  | undetermined h =>
      simp only [perform, inspect_of_undetermined h]
      rfl
  | unreadable hvariant h =>
      simp only [perform, inspect_of_determines hvariant, h]
      rfl
  | malformed hvariant hfile h =>
      simp only [perform, inspect_of_determines hvariant, hfile, Except.mapError, Result.ok_bind, h]
      rfl
  | listed => rfl
  | unchecked h =>
      obtain ⟨e, he⟩ := readContainer_of_not_loads h
      simp only [perform, check, he]
      rfl
  | checked h hpolicy => exact (number_check h).trans (number_of_policyEnding hpolicy)

/-- There is no other way to end. -/
theorem exists_ending (hlocal : i.command.isLocal = true) :
    ∃ n, Ending primitives environment i.command n := by
  obtain ⟨options, command⟩ := i
  cases command with
  | verify path model =>
      by_cases h : ∃ container, Loads primitives environment path model container
      · obtain ⟨container, h⟩ := h
        by_cases hvalid : ∀ image ∈ container.images, Valid primitives model container.version image
        · exact ⟨0, .valid h hvalid⟩
        · obtain ⟨image, hbad⟩ := not_forall.1 hvalid
          obtain ⟨hmem, hbad⟩ := Classical.not_imp.1 hbad
          exact ⟨4, .invalid h ⟨image, hmem, hbad⟩⟩
      · exact ⟨3, .unverifiable (not_exists.1 h)⟩
  | image path variant model =>
      by_cases h : ∃ v, Determines path variant v
      · obtain ⟨v, hvariant⟩ := h
        cases hfile : environment.file path with
        | error fault => exact ⟨1, .unreadable hvariant hfile⟩
        | ok data =>
            cases hparse : Image.parse primitives v data model.anchors with
            | ok info => exact ⟨0, .shown hvariant hfile hparse⟩
            | error e => exact ⟨4, .malformed hvariant hfile hparse⟩
      · exact ⟨2, .undetermined (not_exists.1 h)⟩
  | migrations model variant current new => exact ⟨0, .listed⟩
  | check path model current ignored ignoreClientVersion assumeYes =>
      by_cases h : ∃ container, Loads primitives environment path model container
      · obtain ⟨container, h⟩ := h
        obtain ⟨n, hpolicy⟩ :=
          exists_policyEnding (Agreed assumeYes environment.operator)
            (config ignored ignoreClientVersion) current container
        exact ⟨n, .checked h hpolicy⟩
      · exact ⟨3, .unchecked (not_exists.1 h)⟩
  | download model tag directory mayReplace assumeYes => cases hlocal
  | completion shell => cases hlocal

theorem number_of_run_iff (hlocal : i.command.isLocal = true) :
    (i.run primitives environment).exitCode.number = n ↔
      Ending primitives environment i.command n := by
  rw [number_of_run hlocal]
  constructor
  · rintro rfl
    obtain ⟨m, hending⟩ : ∃ m, Ending primitives environment i.command m := exists_ending hlocal
    rwa [number_of_ending hending]
  · exact number_of_ending

end

end Invocation
end Reflash
