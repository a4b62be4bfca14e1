import Reflash.Proofs.Device.Reply
import Reflash.Update.Run

/-!
# Update.Record — what the record of an update shows

A record tells all that an update did and learnt.  This module names the parts of it that statements
about updates speak of:

* `Question.isFlash`, `Question.isBootromCommand`, `Question.isConfirm`, `Question.isClose` — the
  acts;
* `Question.Fits` — the questions that have their place in a step;
* `Reported`, `Supplied`, `Compared`, `Met` — what was learnt from the device, the source and the
  bootloader;
* `Passed`, `RequirementsMet` — which checks were passed.
-/

namespace Reflash
namespace Update

abbrev Record : Type :=
  List (Dialogue.Exchange Question.Answer)

/-! ## Single exchanges -/

def told (n : Notice) : Dialogue.Exchange Question.Answer :=
  ⟨.tell n, ()⟩

def accepted (c : Confirmation) : Dialogue.Exchange Question.Answer :=
  ⟨.confirm c, .ok ()⟩

def refused (c : Confirmation) (e : UpdateError) : Dialogue.Exchange Question.Answer :=
  ⟨.confirm c, .error e⟩

/-! ## What was asked, and how often -/

def Asked (record : Record) (q : Question) : Prop :=
  ∃ x ∈ record, x.1 = q

instance (record : Record) (q : Question) : Decidable (Asked record q) :=
  inferInstanceAs (Decidable (∃ x ∈ record, x.1 = q))

theorem asked_iff {record : Record} {q : Question} :
    Asked record q ↔ ∃ answer, ⟨q, answer⟩ ∈ record := by
  constructor
  · rintro ⟨⟨_, answer⟩, hmem, rfl⟩
    exact ⟨answer, hmem⟩
  · rintro ⟨answer, hmem⟩
    exact ⟨_, hmem, rfl⟩

def timesAsked (f : Question → Bool) (record : Record) : Nat :=
  record.countP fun x => f x.1

section

variable {f : Question → Bool} {record rest : Record} {x y : Dialogue.Exchange Question.Answer}

@[simp] theorem timesAsked_nil : timesAsked f [] = 0 := rfl

@[simp] theorem timesAsked_cons :
    timesAsked f (x :: rest) = timesAsked f rest + if f x.1 then 1 else 0 :=
  List.countP_cons

@[simp] theorem timesAsked_append :
    timesAsked f (record ++ rest) = timesAsked f record + timesAsked f rest :=
  List.countP_append

theorem timesAsked_eq_zero (h : ∀ x ∈ record, f x.1 = false) : timesAsked f record = 0 :=
  List.countP_eq_zero.2 fun x hx => by simp [h x hx]

theorem not_asked_of_timesAsked {q : Question} (h : timesAsked f record = 0) (hq : f q) :
    ¬ Asked record q := by
  rintro ⟨y, hy, rfl⟩
  exact List.countP_eq_zero.1 h y hy hq

/-- Two exchanges about what is asked only once are the same. -/
theorem eq_of_timesAsked_le_one (h : timesAsked f record ≤ 1) (hx : x ∈ record) (hy : y ∈ record)
    (hfx : f x.1) (hfy : f y.1) : x = y := by
  induction record with
  | nil =>
      cases hx
  | cons z rest ih =>
      have hpositive : ∀ w ∈ rest, f w.1 → 0 < timesAsked f rest := fun w hw hfw =>
        List.countP_pos_iff.2 ⟨w, hw, hfw⟩
      rw [timesAsked_cons] at h
      rcases List.mem_cons.1 hx with rfl | hxrest
      · rcases List.mem_cons.1 hy with rfl | hyrest
        · rfl
        · have := hpositive y hyrest hfy
          simp only [hfx, if_true] at h
          omega
      · rcases List.mem_cons.1 hy with rfl | hyrest
        · have := hpositive x hxrest hfx
          simp only [hfy, if_true] at h
          omega
        · exact ih (by omega) hxrest hyrest

end

/-! ## Acts -/

namespace Question

/-- An image is written. -/
def isFlash : Question → Bool
  | .bootloader _ (.update _) => true
  | _ => false

/-- A device is sent into its bootloader. -/
def isBootromCommand : Question → Bool
  | .device _ call => call = Admin.bootromCall
  | _ => false

/-- The operator is asked for a confirmation. -/
def isConfirm : Question → Bool
  | .confirm _ => true
  | _ => false

/-- The operator is told what to know about migrations. -/
def isNotes : Question → Bool
  | .confirm (.notes _) => true
  | _ => false

/-- The bytes of a container are asked for. -/
def isSupply : Question → Bool
  | .readFile _ => true
  | .download _ => true
  | _ => false

/-- One of the two devices is asked. -/
def isDevice : Question → Bool
  | .device _ _ => true
  | _ => false

/-- A connection is let go of. -/
def isClose : Question → Bool
  | .device _ .close => true
  | .bootloader _ .close => true
  | _ => false

/-- A bootloader is asked, or it or a device is waited for. -/
def isBeyondCheck : Question → Bool
  | .bootloader _ _ => true
  | .awaitBootloader _ _ => true
  | .awaitDevice _ _ => true
  | _ => false

/-- A notice of a progress bar. -/
def isBar (bar : Bar) : Question → Bool
  | .tell (.barStart b _) => b = bar
  | .tell (.barProgress b _ _) => b = bar
  | .tell (.barFinish b) => b = bar
  | _ => false

/-! ## Questions in their places -/

/-- Warnings and confirmations that are not about migrations. -/
inductive IsTalk : Question → Prop where
  | warning (w : Warning) (h : w ≠ .fileSystemV2) : IsTalk (.tell (.warning w))
  | confirm (c : Confirmation) (h : (Question.confirm c).isNotes = false) : IsTalk (.confirm c)

/-- What the version check asks before it comes to migrations, besides the device. -/
inductive IsInquiry : Question → Prop where
  | talk {q : Question} (h : q.IsTalk) : IsInquiry q
  | readFile (path : String) : IsInquiry (.readFile path)
  | latestRelease : IsInquiry .latestRelease
  | release (tag : String) : IsInquiry (.release tag)
  | download (asset : Asset) : IsInquiry (.download asset)
  | bar {q : Question} (h : q.isBar .download) : IsInquiry q

/-- What is shown before a device migrates. -/
inductive IsMigrationTalk : Question → Prop where
  | notes (lines : List String) : IsMigrationTalk (.confirm (.notes lines))
  | warning : IsMigrationTalk (.tell (.warning .fileSystemV2))

/-- Questions that look for a bootloader. -/
inductive IsSearch : Question → Prop where
  | sleep (milliseconds : Nat) : IsSearch (.tell (.sleep milliseconds))
  | hint : IsSearch (.tell .hint)
  | await (model : Model) (number : Nat) : IsSearch (.awaitBootloader model number)
  | uuid (number : Nat) : IsSearch (.bootloader (.attempt number) .uuid)

/-- Questions that wait for a device with new firmware. -/
inductive IsReturn (model : Model) (retries : Nat) : Question → Prop where
  | await : IsReturn model retries (.awaitDevice model retries)
  | version : IsReturn model retries (.device .returned Admin.versionCall)
  | status : IsReturn model retries (.device .returned Admin.statusCall)
  | close : IsReturn model retries (.device .returned .close)
  | bar {q : Question} (h : q.isBar .finalization) : IsReturn model retries q

/-- Questions that have their place in a step, besides the announcement of the step. -/
inductive Fits : UpdateStep → Question → Prop where
  | version : Fits .versionCheck (.device .initial Admin.versionCall)
  | status : Fits .versionCheck (.device .initial Admin.statusCall)
  | inquiry {q : Question} (h : q.IsInquiry) : Fits .versionCheck q
  | migration {q : Question} (h : q.IsMigrationTalk) : Fits .versionCheck q
  | touch : Fits .bootloaderTransition (.tell .touch)
  | bootrom : Fits .bootloaderTransition (.device .initial Admin.bootromCall)
  | closeInitial : Fits .bootloaderTransition (.device .initial .close)
  | search {q : Question} (h : q.IsSearch) : Fits .bootloaderTransition q
  | lateMigration {q : Question} (h : q.IsMigrationTalk) : Fits .imageValidation q
  | flash (role : BootloaderRole) (image : Bytes) :
      Fits .flashing (.bootloader role (.update image))
  | bar {q : Question} (h : q.isBar .update) : Fits .flashing q
  | returning {q : Question} {model : Model} {retries : Nat} (h : q.IsReturn model retries) :
      Fits .finalizationWait q

/-! ## Acts are kept to their places -/

variable {q : Question} {step : UpdateStep}

theorem tell_of_isBar {bar : Bar} (h : q.isBar bar) : ∃ n, q = .tell n := by
  cases q with
  | tell n => exact ⟨n, rfl⟩
  | _ => simp [isBar] at h

theorem IsTalk.inert (h : q.IsTalk) :
    q.isFlash = false ∧ q.isDevice = false ∧ q.isNotes = false ∧ q.isSupply = false := by
  cases h with
  | warning w hw => exact ⟨rfl, rfl, rfl, rfl⟩
  | confirm c hc => exact ⟨rfl, rfl, hc, rfl⟩

theorem IsInquiry.inert (h : q.IsInquiry) :
    q.isFlash = false ∧ q.isDevice = false ∧ q.isNotes = false := by
  cases h with
  | talk h =>
      obtain ⟨hflash, hdevice, hnotes, -⟩ := h.inert
      exact ⟨hflash, hdevice, hnotes⟩
  | bar h =>
      obtain ⟨n, rfl⟩ := tell_of_isBar h
      exact ⟨rfl, rfl, rfl⟩
  | _ => exact ⟨rfl, rfl, rfl⟩

theorem IsTalk.not_migration (h : q.IsTalk) : ¬ q.IsMigrationTalk := by
  intro hm
  cases h with
  | warning w hw =>
      cases hm
      exact hw rfl
  | confirm c hc =>
      cases hm
      cases hc

theorem IsInquiry.not_migration (h : q.IsInquiry) : ¬ q.IsMigrationTalk := by
  intro hm
  cases h with
  | talk h => exact h.not_migration hm
  | bar h =>
      cases hm with
      | notes lines => cases h
      | warning => cases h
  | _ => cases hm

theorem IsMigrationTalk.inert (h : q.IsMigrationTalk) :
    q.isFlash = false ∧ q.isDevice = false ∧ q.isSupply = false := by
  cases h with
  | _ => exact ⟨rfl, rfl, rfl⟩

theorem IsSearch.inert (h : q.IsSearch) :
    q.isFlash = false ∧ q.isDevice = false ∧ q.isNotes = false ∧ q.isSupply = false := by
  cases h with
  | _ => exact ⟨rfl, rfl, rfl, rfl⟩

theorem IsReturn.inert {model : Model} {retries : Nat} (h : q.IsReturn model retries) :
    q.isFlash = false ∧ q.isBootromCommand = false ∧ q.isConfirm = false ∧ q.isSupply = false := by
  cases h with
  | bar h =>
      obtain ⟨n, rfl⟩ := tell_of_isBar h
      exact ⟨rfl, rfl, rfl, rfl⟩
  | _ => exact ⟨rfl, rfl, rfl, rfl⟩

theorem isBootromCommand_of_not_device (h : q.isDevice = false) : q.isBootromCommand = false := by
  cases q with
  | device role call => simp [isDevice] at h
  | _ => rfl

/-- Images are only written while flashing. -/
theorem Fits.eq_flashing (h : q.Fits step) (hq : q.isFlash) : step = .flashing := by
  cases h with
  | inquiry h => simp [h.inert] at hq
  | migration h => simp [h.inert] at hq
  | search h => simp [h.inert] at hq
  | lateMigration h => simp [h.inert] at hq
  | returning h => simp [h.inert] at hq
  | flash role image => rfl
  | bar h => rfl
  | _ => simp [isFlash] at hq

/-- The command is only sent to get to the bootloader. -/
theorem Fits.eq_bootloaderTransition (h : q.Fits step) (hq : q.isBootromCommand) :
    step = .bootloaderTransition := by
  cases h with
  | version => exact absurd hq (by decide)
  | status => exact absurd hq (by decide)
  | inquiry h => simp [isBootromCommand_of_not_device h.inert.2.1] at hq
  | migration h => simp [isBootromCommand_of_not_device h.inert.2.1] at hq
  | lateMigration h => simp [isBootromCommand_of_not_device h.inert.2.1] at hq
  | flash role image => simp [isBootromCommand] at hq
  | bar h =>
      obtain ⟨n, rfl⟩ := tell_of_isBar h
      simp [isBootromCommand] at hq
  | returning h => simp [h.inert] at hq
  | _ => rfl

/-- The bytes of a container are only asked for in the version check. -/
theorem Fits.eq_versionCheck (h : q.Fits step) (hq : q.isSupply) : step = .versionCheck := by
  cases h with
  | search h => simp [h.inert] at hq
  | lateMigration h => simp [h.inert] at hq
  | bar h =>
      obtain ⟨n, rfl⟩ := tell_of_isBar h
      simp [isSupply] at hq
  | returning h => simp [h.inert] at hq
  | touch | bootrom | closeInitial => simp [isSupply] at hq
  | flash role image => simp [isSupply] at hq
  | _ => rfl

theorem migrationTalk_of_isNotes (h : q.isNotes) : q.IsMigrationTalk := by
  cases q with
  | confirm c =>
      cases c with
      | notes lines => exact .notes lines
      | _ => cases h
  | _ => cases h

/-- Migrations are spoken of before the device is told to reboot, or else right before flashing. -/
theorem Fits.eq_of_migration (h : q.Fits step) (hm : q.IsMigrationTalk) :
    step = .versionCheck ∨ step = .imageValidation := by
  cases h with
  | lateMigration h => exact .inr rfl
  | touch | bootrom | closeInitial => cases hm
  | flash role image => cases hm
  | search h =>
      cases hm with
      | _ => cases h
  | bar h =>
      cases hm with
      | _ => cases h
  | returning h =>
      cases hm with
      | notes lines => cases h.inert.2.2.1
      | warning =>
          cases h with
          | bar h => cases h
  | _ => exact .inl rfl

/-- All that the first device is ever asked. -/
theorem Fits.initial {call : Call} (h : (Question.device .initial call).Fits step) :
    (step = .versionCheck ∧ (call = Admin.versionCall ∨ call = Admin.statusCall)) ∨
      (step = .bootloaderTransition ∧ (call = Admin.bootromCall ∨ call = .close)) := by
  cases h with
  | version => exact .inl ⟨rfl, .inl rfl⟩
  | status => exact .inl ⟨rfl, .inr rfl⟩
  | bootrom => exact .inr ⟨rfl, .inl rfl⟩
  | closeInitial => exact .inr ⟨rfl, .inr rfl⟩
  | inquiry h => cases h.inert.2.1
  | migration h => cases h.inert.2.1
  | search h => cases h.inert.2.1
  | lateMigration h => cases h.inert.2.1
  | bar h => cases h
  | returning h =>
      cases h with
      | bar h => cases h

/-- In the version check the device is asked for its version and its status, and no bootloader is
dealt with. -/
theorem Fits.of_versionCheck (h : q.Fits .versionCheck) :
    q.isBeyondCheck = false ∧ ∀ role call, q = .device role call →
      role = .initial ∧ (call = Admin.versionCall ∨ call = Admin.statusCall) := by
  cases h with
  | version =>
      refine ⟨rfl, ?_⟩
      rintro role call ⟨⟩
      exact ⟨rfl, .inl rfl⟩
  | status =>
      refine ⟨rfl, ?_⟩
      rintro role call ⟨⟩
      exact ⟨rfl, .inr rfl⟩
  | inquiry h =>
      refine ⟨?_, ?_⟩
      · cases h with
        | talk h =>
            cases h with
            | _ => rfl
        | bar h =>
            obtain ⟨n, rfl⟩ := tell_of_isBar h
            rfl
        | _ => rfl
      · rintro role call rfl
        cases h.inert.2.1
  | migration h =>
      cases h with
      | _ =>
          refine ⟨rfl, ?_⟩
          rintro role call ⟨⟩

/-- A bootloader is only waited for during the transition. -/
theorem Fits.eq_of_await {model : Model} {number : Nat}
    (h : (Question.awaitBootloader model number).Fits step) : step = .bootloaderTransition := by
  cases h with
  | search h => rfl
  | inquiry h =>
      cases h with
      | talk h => cases h
      | bar h => cases h
  | migration h => cases h
  | lateMigration h => cases h
  | bar h => cases h
  | returning h =>
      cases h with
      | bar h => cases h

/-! ## After an image was written -/

/-- What an update still asks, once a bootloader was given an image. -/
inductive IsAftermath (role : BootloaderRole) (model : Model) (retries : Nat) :
    Question → Prop where
  | bar {q : Question} (h : q.isBar .update) : IsAftermath role model retries q
  | close : IsAftermath role model retries (.bootloader role .close)
  | enter : IsAftermath role model retries (.tell (.enter .finalizationWait))
  | returning {q : Question} (h : q.IsReturn model retries) : IsAftermath role model retries q

section

variable {role : BootloaderRole} {model : Model} {retries : Nat}

theorem IsAftermath.inert (h : q.IsAftermath role model retries) :
    q.isFlash = false ∧ q.isBootromCommand = false ∧ q.isConfirm = false ∧ q.isSupply = false := by
  cases h with
  | bar h =>
      obtain ⟨n, rfl⟩ := tell_of_isBar h
      exact ⟨rfl, rfl, rfl, rfl⟩
  | returning h => exact h.inert
  | _ => exact ⟨rfl, rfl, rfl, rfl⟩

theorem IsAftermath.not_migration (h : q.IsAftermath role model retries) :
    ¬ q.IsMigrationTalk := by
  intro hm
  cases hm with
  | notes lines => cases h.inert.2.2.1
  | warning =>
      cases h with
      | bar h => cases h
      | returning h =>
          cases h with
          | bar h => cases h

theorem IsAftermath.not_initial {call : Call}
    (h : (Question.device .initial call).IsAftermath role model retries) : False := by
  cases h with
  | bar h => cases h
  | returning h =>
      cases h with
      | bar h => cases h

theorem IsAftermath.not_await {m : Model} {number : Nat}
    (h : (Question.awaitBootloader m number).IsAftermath role model retries) : False := by
  cases h with
  | bar h => cases h
  | returning h =>
      cases h with
      | bar h => cases h

/-- The device is waited for as long as the migrations take. -/
theorem IsAftermath.eq_of_awaitDevice {m : Model} {r : Nat}
    (h : (Question.awaitDevice m r).IsAftermath role model retries) : m = model ∧ r = retries := by
  cases h with
  | bar h => cases h
  | returning h =>
      cases h with
      | await => exact ⟨rfl, rfl⟩
      | bar h => cases h

end

end Question

/-! ## What was learnt -/

/-- The initial device was asked for its version and told it. -/
def ReportedVersion (record : Record) (v : Version) : Prop :=
  ∃ answer, ⟨.device .initial Admin.versionCall, answer⟩ ∈ record ∧
    Admin.versionFrom answer = .ok v

def ReportedStatus (record : Record) (status : Status) : Prop :=
  ∃ answer, ⟨.device .initial Admin.statusCall, answer⟩ ∈ record ∧
    Admin.statusFrom answer = .ok status

/-- What is known about the device that the update starts with; a bootloader tells nothing. -/
def Reported (target : UpdateTarget) (record : Record) (current : Option Version)
    (status : Option Status) : Prop :=
  match target with
  | .device _ =>
      ∃ v st, current = some v ∧ status = some st ∧ ReportedVersion record v ∧
        ReportedStatus record st
  | .bootloader .. => current = none ∧ status = none

/-- The source gave these bytes. -/
def Supplied (source : UpdateSource) (record : Record) (data : Bytes) : Prop :=
  match source with
  | .bytes given => data = given
  | .file path => ⟨.readFile path, .ok data⟩ ∈ record
  | .release _ => ∃ asset progress, ⟨.download asset, (progress, .ok data)⟩ ∈ record

/-- The repository has this release, or it is the latest one. -/
def LookedUp (tag : Option String) (record : Record) (release : Release) : Prop :=
  match tag with
  | some tag => ⟨.release tag, .ok release⟩ ∈ record
  | none => ⟨.latestRelease, .ok release⟩ ∈ record

/-- The version that is compared with the installed one: that of the release's tag, or else that of
the container. -/
def Compared (source : UpdateSource) (record : Record) (container : Container) (v : Version) :
    Prop :=
  match source with
  | .release tag => ∃ release, LookedUp tag record release ∧ release.version = .ok v
  | _ => v = container.version

/-- The new version passed the comparison with the installed one; where it is the installed one, the
operator accepted that. -/
structure Passed (current : Option Version) (new : Version) (record : Record) : Prop where
  compared : ∃ same, compareVersions current new = .ok same
  agreed : ∀ v, current = some v → v.Level new → ∃ same,
    compareVersions current new = .ok (some same) ∧ accepted (.sameVersion same) ∈ record

/-- The source gave a container for the model, and its version passed. -/
structure Prepared (primitives : Primitives) (model : Model) (current : Option Version)
    (source : UpdateSource) (record : Record) (container : Container) : Prop where
  parsed : ∃ data, Supplied source record data ∧
    Container.parse primitives data model = .ok container
  passed : ∃ v, Compared source record container v ∧ v.Level container.version ∧
    Passed current v record

/-- What the container asks of the software is met, or else the operator was asked or warned. -/
structure RequirementsMet (config : UpdateConfig) (container : Container) (record : Record) :
    Prop where
  library : ∀ sdk, container.sdk = some sdk → config.sdkVersion < sdk →
    config.ignores .sdkVersion ∧ told (.warning .sdkVersion) ∈ record
  client : ∀ required, container.sdk = none → container.client = some required →
    clientVersion < required →
      config.ignoreClientVersion ∧ accepted (.clientVersion clientVersion required) ∈ record

/-- The operator accepted the notes on the migrations, and was warned if there is no room for
them. -/
structure Noted (config : UpdateConfig) (migrations : Migrations) (status : Option Status)
    (record : Record) : Prop where
  shown : record = accepted (.notes migrations.notes) ::
    if migrations.fileSystemV2 ∧ lacksSpace status then [told (.warning .fileSystemV2)] else []
  room : migrations.fileSystemV2 → lacksSpace status → config.ignores .fileSystemV2

/-- The operator consented to the update, after the container was gone through and then what it asks
of the software was. -/
def Consented (primitives : Primitives) (settings : UpdateSettings) (target : UpdateTarget)
    (source : UpdateSource) (current : Option Version) (status : Option Status)
    (container : Container) (record : Record) : Prop :=
  ∃ first second third,
    record = first ++ (second ++ accepted (.update current container.version) :: third) ∧
    Reported target first current status ∧
    Prepared primitives target.model current source first container ∧
    RequirementsMet settings.config container second

/-- The warnings that there is a reason for. -/
inductive Raised (settings : UpdateSettings) (target : UpdateTarget) (current : Option Version)
    (status : Option Status) (container : Container) : Warning → Prop where
  | fromBootloader {model : Model} {variant : Variant} (h : target = .bootloader model variant) :
      Raised settings target current status container .fromBootloader
  | missingStatus (hstatus : status.any (·.init.isNone)) (hmodel : target.model = .nk3)
      (hnew : lastWithoutStatus < container.version) :
      Raised settings target current status container .missingStatus
  | sdkVersion {sdk : Version} (h : container.sdk = some sdk)
      (hlater : settings.config.sdkVersion < sdk) :
      Raised settings target current status container .sdkVersion
  | fileSystemV2 {variant : Variant}
      (h : (Migrations.of target.model variant current container.version).fileSystemV2)
      (hspace : lacksSpace status) :
      Raised settings target current status container .fileSystemV2

/-- The variant that an update knows before it meets the bootloader. -/
def knownVariant? (target : UpdateTarget) (status : Option Status) : Option Variant :=
  match status.bind (·.platform), target with
  | some platform, _ => (Variant.ofPlatform platform).toOption
  | none, .bootloader _ variant => some variant
  | none, .device _ => none

/-- A bootloader said that it wrote an image. -/
def Flashed (record : Record) : Prop :=
  ∃ role image progress, ⟨.bootloader role (.update image), (progress, .ok ())⟩ ∈ record

/-- The bootloader in that role is of that variant. -/
def Met (target : UpdateTarget) (record : Record) (role : BootloaderRole) (variant : Variant) :
    Prop :=
  match role with
  | .given => target = .bootloader target.model variant
  | .attempt n => ⟨.awaitBootloader target.model n, .ok variant⟩ ∈ record

/-! ## Longer records show more -/

variable {target : UpdateTarget} {source : UpdateSource} {record longer : Record}

theorem Flashed.asked (h : Flashed record) :
    ∃ role image, Asked record (.bootloader role (.update image)) := by
  obtain ⟨role, image, progress, hmem⟩ := h
  exact ⟨role, image, asked_iff.2 ⟨_, hmem⟩⟩

theorem ReportedVersion.mono {v : Version} (h : ReportedVersion record v) (hsub : record ⊆ longer) :
    ReportedVersion longer v := by
  obtain ⟨answer, hmem, hv⟩ := h
  exact ⟨answer, hsub hmem, hv⟩

theorem ReportedStatus.mono {st : Status} (h : ReportedStatus record st) (hsub : record ⊆ longer) :
    ReportedStatus longer st := by
  obtain ⟨answer, hmem, hst⟩ := h
  exact ⟨answer, hsub hmem, hst⟩

theorem Reported.mono {current : Option Version} {status : Option Status}
    (h : Reported target record current status) (hsub : record ⊆ longer) :
    Reported target longer current status := by
  cases target with
  | device model =>
      obtain ⟨v, st, hv, hst, hversion, hstatus⟩ := h
      exact ⟨v, st, hv, hst, hversion.mono hsub, hstatus.mono hsub⟩
  | bootloader model variant =>
      exact h

theorem Supplied.mono {data : Bytes} (h : Supplied source record data) (hsub : record ⊆ longer) :
    Supplied source longer data := by
  cases source with
  | bytes given =>
      exact h
  | file path =>
      exact hsub h
  | release tag =>
      obtain ⟨asset, progress, hmem⟩ := h
      exact ⟨asset, progress, hsub hmem⟩

theorem LookedUp.mono {tag : Option String} {release : Release} (h : LookedUp tag record release)
    (hsub : record ⊆ longer) : LookedUp tag longer release := by
  cases tag with
  | some tag => exact hsub h
  | none => exact hsub h

theorem Compared.mono {container : Container} {v : Version}
    (h : Compared source record container v) (hsub : record ⊆ longer) :
    Compared source longer container v := by
  cases source with
  | bytes given =>
      exact h
  | file path =>
      exact h
  | release tag =>
      obtain ⟨release, hfound, hv⟩ := h
      exact ⟨release, hfound.mono hsub, hv⟩

theorem Passed.mono {current : Option Version} {new : Version} (h : Passed current new record)
    (hsub : record ⊆ longer) : Passed current new longer := by
  refine ⟨h.compared, ?_⟩
  intro v hv hlevel
  obtain ⟨same, hsame, hmem⟩ := h.agreed v hv hlevel
  exact ⟨same, hsame, hsub hmem⟩

theorem Prepared.mono {primitives : Primitives} {model : Model} {current : Option Version}
    {container : Container} (h : Prepared primitives model current source record container)
    (hsub : record ⊆ longer) : Prepared primitives model current source longer container := by
  obtain ⟨⟨data, hdata, hparsed⟩, v, hcompared, hlevel, hpassed⟩ := h
  exact ⟨⟨data, hdata.mono hsub, hparsed⟩, v, hcompared.mono hsub, hlevel, hpassed.mono hsub⟩

theorem RequirementsMet.mono {config : UpdateConfig} {container : Container}
    (h : RequirementsMet config container record) (hsub : record ⊆ longer) :
    RequirementsMet config container longer where
  library := fun sdk hsdk hlater =>
    have ⟨hignored, htold⟩ := h.library sdk hsdk hlater
    ⟨hignored, hsub htold⟩
  client := fun required hsdk hclient hlater =>
    have ⟨hignored, haccepted⟩ := h.client required hsdk hclient hlater
    ⟨hignored, hsub haccepted⟩

theorem Met.mono {role : BootloaderRole} {variant : Variant} (h : Met target record role variant)
    (hsub : record ⊆ longer) : Met target longer role variant := by
  cases role with
  | given => exact h
  | attempt n => exact hsub h

theorem Consented.extend {primitives : Primitives} {settings : UpdateSettings}
    {current : Option Version} {status : Option Status} {container : Container}
    (h : Consented primitives settings target source current status container record)
    (before after : Record) :
    Consented primitives settings target source current status container
      (before ++ (record ++ after)) := by
  obtain ⟨first, second, third, rfl, hreported, hprepared, hrequired⟩ := h
  have hsub : first ⊆ before ++ first := List.subset_append_right before first
  exact ⟨before ++ first, second, third ++ after, by simp, hreported.mono hsub, hprepared.mono hsub,
    hrequired⟩

end Update
end Reflash
