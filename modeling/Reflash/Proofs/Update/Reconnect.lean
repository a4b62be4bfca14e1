import Reflash.Proofs.Update.Closing
import Reflash.Proofs.Update.RebootAnswer
import Reflash.Update.Retry

/-!
# Update.Reconnect — a bootloader is looked for a bounded number of times

* `Try` — one attempt to find a bootloader; `searching` — the exchanges of several, with the pauses
  between them;
* `searched_of_findBootloader` — a search ends with the first try that succeeds, or when there are
  no more;
* `reconnection` — all pauses and tries of an update; `EnteredCourse` — they have their place in the
  transition;
* `bounded_reconnect` — how many tries there are, how long is waited between them, and what comes of
  them.

`searchBy_eq` and `Searched.by_retries` tie all this to attempts that are counted, whatever they are
for.
-/

namespace Reflash

/-! ## Counted attempts -/

/-- There are as many attempts as are taken, with a pause before each but the very first. -/
theorem Retries.take_eq (count : Nat) (r : Retries) (h : r.next + count ≤ r.total) :
    r.take count =
      ((List.range' r.next count).map fun i => ⟨i, r.total⟩,
        List.replicate (if r.next = 0 then count - 1 else count) r.pause,
        { r with next := r.next + count }) := by
  induction count generalizing r with
  | zero => simp [take]
  | succ count ih =>
      have hmore : r.next < r.total := by omega
      have hrest : r.next + 1 + count ≤ r.total := by omega
      rw [take, next?, if_pos hmore]
      simp only [ih { r with next := r.next + 1 } hrest, List.range'_succ, List.map_cons]
      have hnumber : r.next + 1 + count = r.next + (count + 1) := by omega
      by_cases hfirst : r.next = 0
      · simp [hfirst, Nat.add_comm]
      · simp [hfirst, hnumber, List.replicate_succ]

namespace Update

open Dialogue

/-- The search for a bootloader with the attempts that are left. -/
abbrev searchBy (model : Model) (last : Option DeviceError) (r : Retries) :
    StepM (BootloaderRole × Variant) :=
  findBootloader model r.pause r.next last (r.total - r.next)

/-- The search is a loop over the attempts.  They say whether there is a pause before the next one,
and which number it has. -/
theorem searchBy_eq (model : Model) (last : Option DeviceError) {r : Retries}
    (hbound : r.next ≤ r.total) :
    searchBy model last r =
      (match r.next? with
      | none => throw (.bootloaderUnreachable model r.total last)
      | some (pause, attempt, rest) => do
          pause.forM fun milliseconds => tell (.sleep milliseconds)
          match ← ExceptT.lift (connect model (attempt.index + 1)) with
          | .ok variant => return (.attempt (attempt.index + 1), variant)
          | .error e => searchBy model (some e) rest) := by
  rw [Retries.next?]
  by_cases hmore : r.next < r.total
  · -- One attempt is taken off those that remain.
    have hremaining : r.total - r.next = r.total - (r.next + 1) + 1 := by omega
    rw [if_pos hmore, searchBy, hremaining, findBootloader]
    cases hnext : r.next with
    | zero => rfl
    | succ made => rfl
  · have hdone : r.next = r.total := by omega
    have hnone : r.total - r.next = 0 := by omega
    rw [if_neg hmore, searchBy, hnone, findBootloader, hdone]

/-- In an update all attempts of the settings are left when the search begins. -/
theorem enterBootloader_eq_searchBy (settings : UpdateSettings) (model : Model) :
    enterBootloader settings (.device model) = (do
      rebootDevice
      tell (.sleep settings.config.settleDelay)
      tell .hint
      searchBy model none
        { total := settings.config.retries, pause := settings.config.retryDelay }) :=
  rfl

/-! ## Tries -/

/-- No bootloader comes, or one does and is asked who it is. -/
inductive Try where
  | missed (e : DeviceError)
  | met (variant : Variant) (answer : Except DeviceError (Option Uuid))

namespace Try

/-- A bootloader that does not answer is as good as none. -/
def result : Try → Except DeviceError Variant
  | .missed e => .error e
  | .met variant answer => answer.map fun _ => variant

def exchanges (model : Model) (number : Nat) : Try → Record
  | .missed e => [⟨.awaitBootloader model number, .error e⟩]
  | .met variant answer =>
      [⟨.awaitBootloader model number, .ok variant⟩, ⟨.bootloader (.attempt number) .uuid, answer⟩]

end Try

theorem try_of_connect {model : Model} {number : Nat} {record : Record}
    {result : Except DeviceError Variant} (h : Course (connect model number) record result) :
    ∃ t : Try, record = t.exchanges model number ∧ result = t.result := by
  rcases course_connect.1 h with ⟨e, rfl, rfl⟩ | ⟨variant, answer, rfl, rfl⟩
  · exact ⟨.missed e, rfl, rfl⟩
  · exact ⟨.met variant answer, rfl, rfl⟩

/-- Tries one after the other, when `made` of them were made before. -/
def searching (model : Model) (delay : Nat) : (made : Nat) → List Try → Record
  | _, [] => []
  | made, t :: rest =>
      pauses delay made ++ (t.exchanges model (made + 1) ++ searching model delay (made + 1) rest)

/-- The error of the last try, or that of the last one before if there are no tries. -/
def lastError (last : Option DeviceError) : List Try → Option DeviceError
  | [] => last
  | t :: rest => lastError (match t.result with | .ok _ => none | .error e => some e) rest

/-- How a search ends that has made some tries before. -/
inductive SearchEnd (model : Model) (made remaining : Nat) (last : Option DeviceError) :
    List Try → Except UpdateError (BootloaderRole × Variant) → Prop where
  | found {failed : List Try} {t : Try} {variant : Variant} (hbound : failed.length < remaining)
      (hfailed : ∀ f ∈ failed, ∃ e, f.result = .error e) (ht : t.result = .ok variant) :
      SearchEnd model made remaining last (failed ++ [t])
        (.ok (.attempt (made + failed.length + 1), variant))
  | exhausted {tries : List Try} (hall : tries.length = remaining)
      (hfailed : ∀ t ∈ tries, ∃ e, t.result = .error e) :
      SearchEnd model made remaining last tries
        (.error (.bootloaderUnreachable model (made + remaining) (lastError last tries)))

theorem SearchEnd.first {model : Model} {made remaining : Nat} {last : Option DeviceError} {t : Try}
    {variant : Variant} (ht : t.result = .ok variant) :
    SearchEnd model made (remaining + 1) last [t] (.ok (.attempt (made + 1), variant)) :=
  have hnone : ∀ f ∈ [], ∃ e, Try.result f = .error e := nofun
  .found (Nat.succ_pos remaining) hnone ht

/-- One more failure in front. -/
theorem SearchEnd.cons {model : Model} {made remaining : Nat} {last : Option DeviceError}
    {tries : List Try} {found : Except UpdateError (BootloaderRole × Variant)} {t : Try}
    {e : DeviceError} (ht : t.result = .error e)
    (h : SearchEnd model (made + 1) remaining (some e) tries found) :
    SearchEnd model made (remaining + 1) last (t :: tries) found := by
  cases h with
  | @found failed t' variant hbound hfailed ht' =>
      have hnumber : made + 1 + failed.length + 1 = made + (t :: failed).length + 1 := by
        rw [List.length_cons]
        omega
      rw [hnumber, ← List.cons_append]
      exact .found (Nat.succ_lt_succ hbound) (List.forall_mem_cons.2 ⟨⟨e, ht⟩, hfailed⟩) ht'
  | exhausted hall hfailed =>
      have hnumber : made + 1 + remaining = made + (remaining + 1) := by omega
      have hlast : lastError (some e) tries = lastError last (t :: tries) := by
        rw [lastError, ht]
      rw [hnumber, hlast]
      exact .exhausted (congrArg (· + 1) hall) (List.forall_mem_cons.2 ⟨⟨e, ht⟩, hfailed⟩)

/-- By induction on the attempts that remain. -/
theorem searched_of_findBootloader {model : Model} {delay made remaining : Nat}
    {last : Option DeviceError} {record : Record}
    {found : Except UpdateError (BootloaderRole × Variant)}
    (h : Course (findBootloader model delay made last remaining).run record found) :
    ∃ tries, record = searching model delay made tries ∧
      SearchEnd model made remaining last tries found := by
  induction remaining generalizing made last record with
  | zero =>
      obtain ⟨rfl, rfl⟩ := course_throw.1 h
      exact ⟨[], rfl, .exhausted rfl nofun⟩
  | succ remaining ih =>
      obtain ⟨attempted, answer, rest, rfl, hconnect, hrest⟩ := course_findBootloader_succ h
      obtain ⟨t, rfl, rfl⟩ := try_of_connect hconnect
      cases ht : t.result with
      | ok variant =>
          rw [ht] at hrest
          obtain ⟨rfl, rfl⟩ := course_pure.1 hrest
          exact ⟨[t], by simp [searching], .first ht⟩
      | error e =>
          rw [ht] at hrest
          obtain ⟨tries, rfl, hend⟩ := ih hrest
          exact ⟨t :: tries, rfl, hend.cons ht⟩

/-- If all tries fail, the last error is that of the last one. -/
theorem map_getLast?_eq {last : Option DeviceError} {tries : List Try} (hne : tries ≠ [])
    (hfailed : ∀ t ∈ tries, ∃ e, t.result = .error e) :
    tries.getLast?.map Try.result = (lastError last tries).map .error := by
  induction tries generalizing last with
  | nil => exact absurd rfl hne
  | cons t tries ih =>
      obtain ⟨⟨e, he⟩, hrest⟩ := List.forall_mem_cons.1 hfailed
      rw [lastError, he]
      cases tries with
      | nil => exact congrArg some he
      | cons t' tries =>
          rw [List.getLast?_cons_cons]
          exact ih (List.cons_ne_nil t' tries) hrest

/-! ## Pauses and tries in a record -/

namespace Question

/-- How long a pause is. -/
def sleep? : Question → Option Nat
  | .tell (.sleep milliseconds) => some milliseconds
  | _ => none

/-- The number of an attempt. -/
def attempt? : Question → Option Nat
  | .awaitBootloader _ number => some number
  | _ => none

/-- A bootloader is waited for. -/
def isAwait : Question → Bool
  | .awaitBootloader .. => true
  | _ => false

/-- A pause, or something that is asked of a bootloader which is looked for. -/
def isReconnect (q : Question) : Bool :=
  q.sleep?.isSome || q.isLookout

variable {q : Question} {step : UpdateStep} {role : BootloaderRole}

theorem sleepless_of_isBar {bar : Bar} (h : q.isBar bar) : q.sleep? = none := by
  cases q with
  | tell n =>
      cases n with
      | sleep milliseconds => cases h
      | _ => rfl
  | _ => rfl

theorem IsMigrationTalk.sleepless (h : q.IsMigrationTalk) : q.sleep? = none := by
  cases h with
  | _ => rfl

theorem IsInquiry.sleepless (h : q.IsInquiry) : q.sleep? = none := by
  cases h with
  | talk h =>
      cases h with
      | _ => rfl
  | bar h => exact sleepless_of_isBar h
  | _ => rfl

/-- There are pauses on the way into the bootloader only. -/
theorem Fits.sleepless (h : q.Fits step) (hstep : step ≠ .bootloaderTransition) :
    q.sleep? = none := by
  cases h with
  | inquiry h => exact h.sleepless
  | migration h => exact h.sleepless
  | lateMigration h => exact h.sleepless
  | bar h => exact sleepless_of_isBar h
  | returning h =>
      cases h with
      | bar h => exact sleepless_of_isBar h
      | _ => rfl
  | search h => exact absurd rfl hstep
  | touch => exact absurd rfl hstep
  | _ => rfl

theorem IsAttempt.sleepless (h : q.IsAttempt role) : q.sleep? = none := by
  cases h with
  | migration h => exact h.sleepless
  | bar h => exact sleepless_of_isBar h
  | _ => rfl

theorem not_reconnect (hsleep : q.sleep? = none) (hlookout : q.isLookout = false) :
    q.isReconnect = false := by
  rw [isReconnect, hsleep, hlookout]
  rfl

end Question

/-- All pauses and tries, with their answers. -/
def reconnection (record : Record) : Record :=
  record.filter fun x => x.1.isReconnect

/-- How long the pauses are. -/
def sleeps (record : Record) : List Nat :=
  record.filterMap fun x => x.1.sleep?

/-- The numbers of the attempts. -/
def attempts (record : Record) : List Nat :=
  record.filterMap fun x => x.1.attempt?

section

variable {record rest : Record} {x : Exchange Question.Answer}

theorem reconnection_append :
    reconnection (record ++ rest) = reconnection record ++ reconnection rest :=
  List.filter_append ..

theorem reconnection_cons_of_other (h : x.1.isReconnect = false) :
    reconnection (x :: rest) = reconnection rest :=
  List.filter_cons_of_neg (by simp [h])

theorem reconnection_eq_nil (h : ∀ x ∈ record, x.1.isReconnect = false) :
    reconnection record = [] :=
  List.filter_eq_nil_iff.2 fun x hx => by simp [h x hx]

theorem sleeps_append : sleeps (record ++ rest) = sleeps record ++ sleeps rest :=
  List.filterMap_append ..

theorem attempts_append : attempts (record ++ rest) = attempts record ++ attempts rest :=
  List.filterMap_append ..

/-- Nothing that counts is left out. -/
theorem filterMap_reconnection {β : Type} {f : Question → Option β}
    (h : ∀ q, (f q).isSome → q.isReconnect) :
    (reconnection record).filterMap (fun x => f x.1) = record.filterMap fun x => f x.1 := by
  rw [reconnection, List.filterMap_filter]
  refine List.filterMap_congr fun x _ => ?_
  split
  next => rfl
  next hother =>
    have hnone : f x.1 = none := by
      rw [← Option.not_isSome_iff_eq_none]
      exact fun hsome => hother (h x.1 hsome)
    exact hnone.symm

theorem sleeps_reconnection : sleeps (reconnection record) = sleeps record := by
  refine filterMap_reconnection fun q hq => ?_
  rw [Question.isReconnect, hq, Bool.true_or]

theorem attempts_reconnection : attempts (reconnection record) = attempts record := by
  refine filterMap_reconnection fun q hq => ?_
  cases q with
  | awaitBootloader model number => rfl
  | _ => cases hq

/-- Every attempt has a number. -/
theorem timesAsked_isAwait : timesAsked Question.isAwait record = (attempts record).length := by
  rw [timesAsked, attempts, List.length_filterMap_eq_countP]
  refine List.countP_congr fun x _ => ?_
  cases x.1 with
  | _ => simp [Question.isAwait, Question.attempt?]

end

/-! ## Pauses and tries of a search -/

section

variable {model : Model} {delay made : Nat} {tries : List Try}

theorem reconnection_pauses : reconnection (pauses delay made) = pauses delay made := by
  rw [pauses]
  split
  · rfl
  · rfl

theorem reconnection_exchanges {t : Try} :
    reconnection (t.exchanges model made) = t.exchanges model made := by
  cases t with
  | missed e => rfl
  | met variant answer => rfl

theorem reconnection_searching :
    reconnection (searching model delay made tries) = searching model delay made tries := by
  induction tries generalizing made with
  | nil => rfl
  | cons t tries ih =>
      rw [searching, reconnection_append, reconnection_append, reconnection_pauses,
        reconnection_exchanges, ih]

/-- The tries are numbered one after the other. -/
theorem attempts_searching :
    attempts (searching model delay made tries) = List.range' (made + 1) tries.length := by
  induction tries generalizing made with
  | nil => rfl
  | cons t tries ih =>
      have hpauses : attempts (pauses delay made) = [] := by
        rw [pauses]
        split
        · rfl
        · rfl
      have htry : attempts (t.exchanges model (made + 1)) = [made + 1] := by
        cases t with
        | missed e => rfl
        | met variant answer => rfl
      rw [searching, attempts_append, attempts_append, hpauses, htry, ih, List.length_cons,
        List.range'_succ]
      rfl

theorem sleeps_exchanges {t : Try} : sleeps (t.exchanges model made) = [] := by
  cases t with
  | missed e => rfl
  | met variant answer => rfl

/-- After a first try there is a pause before each one. -/
theorem sleeps_searching_succ :
    sleeps (searching model delay (made + 1) tries) = List.replicate tries.length delay := by
  induction tries generalizing made with
  | nil => rfl
  | cons t tries ih =>
      have hpause : sleeps (pauses delay (made + 1)) = [delay] := rfl
      rw [searching, sleeps_append, sleeps_append, hpause, sleeps_exchanges, ih, List.length_cons,
        List.replicate_succ]
      rfl

theorem sleeps_searching :
    sleeps (searching model delay 0 tries) = List.replicate (tries.length - 1) delay := by
  cases tries with
  | nil => rfl
  | cons t tries =>
      have hpause : sleeps (pauses delay 0) = [] := rfl
      rw [searching, sleeps_append, sleeps_append, hpause, sleeps_exchanges, sleeps_searching_succ]
      rfl

end

/-! ## The place of a search -/

section

variable {primitives : Primitives} {settings : UpdateSettings} {target : UpdateTarget}
  {source : UpdateSource} {record : Record} {result : Except UpdateFailure UpdateOutcome}

/-- An update is over before the transition, or it goes through it and what is found there decides
on the rest. -/
inductive EnteredCourse (primitives : Primitives) (settings : UpdateSettings)
    (target : UpdateTarget) (source : UpdateSource) :
    Record → Except UpdateFailure UpdateOutcome → Prop where
  | refused {planning closing : Record} {e : UpdateError}
      {result : Except UpdateFailure UpdateOutcome}
      (hplan : Course (plan primitives settings target source).run planning (.error e))
      (hclosing : ∀ x ∈ closing, x.1 = .device .initial .close) :
      EnteredCourse primitives settings target source
        (told (.enter .versionCheck) :: (planning ++ closing)) result
  | entered {planning entering rest : Record} {p : Plan}
      {found : Except UpdateError (BootloaderRole × Variant)}
      {result : Except UpdateFailure UpdateOutcome}
      (hplan : Course (plan primitives settings target source).run planning (.ok p))
      (henter : Course (enterBootloader settings target).run entering found)
      (hfound : FoundCourse target found rest)
      (hlost : ∀ e, found = .error e → result = .error ⟨.bootloaderTransition, e⟩) :
      EnteredCourse primitives settings target source (leadUp planning entering ++ rest) result

theorem RunCourse.entered (h : RunCourse primitives settings target source record result) :
    EnteredCourse primitives settings target source record result := by
  cases h with
  | refused hplan hclosing => exact .refused hplan hclosing
  | @stranded planning entering p e hplan henter =>
      have hcourse : EnteredCourse primitives settings target source
          (leadUp planning entering ++ []) (.error ⟨.bootloaderTransition, e⟩) :=
        .entered hplan henter (.stranded e) (by rintro _ ⟨⟩; rfl)
      simpa [leadUp] using hcourse
  | @rejected planning entering validating p role variant e closed hplan henter hvalidate =>
      have hfound : FoundCourse target (.ok (role, variant)) _ :=
        .tried closed (isAttempt_of_validateImage hvalidate) .missed
      simpa [leadUp] using EnteredCourse.entered hplan henter hfound (by rintro _ ⟨⟩)
  | @unflashed planning entering validating flashing p role variant image migrations e closed h
      hflash =>
      have hfound : FoundCourse target (.ok (role, variant)) _ :=
        .tried closed (isAttempt_of_both (isAttempt_of_validateImage h.validate)
          (isAttempt_of_flash hflash)) .missed
      simpa [leadUp] using EnteredCourse.entered h.plan h.enter hfound (by rintro _ ⟨⟩)
  | @flashed planning entering validating flashing waiting p role variant image migrations status
      closed h hflash hwait =>
      have hfound : FoundCourse target (.ok (role, variant)) _ :=
        .tried closed (isAttempt_of_both (isAttempt_of_validateImage h.validate)
          (isAttempt_of_flash hflash)) (.waited hwait)
      simpa [leadUp] using EnteredCourse.entered h.plan h.enter hfound (by rintro _ ⟨⟩)

/-! ## Nothing is looked for elsewhere -/

section

variable {planning entering rest : Record} {p : Plan} {role : BootloaderRole} {variant : Variant}
  {found : Except UpdateError (BootloaderRole × Variant)}

theorem no_reconnect_of_plan {x : Except UpdateError Plan}
    (h : Course (plan primitives settings target source).run planning x) :
    ∀ y ∈ planning, y.1.isReconnect = false := by
  intro y hy
  have hfits := (WithinStep.plan primitives settings target source).asks h y hy
  exact Question.not_reconnect (hfits.sleepless (by decide)) (not_lookout_of_plan h y hy)

theorem sleepless_of_found (h : FoundCourse target found rest) : ∀ y ∈ rest, y.1.sleep? = none := by
  intro y hy
  cases h with
  | stranded e => cases hy
  | tried closed htrying hfinal =>
      simp only [List.mem_cons, List.mem_append] at hy
      rcases hy with rfl | hy | rfl | hy
      · rfl
      · exact (htrying y hy).sleepless
      · rfl
      · cases hfinal with
        | missed => cases hy
        | waited hwait =>
            rcases List.mem_cons.1 hy with rfl | hy
            · rfl
            · have hreturn := (WithinStep.finalize _ _ _).asks hwait y hy
              exact (Question.Fits.returning hreturn).sleepless (by decide)

theorem reconnection_entered
    (hplan : Course (plan primitives settings target source).run planning (.ok p))
    (hfound : FoundCourse target found rest) :
    reconnection (leadUp planning entering ++ rest) = reconnection entering := by
  have hplanning : reconnection planning = [] := reconnection_eq_nil (no_reconnect_of_plan hplan)
  have hrest : reconnection rest = [] := reconnection_eq_nil fun y hy =>
    Question.not_reconnect (sleepless_of_found hfound y hy) (not_lookout_of_found hfound y hy)
  calc
    reconnection (leadUp planning entering ++ rest)
        = reconnection (planning ++ told (.enter .bootloaderTransition) :: entering) := by
          rw [reconnection_append, hrest, List.append_nil, leadUp, reconnection_cons_of_other rfl]
    _ = reconnection entering := by
          rw [reconnection_append, hplanning, List.nil_append, reconnection_cons_of_other rfl]

/-- What follows the search deals with the bootloader that was found. -/
theorem role_of_found (h : FoundCourse target (.ok (role, variant)) rest) :
    (∀ other call, Asked rest (.bootloader other call) → other = role) ∧
      Asked rest (.bootloader role .close) := by
  cases h with
  | tried closed htrying hfinal =>
      refine ⟨?_, ⟨⟨.bootloader role .close, closed⟩, by simp, rfl⟩⟩
      rintro other call ⟨y, hy, hcall⟩
      simp only [List.mem_cons, List.mem_append] at hy
      rcases hy with rfl | hy | rfl | hy
      · cases hcall
      · have hattempt := htrying y hy
        rw [hcall] at hattempt
        cases hattempt with
        | migration h => cases h
        | flash image => rfl
        | bar h => cases h
      · cases hcall
        rfl
      · cases hfinal with
        | missed => cases hy
        | waited hwait =>
            rcases List.mem_cons.1 hy with rfl | hy
            · cases hcall
            · have hreturn := (WithinStep.finalize _ _ _).asks hwait y hy
              rw [hcall] at hreturn
              cases hreturn with
              | bar h => cases h

/-- Before that, bootloaders are only asked who they are. -/
theorem uuid_of_leadUp
    (hplan : Course (plan primitives settings target source).run planning (.ok p))
    (henter : Course (enterBootloader settings target).run entering found) {call : BootloaderCall}
    (h : Asked (leadUp planning entering) (.bootloader role call)) : call = .uuid := by
  obtain ⟨y, hy, hcall⟩ := h
  simp only [leadUp, List.mem_cons, List.mem_append] at hy
  rcases hy with rfl | hy | rfl | hy
  · cases hcall
  · have hbeyond :=
      ((WithinStep.plan primitives settings target source).asks hplan y hy).of_versionCheck.1
    rw [hcall] at hbeyond
    cases hbeyond
  · cases hcall
  · have hfits := (WithinStep.enterBootloader settings target).asks henter y hy
    rw [hcall] at hfits
    cases hfits with
    | search h =>
        cases h
        rfl

/-- After the command there is a pause, and then the search. -/
theorem reconnection_of_enterBootloader {model : Model}
    (h : Course (enterBootloader settings (.device model)).run entering found) :
    ∃ answer, ⟨.device .initial Admin.bootromCall, answer⟩ ∈ entering ∧
      ((∃ e, rebootResult answer = .error e ∧ reconnection entering = []) ∨
        ∃ tries, rebootResult answer = .ok () ∧
          reconnection entering = told (.sleep settings.config.settleDelay) ::
            searching model settings.config.retryDelay 0 tries ∧
          SearchEnd model 0 settings.config.retries none tries found) := by
  obtain ⟨answer, closing, _, rfl, hcases⟩ := course_enterBootloader_device settings h
  refine ⟨answer, by simp, ?_⟩
  rcases hcases with ⟨e, he, rfl, -⟩ | ⟨searched, hok, rfl, hsearch⟩
  · exact .inl ⟨e, he, rfl⟩
  · obtain ⟨tries, rfl, hend⟩ := searched_of_findBootloader hsearch
    refine .inr ⟨tries, hok, ?_, hend⟩
    exact congrArg (told (.sleep settings.config.settleDelay) :: ·) reconnection_searching

end

/-! ## Every update -/

/-- How an update looks for a bootloader, by its tries.  The pauses between them are those of
counted attempts. -/
structure Searched (config : UpdateConfig) (model : Model) (record : Record) (tries : List Try) :
    Prop where
  bounded : tries.length ≤ config.retries
  ordered : reconnection record =
    told (.sleep config.settleDelay) :: searching model config.retryDelay 0 tries
  awaited : timesAsked Question.isAwait record = tries.length
  slept : sleeps record = config.settleDelay :: List.replicate (tries.length - 1) config.retryDelay
  counted :
    (Retries.take tries.length { total := config.retries, pause := config.retryDelay }).2.1 =
      List.replicate (tries.length - 1) config.retryDelay

/-- What becomes of the tries, and of the update. -/
inductive Reconnected (config : UpdateConfig) (model : Model) (record : Record) :
    List Try → Except UpdateError UpdateOutcome → Prop where
  | found {failed : List Try} {t : Try} {variant : Variant}
      {result : Except UpdateError UpdateOutcome} (hfailed : ∀ f ∈ failed, ∃ e, f.result = .error e)
      (ht : t.result = .ok variant) (hused : ∀ role call, Asked record (.bootloader role call) →
        call = .uuid ∨ role = .attempt (failed.length + 1))
      (hclosed : Asked record (.bootloader (.attempt (failed.length + 1)) .close)) :
      Reconnected config model record (failed ++ [t]) result
  | unreachable {tries : List Try} {last : Option DeviceError}
      (hall : tries.length = config.retries) (hfailed : ∀ t ∈ tries, ∃ e, t.result = .error e)
      (hlast : tries.getLast?.map Try.result = last.map .error)
      (hnone : last = none ↔ config.retries = 0)
      (hunflashed : timesAsked Question.isFlash record = 0) :
      Reconnected config model record tries
        (.error (.bootloaderUnreachable model config.retries last))

theorem SearchEnd.bounded {model : Model} {made remaining : Nat} {last : Option DeviceError}
    {tries : List Try} {found : Except UpdateError (BootloaderRole × Variant)}
    (h : SearchEnd model made remaining last tries found) : tries.length ≤ remaining := by
  cases h with
  | found hbound =>
      rw [List.length_append, List.length_singleton]
      exact hbound
  | exhausted hall => exact hall.le

theorem searched_of_reconnection {config : UpdateConfig} {model : Model} {tries : List Try}
    (hbounded : tries.length ≤ config.retries)
    (h : reconnection record =
      told (.sleep config.settleDelay) :: searching model config.retryDelay 0 tries) :
    Searched config model record tries where
  bounded := hbounded
  ordered := h
  awaited :=
    calc
      timesAsked Question.isAwait record = (attempts record).length := timesAsked_isAwait
      _ = (attempts (searching model config.retryDelay 0 tries)).length := by
        rw [← attempts_reconnection, h]
        rfl
      _ = tries.length := by
        rw [attempts_searching, List.length_range']
  slept := by
    rw [← sleeps_reconnection, h, ← sleeps_searching]
    rfl
  counted := by
    rw [Retries.take_eq _ _ ((Nat.zero_add _).trans_le hbounded)]
    rfl

/-- The attempts in the record, and the pauses between them, are those that are counted. -/
theorem Searched.by_retries {config : UpdateConfig} {model : Model} {tries : List Try}
    (h : Searched config model record tries) :
    let taken := Retries.take tries.length { total := config.retries, pause := config.retryDelay }
    attempts record = taken.1.map (·.index + 1) ∧
      sleeps record = config.settleDelay :: taken.2.1 := by
  intro taken
  constructor
  · have htaken : taken.1 = (List.range' 0 tries.length).map fun i => ⟨i, config.retries⟩ := by
      have htake := Retries.take_eq tries.length
        { total := config.retries, pause := config.retryDelay }
        ((Nat.zero_add _).trans_le h.bounded)
      exact congrArg Prod.fst htake
    calc
      attempts record = attempts (reconnection record) := attempts_reconnection.symm
      _ = List.range' 1 tries.length := by
        rw [h.ordered]
        exact attempts_searching
      -- Tries are numbered from one, and attempts from zero.
      _ = (List.range' 0 tries.length).map (1 + ·) := (List.map_add_range' 0 tries.length 1).symm
      _ = taken.1.map (·.index + 1) := by
        rw [htaken, List.map_map]
        exact List.map_congr_left fun i _ => Nat.add_comm 1 i
  · rw [h.slept, ← h.counted]

theorem reconnected_of_entered {model : Model} {planning entering rest : Record} {p : Plan}
    {found : Except UpdateError (BootloaderRole × Variant)} {tries : List Try}
    (hplan : Course (plan primitives settings target source).run planning (.ok p))
    (henter : Course (enterBootloader settings target).run entering found)
    (hfound : FoundCourse target found rest)
    (hlost : ∀ e, found = .error e → result = .error ⟨.bootloaderTransition, e⟩)
    (hend : SearchEnd model 0 settings.config.retries none tries found) :
    Reconnected settings.config model (leadUp planning entering ++ rest) tries
      (result.mapError UpdateFailure.error) := by
  cases hend with
  | @found failed t variant hbound hfailed ht =>
      rw [Nat.zero_add] at hfound
      obtain ⟨hrole, y, hy, hclosed⟩ := role_of_found hfound
      refine .found hfailed ht ?_ ⟨y, List.mem_append_right _ hy, hclosed⟩
      rintro role call ⟨z, hz, hcall⟩
      rcases List.mem_append.1 hz with hz | hz
      · exact .inl (uuid_of_leadUp hplan henter ⟨z, hz, hcall⟩)
      · exact .inr (hrole role call ⟨z, hz, hcall⟩)
  | exhausted hall hfailed =>
      obtain rfl := hlost _ rfl
      cases hfound with
      | stranded e =>
          have hlast : tries.getLast?.map Try.result = (lastError none tries).map .error := by
            cases tries with
            | nil => rfl
            | cons t tries => exact map_getLast?_eq (List.cons_ne_nil t tries) hfailed
          have hnone : lastError none tries = none ↔ settings.config.retries = 0 := by
            rw [← Option.map_eq_none_iff, ← hlast, Option.map_eq_none_iff,
              List.getLast?_eq_none_iff, ← hall, List.length_eq_zero_iff]
          have hunflashed : timesAsked Question.isFlash (leadUp planning entering ++ []) = 0 := by
            simp [leadUp, no_flash_of_plan hplan, no_flash_of_enterBootloader henter, told,
              Question.isFlash]
          rw [Nat.zero_add]
          exact .unreachable hall hfailed hlast hnone hunflashed

theorem EnteredCourse.of_refused {planning closing : Record} {e : UpdateError}
    (hplan : Course (plan primitives settings target source).run planning (.error e))
    (hclosing : ∀ x ∈ closing, x.1 = .device .initial .close) :
    ∀ y ∈ told (.enter .versionCheck) :: (planning ++ closing),
      y.1.isReconnect = false ∧ y.1.isBootromCommand = false := by
  intro y hy
  rcases List.mem_cons.1 hy with rfl | hy
  · exact ⟨rfl, rfl⟩
  rcases List.mem_append.1 hy with hy | hy
  · exact ⟨no_reconnect_of_plan hplan y hy, (quiet_planning hplan y hy).2⟩
  · rw [hclosing y hy]
    exact ⟨rfl, rfl⟩

/-- With a bootloader at hand, none is looked for. -/
theorem EnteredCourse.reconnection_bootloader {model : Model} {variant : Variant}
    (h : EnteredCourse primitives settings (.bootloader model variant) source record result) :
    reconnection record = [] := by
  cases h with
  | refused hplan hclosing =>
      exact reconnection_eq_nil fun y hy => (of_refused hplan hclosing y hy).1
  | entered hplan henter hfound hlost =>
      obtain ⟨rfl, -⟩ := (course_enterBootloader_bootloader settings).1 henter
      exact reconnection_entered hplan hfound

/-- The answer to the command decides whether there is a search. -/
theorem EnteredCourse.reconnection_device {model : Model}
    (h : EnteredCourse primitives settings (.device model) source record result)
    (honce : timesAsked Question.isBootromCommand record ≤ 1) :
    (reconnection record = [] ∧ ∀ role answer, ⟨.device role Admin.bootromCall, answer⟩ ∈ record →
        rebootResult answer ≠ .ok ()) ∨
      ∃ answer tries, ⟨.device .initial Admin.bootromCall, answer⟩ ∈ record ∧
        rebootResult answer = .ok () ∧ Searched settings.config model record tries ∧
        Reconnected settings.config model record tries (result.mapError UpdateFailure.error) := by
  cases h with
  | refused hplan hclosing =>
      have hquiet := of_refused hplan hclosing
      refine .inl ⟨reconnection_eq_nil fun y hy => (hquiet y hy).1, ?_⟩
      intro role answer hsent
      cases (hquiet _ hsent).2
  | @entered planning entering rest p found _ hplan henter hfound hlost =>
      obtain ⟨answer, hmem, hcases⟩ := reconnection_of_enterBootloader henter
      have hsent :
          ⟨.device .initial Admin.bootromCall, answer⟩ ∈ leadUp planning entering ++ rest := by
        simp [leadUp, hmem]
      rw [← reconnection_entered hplan hfound] at hcases
      rcases hcases with ⟨e, he, hnone⟩ | ⟨tries, hok, hordered, hend⟩
      · refine .inl ⟨hnone, ?_⟩
        intro role answer' hsent' hok
        -- The command is sent once only.
        cases eq_of_timesAsked_le_one honce hsent hsent' rfl rfl
        cases he.symm.trans hok
      · exact .inr ⟨answer, tries, hsent, hok, searched_of_reconnection hend.bounded hordered,
          reconnected_of_entered hplan henter hfound hlost hend⟩

end

/-- An update that starts with a device makes up to as many tries as its settings say, the last of
which is the first one that succeeds; if none does, the update fails with the last error.  There are
no tries and no pauses unless the device was sent into its bootloader. -/
theorem bounded_reconnect {σ : Type} (primitives : Primitives) (u : Updater) (target : UpdateTarget)
    (source : UpdateSource) (w : Surroundings Question.Answer σ) (s : σ) :
    let outcome := (u.update primitives target source).run w s
    (∀ model variant, target = .bootloader model variant → reconnection outcome.record = []) ∧
      ∀ model, target = .device model →
        ((∀ role (answer : Except DeviceError Bytes),
            ⟨.device role Admin.bootromCall, answer⟩ ∈ outcome.record →
              ∃ cause, answer = .error cause ∧ ¬ Tolerated cause) →
          reconnection outcome.record = []) ∧
        ∀ role (answer : Except DeviceError Bytes),
          ⟨.device role Admin.bootromCall, answer⟩ ∈ outcome.record →
            (∀ cause, answer = .error cause → Tolerated cause) →
            ∃ tries, Searched u.settings.config model outcome.record tries ∧
              Reconnected u.settings.config model outcome.record tries outcome.result.2 := by
  intro outcome
  obtain ⟨result, hrun, hresult⟩ : ∃ result,
      RunCourse primitives u.settings target source outcome.record result ∧
        outcome.result = ({ u with state := .after result }, result.mapError UpdateFailure.error) :=
    runCourse_of_update u w s
  constructor
  · rintro model variant rfl
    exact hrun.entered.reconnection_bootloader
  · rintro model rfl
    have hcases := hrun.entered.reconnection_device hrun.bootrom_once
    rw [hresult]
    constructor
    · intro hfatal
      rcases hcases with ⟨hnone, -⟩ | ⟨answer, tries, hsent, hok, -⟩
      · exact hnone
      · obtain ⟨cause, rfl, hcause⟩ := hfatal _ answer hsent
        exact absurd (rebootResult_eq_ok_iff.1 hok cause rfl) hcause
    · intro role answer hsent htolerated
      rcases hcases with ⟨-, hnone⟩ | ⟨_, tries, -, -, hsearched, hreconnected⟩
      · exact absurd (rebootResult_eq_ok_iff.2 htolerated) (hnone role answer hsent)
      · exact ⟨tries, hsearched, hreconnected⟩

/-! ## A bootloader at the third try -/

namespace Trial

/-- First no bootloader comes, and the next one does not answer. -/
def elusive : Surroundings Question.Answer Unit :=
  fun s q =>
    match q with
    | .awaitBootloader _ 1 => (.error .unconfirmed, s)
    | .bootloader (.attempt 2) .uuid => (.error .unconfirmed, s)
    | q => Scene.surroundings {} s q

def elusiveRun : Outcome Question.Answer Unit (Updater × Except UpdateError UpdateOutcome) :=
  (updater.update primitives (.device .nk3) (.bytes [0])).run elusive ()

end Trial

theorem bounded_reconnect_trial :
    ⟨.device .initial Admin.bootromCall, .ok []⟩ ∈ Trial.elusiveRun.record ∧
      sleeps Trial.elusiveRun.record = [1000, 500, 500] ∧
      Asked Trial.elusiveRun.record (.bootloader (.attempt 3) (.update [2])) ∧
      ∃ tries, Searched {} .nk3 Trial.elusiveRun.record tries ∧
        Reconnected {} .nk3 Trial.elusiveRun.record tries Trial.elusiveRun.result.2 := by
  have hsent : ⟨.device .initial Admin.bootromCall, .ok []⟩ ∈ Trial.elusiveRun.record :=
    List.mem_of_getElem? (i := 7) rfl
  obtain ⟨-, hdevice⟩ :=
    bounded_reconnect Trial.primitives Trial.updater (.device .nk3) (.bytes [0]) Trial.elusive ()
  have hsearch := (hdevice .nk3 rfl).2 .initial (.ok []) hsent nofun
  exact ⟨hsent, by decide +kernel, by decide +kernel, hsearch⟩

end Update
end Reflash
