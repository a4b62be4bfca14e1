import Reflash.Proofs.Command.Endings

/-!
# Command.Documents — output for scripts

A command prints its answer, and the tool prints the error in the end unless the answer tells of it.
With `--json` a script is to find one document, whatever happens, and what the document tells is to
fit the exit code.

* `Json.Tells` — a document tells of an exit code;
* `CommandResult.Sound` — the answer and the error of a command fit together;
* `sound_perform` — every command without a server comes to such a result;
* `document_tells_exit_code` — one document, which tells of the exit code, and what the exit code
  stands for.
-/

namespace Reflash

/-! ## Members -/

section

variable {name : String} {value : Json} {members : List (String × Json)}

theorem Json.member?_object_of_notMem (h : name ∉ members.map Prod.fst) :
    (Json.object members).member? name = none := by
  rw [Json.object, Json.member?, Option.map_eq_none_iff, List.find?_eq_none]
  intro m hm hname
  obtain ⟨member, hmem, rfl⟩ := List.mem_map.1 (List.mem_reverse.1 hm)
  exact h (List.mem_map.2 ⟨member, hmem, by simpa using hname⟩)

theorem Json.member?_object_cons (h : name ∉ members.map Prod.fst) :
    (Json.object ((name, value) :: members)).member? name = some value := by
  have hrest := Json.member?_object_of_notMem h
  rw [Json.object, Json.member?, Option.map_eq_none_iff] at hrest
  rw [Json.object, Json.member?, List.map_cons, List.reverse_cons, List.find?_append, hrest]
  simp

end

/-- A document tells whether the exit code is that of a success.  If it has an error, then with this
exit code. -/
structure Json.Tells (d : Json) (number : Nat) : Prop where
  success : d.member? "success" = some (.bool (number = 0))
  exitCode : ∀ e, d.member? "error" = some e → e.member? "exit_code" = some (.nat number)

theorem Answer.tells_of_report {number : Nat} {isSuccess : Bool} {members : List (String × Json)}
    (hsuccess : "success" ∉ members.map Prod.fst) (herror : "error" ∉ members.map Prod.fst)
    (h : isSuccess = decide (number = 0)) : (Answer.report isSuccess members).Tells number where
  success := by rw [Answer.report, Json.member?_object_cons hsuccess, h]
  exitCode := by
    have hnone : (Answer.report isSuccess members).member? "error" = none :=
      Json.member?_object_of_notMem (by simpa using herror)
    rw [hnone]
    rintro e ⟨⟩

/-- The document looks at all reports, and the exit code at the number of those with an error. -/
theorem Answer.tells_of_container {m : Model} {v : Version} {reports : List Answer.ImageReport}
    {number : Nat} (h : reports.countP (·.error.isSome) = 0 ↔ number = 0) :
    (Answer.container m v reports).document.Tells number := by
  have hcount : reports.all (·.error.isNone) = decide (reports.countP (·.error.isSome) = 0) := by
    rw [Bool.eq_iff_iff, decide_eq_true_iff, List.all_eq_true, List.countP_eq_zero]
    exact forall₂_congr fun r _ => by cases r.error <;> simp
  exact Answer.tells_of_report (by simp) (by simp) (by rw [hcount, decide_eq_decide.2 h])

theorem ExitCode.ofCategory_ne_success (c : Category) : ExitCode.ofCategory c ≠ .success := by
  cases c with
  | _ => nofun

/-- The failure of an update is known, so that its causes do not count. -/
theorem CommandError.exitCode_update {error : UpdateError} (h : error ≠ .aborted) :
    (CommandError.update error).exitCode = .ofCategory error.category := by
  cases error with
  | aborted => exact absurd rfl h
  | _ => rfl

/-- No error exits like a success. -/
theorem CommandError.number_ne_zero (e : CommandError) : e.exitCode.number ≠ 0 := by
  have hnumber : ∀ code : ExitCode, code ≠ .success → code.number ≠ 0 := by
    intro code hcode
    cases code with
    | success => exact absurd rfl hcode
    | _ => nofun
  refine hnumber _ ?_
  -- Only the failure of an update goes by what kind of failure that is.
  cases e with
  | update error =>
      by_cases haborted : error = .aborted
      · rw [haborted]
        nofun
      · rw [CommandError.exitCode_update haborted]
        exact ExitCode.ofCategory_ne_success _
  | _ => nofun

theorem CommandError.tells (e : CommandError) : e.document.Tells e.exitCode.number where
  success := by
    rw [CommandError.document, Json.member?_object_cons (by simp), decide_eq_false e.number_ne_zero]
  exitCode := by
    rintro error herror
    obtain rfl : error = _ := (Option.some.inj herror).symm
    rfl

/-! ## Results -/

namespace CommandResult

/-- The answer and the error of a command fit together. -/
inductive Sound : CommandResult → Prop where
  | answered {a : Answer} {shown : List String} (h : a.document.Tells 0) :
      Sound { answer := some a, shown }
  | reported {a : Answer} {e : CommandError} {shown : List String} (hreported : e.isReported = true)
      (h : a.document.Tells e.exitCode.number) : Sound { answer := some a, error := some e, shown }
  | failed {e : CommandError} {shown : List String} (hreported : e.isReported = false) :
      Sound { error := some e, shown }

section

variable {r : CommandResult}

/-- One of the two is printed, and it tells of the exit code. -/
theorem printed_of_sound (h : r.Sound) : ∃ d, r.printed = [d] ∧ d.Tells r.number := by
  cases h with
  | @answered a shown h => exact ⟨a.document, rfl, h⟩
  | @reported a e shown hreported h =>
      have hanswer : CommandResult.printed ⟨some a, some e, shown⟩ = [a.document] := by
        simp [printed, hreported]
      exact ⟨a.document, hanswer, h⟩
  | @failed e shown hreported =>
      have herror : CommandResult.printed ⟨none, some e, shown⟩ = [e.document] := by
        simp [printed, hreported]
      exact ⟨e.document, herror, e.tells⟩

end

end CommandResult

namespace Invocation

section

variable (primitives : Primitives) (environment : Environment)

/-! ## Commands -/

theorem not_reported_of_readContainer {primitives : Primitives} {environment : Environment}
    {path : String} {model : Model} {e : CommandError}
    (h : readContainer primitives environment path model = .error e) :
    e.isReported = false := by
  have hnone : ∀ container, ¬ Loads primitives environment path model container := by
    intro container hloads
    rw [readContainer_eq_ok_iff.2 hloads] at h
    cases h
  obtain ⟨e', he'⟩ := readContainer_of_not_loads hnone
  rw [h] at he'
  cases he'
  rfl

/-- The report of a container tells of a success if no image is counted as invalid. -/
theorem sound_verify (path : String) (model : Model) :
    (verify primitives environment path model).Sound := by
  rw [verify]
  split
  next e he => exact .failed (not_reported_of_readContainer he)
  next container _ =>
    dsimp only
    split
    next hnone => exact .answered (Answer.tells_of_container (iff_of_true hnone rfl))
    next hsome =>
      exact .reported rfl
        (Answer.tells_of_container (iff_of_false hsome (CommandError.number_ne_zero _)))

theorem sound_inspect (path : String) (variant : Option Variant) (model : Model) :
    (CommandResult.ofExcept (inspect primitives environment path variant model)).Sound := by
  by_cases h : ∃ v, Determines path variant v
  · obtain ⟨v, hvariant⟩ := h
    rw [inspect_of_determines hvariant]
    cases environment.file path with
    | error fault => exact .failed rfl
    | ok data =>
        rw [Except.mapError, Result.ok_bind]
        cases Image.parse primitives v data model.anchors with
        | error e => exact .failed rfl
        | ok info => exact .answered (Answer.tells_of_report (by simp [Answer.infoMembers])
            (by simp [Answer.infoMembers]) rfl)
  · rw [inspect_of_undetermined (not_exists.1 h)]
    exact .failed rfl

theorem sound_migrations (model : Model) (variant : Variant) (current : Option Version)
    (new : Version) (s : Migrations) :
    (CommandResult.answered (Answer.migrations model variant current new s)).Sound :=
  .answered (Answer.tells_of_report (by simp) (by simp) rfl)

theorem sound_check (terminal : Terminal) (path : String) (model : Model) (current : Option Version)
    (config : UpdateConfig) :
    (check primitives environment terminal path model current config).Sound := by
  rw [check]
  split
  next e he => exact .failed (not_reported_of_readContainer he)
  next container _ =>
    split
    · exact .answered (Answer.tells_of_report (by simp) (by simp) rfl)
    · exact .failed rfl

theorem sound_perform (i : Invocation) (hlocal : i.command.isLocal = true) :
    (i.perform primitives environment).Sound := by
  obtain ⟨options, command⟩ := i
  cases command with
  | verify path model => exact sound_verify primitives environment path model
  | image path variant model => exact sound_inspect primitives environment path variant model
  | migrations model variant current new => exact sound_migrations model variant current new _
  | check path model current ignored ignoreClientVersion assumeYes =>
      exact sound_check primitives environment _ path model current _
  | download model tag directory mayReplace assumeYes => cases hlocal
  | completion shell => cases hlocal

end

/-! ## Reports -/

/-- A verification succeeds exactly if the container loads and all its images are valid. -/
theorem ending_verify_zero_iff {primitives : Primitives} {environment : Environment} {path : String}
    {model : Model} :
    Ending primitives environment (.verify path model) 0 ↔
      ∃ container, Loads primitives environment path model container ∧
        ∀ image ∈ container.images, Valid primitives model container.version image := by
  constructor
  · intro h
    cases h with
    | valid h hvalid => exact ⟨_, h, hvalid⟩
  · rintro ⟨container, h, hvalid⟩
    exact .valid h hvalid

/-- With `--json` a command without a server prints one document, which tells of the exit code.  The
exit code is that of the way in which the command ends, and a verification exits like a success only
if there is nothing wrong with the container and its images. -/
theorem document_tells_exit_code (primitives : Primitives) (environment : Environment)
    (i : Invocation) (hjson : i.options.json = true) (hlocal : i.command.isLocal = true) :
    let report := i.run primitives environment
    (∃ d, (i.perform primitives environment).printed = [d] ∧ report.output = .document d ∧
        d.Tells report.exitCode.number) ∧
      (∀ n, report.exitCode.number = n ↔ Ending primitives environment i.command n) ∧
      ∀ path model, i.command = .verify path model →
        (report.exitCode.number = 0 ↔
          ∃ container, Loads primitives environment path model container ∧
            ∀ image ∈ container.images, Valid primitives model container.version image) := by
  intro report
  have hsound := sound_perform primitives environment i hlocal
  have hending : ∀ n, report.exitCode.number = n ↔ Ending primitives environment i.command n :=
    fun n => number_of_run_iff hlocal
  obtain ⟨d, hprinted, htells⟩ := CommandResult.printed_of_sound hsound
  refine ⟨⟨d, hprinted, ?output, ?tells⟩, hending, ?verification⟩
  case output =>
    have hform : report.output = .ofDocuments (i.perform primitives environment).printed := by
      simp only [report, run_of_local hlocal, hjson]
      rfl
    rw [hform, hprinted]
    rfl
  case tells =>
    simp only [report, number_of_run hlocal]
    exact htells
  case verification =>
    intro path model hcommand
    rw [hending, hcommand]
    exact ending_verify_zero_iff

/-- A container with an image of a test signer, and the firmware of this container installed. -/
theorem document_tells_exit_code_trial :
    let verified : Invocation := ⟨{ json := true }, .verify "firmware.zip" .nk3⟩
    let checked : Invocation :=
      ⟨{ json := true }, .check "firmware.zip" .nk3 (some (.ofPacked 0x400202)) [] false false⟩
    let report (i : Invocation) := i.run Update.Trial.primitives Trial.environment
    (∃ d, (report verified).output = .document d ∧ d.Tells 4) ∧
      ∃ d, (report checked).output = .document d ∧ d.Tells 7 := by
  intro verified checked report
  obtain ⟨⟨d, -, hd, htells⟩, -⟩ :=
    document_tells_exit_code Update.Trial.primitives Trial.environment verified rfl rfl
  obtain ⟨⟨d', -, hd', htells'⟩, hending, -⟩ :=
    document_tells_exit_code Update.Trial.primitives Trial.environment checked rfl rfl
  have hverified : (report verified).exitCode.number = 4 := by rfl
  have hchecked : (report checked).exitCode.number = 7 := by
    have hagain : Reinstalls (some (.ofPacked 0x400202)) ⟨1, 8, 2, none, none, true⟩
        (.ofPacked 0x400202) := ⟨_, rfl, by decide, by decide, by decide⟩
    exact (hending 7).2 (.checked ⟨[0], rfl, rfl⟩ (.reinstall hagain fun h => h.elim nofun nofun))
  exact ⟨⟨d, hd, hverified ▸ htells⟩, d', hd', hchecked ▸ htells'⟩

end Invocation
end Reflash
