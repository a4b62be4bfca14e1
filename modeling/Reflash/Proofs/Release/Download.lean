import Reflash.Proofs.Lists
import Reflash.Proofs.Update.FlashGate
import Reflash.Release.Download

/-!
# Release.Download — where a download goes, and what it changes

* `Asset.Parted url front name rest` — an address is the way to the last name of its path, that
  name, and a query or a fragment;
* `Asset.fileName?_eq_some_iff`, `Asset.fileName?_eq_none_iff` — which name is found in it, and when
  none is;
* `Files.Replaced before path content after` — nothing but the content of a path has changed;
* `Download.Target`, `Download.Refused` — the path that an asset goes to, and why it goes nowhere;
* `Download.course_toDirectory` — a download is refused without a question, or asks for the asset
  once and then fails, cannot be written or is written;
* `Download.changes_only_target` — so that files are changed by nothing but a download that
  succeeds, and then only the one that it gives.
-/

namespace Reflash

/-! ## The name in an address -/

namespace Asset

/-- The path goes on: neither a query nor a fragment starts with the character. -/
def InPath (c : Char) : Prop :=
  c ≠ '?' ∧ c ≠ '#'

instance : DecidablePred InPath := fun c =>
  inferInstanceAs (Decidable (c ≠ '?' ∧ c ≠ '#'))

structure Parted (url front name rest : List Char) : Prop where
  parts : url = front ++ name ++ rest
  /-- The way to the name ends with a slash, if there is any. -/
  front_last : ∀ c ∈ front.getLast?, c = '/'
  front_inPath : ∀ c ∈ front, InPath c
  name_plain : ∀ c ∈ name, c ≠ '/' ∧ InPath c
  rest_head : ∀ c ∈ rest.head?, ¬ InPath c

variable {s url front name rest : List Char}

/-- The address without its query and its fragment. -/
def path (url : List Char) : List Char :=
  url.takeWhile (InPath ·)

theorem fileName?_eq (a : Asset) :
    a.fileName? = if lastPart (path a.url.toList) = [] then none
      else some (String.ofList (lastPart (path a.url.toList))) :=
  rfl

theorem path_eq_iff :
    path url = s ↔ ∃ rest, url = s ++ rest ∧ (∀ c ∈ s, InPath c) ∧
      ∀ c ∈ rest.head?, ¬ InPath c := by
  rw [path, Lists.takeWhile_eq_iff]
  simp

/-- The last part of a path is its longest end without a slash. -/
theorem lastPart_eq_iff :
    lastPart s = name ↔ ∃ front, s = front ++ name ∧ (∀ c ∈ front.getLast?, c = '/') ∧
      '/' ∉ name := by
  rw [lastPart, List.reverse_eq_iff, Lists.takeWhile_eq_iff]
  constructor
  · rintro ⟨back, hback, hname, hmark⟩
    have hparts : s = back.reverse ++ name := by
      calc
        s = s.reverse.reverse := s.reverse_reverse.symm
        _ = back.reverse ++ name := by simp [hback]
    have hslash : '/' ∉ name := fun hmem => by
      simpa using hname '/' (List.mem_reverse.2 hmem)
    refine ⟨back.reverse, hparts, ?_, hslash⟩
    intro c hc
    have hc : c ∈ back.head? := by rwa [List.getLast?_reverse] at hc
    simpa using hmark c hc
  · rintro ⟨front, rfl, hmark, hslash⟩
    refine ⟨front.reverse, List.reverse_append, ?_, ?_⟩
    · intro c hc
      have hne : c ≠ '/' := fun h => hslash (h ▸ List.mem_reverse.1 hc)
      exact decide_eq_true hne
    · intro c hc
      have hc : c ∈ front.getLast? := by rwa [List.head?_reverse] at hc
      simpa using hmark c hc

/-- An address has exactly one name at the end of its path, which may be empty. -/
theorem parted_iff :
    (∃ front rest, Parted url front name rest) ↔ lastPart (path url) = name := by
  constructor
  · rintro ⟨front, rest, h⟩
    -- The path ends where the name does, as the query and the fragment start with their marks.
    have hpath : path url = front ++ name := by
      apply path_eq_iff.2
      refine ⟨rest, h.parts, ?_, h.rest_head⟩
      intro c hc
      rcases List.mem_append.1 hc with hc | hc
      · exact h.front_inPath c hc
      · exact (h.name_plain c hc).2
    have hslash : '/' ∉ name := fun hmem => (h.name_plain '/' hmem).1 rfl
    exact lastPart_eq_iff.2 ⟨front, hpath, h.front_last, hslash⟩
  · intro h
    obtain ⟨rest, hurl, hpath, hrest⟩ := path_eq_iff.1 (rfl : path url = path url)
    obtain ⟨front, hparts, hmark, hslash⟩ := lastPart_eq_iff.1 h
    have hin (c : Char) (hc : c ∈ front ++ name) : InPath c := hpath c (hparts ▸ hc)
    refine ⟨front, rest, ?_, hmark, ?_, ?_, hrest⟩
    · rw [← hparts]
      exact hurl
    · intro c hc
      exact hin c (List.mem_append_left name hc)
    · intro c hc
      have hne : c ≠ '/' := fun hc' => hslash (hc' ▸ hc)
      exact ⟨hne, hin c (List.mem_append_right front hc)⟩

theorem fileName?_eq_some_iff {a : Asset} {name : String} :
    a.fileName? = some name ↔
      name ≠ "" ∧ ∃ front rest, Parted a.url.toList front name.toList rest := by
  rw [parted_iff, fileName?_eq]
  have hempty : name ≠ "" ↔ name.toList ≠ [] := by simp
  rw [hempty]
  split
  next hnone =>
    rw [hnone]
    constructor
    · intro h
      cases h
    · rintro ⟨hne, heq⟩
      exact absurd heq.symm hne
  next hsome =>
    constructor
    · intro h
      obtain rfl := Option.some.inj h
      rw [String.toList_ofList]
      exact ⟨hsome, rfl⟩
    · rintro ⟨-, heq⟩
      rw [heq, String.ofList_toList]

/-- Nothing is named if the path is empty or ends with a slash. -/
theorem fileName?_eq_none_iff {a : Asset} :
    a.fileName? = none ↔ ∃ front rest, Parted a.url.toList front [] rest := by
  rw [parted_iff, fileName?_eq]
  split
  next hnone => exact iff_of_true rfl hnone
  next hsome => exact iff_of_false (by simp) hsome

example : fileName? ⟨"v1", "https://a.example/b/file.zip?to=/c#/d"⟩ = some "file.zip" := by decide

example : fileName? ⟨"v1", "https://a.example/b/?file.zip"⟩ = none := by decide

end Asset

/-! ## Writing files -/

namespace Files

variable {files after : Files} {path : String} {content : Bytes}

structure Replaced (before : Files) (path : String) (content : Bytes) (after : Files) : Prop where
  written : after path = some (.file content)
  others : ∀ p, p ≠ path → after p = before p

/-- A file can be written at a path unless its name is out of the question or a directory is
there. -/
structure Writable (files : Files) (path : String) : Prop where
  nameable : pathFault? path = none
  notDirectory : files path ≠ some .directory

theorem pathFault?_eq_none_iff :
    pathFault? path = none ↔
      '\x00' ∉ path.toList ∧ path.utf8ByteSize < 4096 ∧
        ∀ part ∈ path.toList.splitOn '/', (String.ofList part).utf8ByteSize ≤ 255 := by
  rw [pathFault?]
  by_cases hnul : '\x00' ∈ path.toList
  · simp [hnul]
  by_cases hlong : 4096 ≤ path.utf8ByteSize
  · simp [hnul, hlong]
  · have hshort : path.utf8ByteSize < 4096 := Nat.lt_of_not_le hlong
    simp [hnul, hlong, hshort]

theorem Replaced.unique {after' : Files} (h : Replaced files path content after)
    (h' : Replaced files path content after') : after = after' := by
  funext p
  by_cases hp : p = path
  · rw [hp, h.written, h'.written]
  · rw [h.others p hp, h'.others p hp]

theorem replaced_update :
    Replaced files path content fun p => if p = path then some (.file content) else files p where
  written := if_pos rfl
  others _ hp := if_neg hp

theorem write_of_writable (h : Writable files path) :
    files.write path content = .ok fun p => if p = path then some (.file content) else files p := by
  rw [write, h.nameable]
  dsimp only
  split
  next hthere => exact absurd hthere h.notDirectory
  next => rfl

theorem writable_of_write (h : files.write path content = .ok after) : Writable files path := by
  rw [write] at h
  cases hfault : pathFault? path with
  | some fault =>
      rw [hfault] at h
      cases h
  | none =>
      refine ⟨hfault, fun hthere => ?_⟩
      rw [hfault, hthere] at h
      cases h

theorem write_eq_ok_iff :
    files.write path content = .ok after ↔
      Writable files path ∧ Replaced files path content after := by
  constructor
  · intro h
    have hwritable := writable_of_write h
    have hafter := Except.ok.inj ((write_of_writable hwritable).symm.trans h)
    exact ⟨hwritable, hafter ▸ replaced_update⟩
  · rintro ⟨hwritable, hreplaced⟩
    -- Nothing but the content of the path is left open, so that the outcome is the only one of its
    -- kind.
    rw [hreplaced.unique replaced_update]
    exact write_of_writable hwritable

end Files

namespace Download

open Dialogue
open Update (Progress Question Record told)

/-! ## Where a download goes -/

section

variable (files : Files) (asset : Asset) (directory : String) (mayReplace : Bool)

/-- An asset goes to the file of its name in the directory, which is not there yet or may be
replaced. -/
structure Target (path : String) : Prop where
  directory_there : files directory = some .directory
  named : ∃ name, asset.fileName? = some name ∧ path = Files.join directory name
  free : mayReplace = false → files path = none

/-- The first check that fails, out of four that are made in this order. -/
inductive Refused : ReleaseError → Prop where
  | missing (hdirectory : files directory = none) :
      Refused (.transfer s!"Directory {directory} does not exist")
  | notDirectory {content : Bytes} (hdirectory : files directory = some (.file content)) :
      Refused (.transfer s!"{directory} is not a directory")
  | unnamed (hdirectory : files directory = some .directory) (hname : asset.fileName? = none) :
      Refused (.transfer s!"No file name in URL {asset.url}")
  | taken {name : String} (hdirectory : files directory = some .directory)
      (hname : asset.fileName? = some name) (hthere : files (Files.join directory name) ≠ none)
      (hkeep : mayReplace = false) :
      Refused (.exists (Files.join directory name))

/-- What stands against a download, in no order. -/
def Barred : Prop :=
  files directory ≠ some .directory ∨ asset.fileName? = none ∨
    ∃ name, asset.fileName? = some name ∧ files (Files.join directory name) ≠ none ∧
      mayReplace = false

end

variable {files : Files} {asset : Asset} {directory : String} {mayReplace : Bool} {path : String}
  {e : ReleaseError}

theorem refused_or_target (files : Files) (asset : Asset) (directory : String) (mayReplace : Bool) :
    (∃ e, targetPath files asset directory mayReplace = .error e ∧
        Refused files asset directory mayReplace e) ∨
      ∃ path, targetPath files asset directory mayReplace = .ok path ∧
        Target files asset directory mayReplace path := by
  rw [targetPath]
  rcases hdirectory : files directory with _ | content | _
  · exact .inl ⟨_, rfl, .missing hdirectory⟩
  · exact .inl ⟨_, rfl, .notDirectory hdirectory⟩
  rcases hname : asset.fileName? with _ | name
  · exact .inl ⟨_, rfl, .unnamed hdirectory hname⟩
  -- The last check is the only one that may be switched off.
  by_cases hcheck : (files (Files.join directory name)).isSome ∧ !mayReplace
  · have hthere : files (Files.join directory name) ≠ none :=
      Option.isSome_iff_ne_none.1 hcheck.1
    have hkeep : mayReplace = false := by simpa using hcheck.2
    exact .inl ⟨_, if_pos hcheck, .taken hdirectory hname hthere hkeep⟩
  · refine .inr ⟨_, if_neg hcheck, hdirectory, ⟨name, hname, rfl⟩, ?_⟩
    intro hkeep
    simpa [hkeep] using hcheck

theorem Refused.barred (h : Refused files asset directory mayReplace e) :
    Barred files asset directory mayReplace := by
  cases h with
  | missing hdirectory => exact .inl (by simp [hdirectory])
  | notDirectory hdirectory => exact .inl (by simp [hdirectory])
  | unnamed _ hname => exact .inr (.inl hname)
  | taken _ hname hthere hkeep => exact .inr (.inr ⟨_, hname, hthere, hkeep⟩)

theorem Target.not_barred (h : Target files asset directory mayReplace path) :
    ¬ Barred files asset directory mayReplace := by
  obtain ⟨name, hname, rfl⟩ := h.named
  rintro (hdirectory | hnone | ⟨name', hname', hthere, hkeep⟩)
  · exact hdirectory h.directory_there
  · rw [hname] at hnone
    cases hnone
  · obtain rfl : name = name' := Option.some.inj (hname.symm.trans hname')
    exact hthere (h.free hkeep)

theorem Target.unique {path' : String} (h : Target files asset directory mayReplace path)
    (h' : Target files asset directory mayReplace path') : path = path' := by
  obtain ⟨name, hname, rfl⟩ := h.named
  obtain ⟨name', hname', rfl⟩ := h'.named
  obtain rfl : name = name' := Option.some.inj (hname.symm.trans hname')
  rfl

/-! ## The course of a download -/

/-- How far something has come, as it is told. -/
def reports (progress : Progress) : Record :=
  progress.map fun amounts => told (.barProgress .download amounts.1 amounts.2)

/-- An asset is asked for once; the answer comes with reports. -/
def fetching (asset : Asset) (progress : Progress) (answer : Except ReleaseError Bytes) : Record :=
  ⟨.download asset, (progress, answer)⟩ :: reports progress

section

variable {α β : Type} {record : Record} {after : Files} {result : Except ReleaseError α}

theorem course_settled {x : Except ReleaseError α} :
    Course (.done (x, files) : Dialogue Question.Answer (Except ReleaseError α × Files)) record
        (result, after) ↔
      record = [] ∧ result = x ∧ after = files := by
  rw [course_done, Prod.mk.injEq]

/-- The second part goes on with the files that the first one leaves. -/
theorem course_seq_files {m : DownloadM β} {f : β → DownloadM α} :
    Course ((m >>= f).run.run files) record (result, after) ↔
      (∃ e, Course (m.run.run files) record (.error e, after) ∧ result = .error e) ∨
        ∃ first b between rest, record = first ++ rest ∧
          Course (m.run.run files) first (.ok b, between) ∧
          Course ((f b).run.run between) rest (result, after) := by
  rw [ExceptT.run_bind, StateT.run_bind, course_bind]
  constructor
  · rintro ⟨first, ⟨x, between⟩, rest, rfl, hfirst, hrest⟩
    cases x with
    | ok b =>
        exact .inr ⟨first, b, between, rest, rfl, hfirst, hrest⟩
    | error e =>
        obtain ⟨rfl, rfl, rfl⟩ := course_settled.1 hrest
        exact .inl ⟨e, by simpa using hfirst, rfl⟩
  · rintro (⟨e, hfirst, rfl⟩ | ⟨first, b, between, rest, rfl, hfirst, hrest⟩)
    · exact ⟨record, (.error e, after), [], by simp, hfirst, course_settled.2 ⟨rfl, rfl, rfl⟩⟩
    · exact ⟨first, (.ok b, between), rest, rfl, hfirst, hrest⟩

theorem course_ask {q : Question} {x : Except ReleaseError q.Answer}
    (h : Course ((ask q).run.run files) record (x, after)) :
    ∃ answer, record = [⟨q, answer⟩] ∧ x = .ok answer ∧ after = files := by
  obtain ⟨answer, rest, rfl, hrest⟩ := Dialogue.course_ask.1 h
  obtain ⟨rfl, hx, hafter⟩ := course_settled.1 hrest
  exact ⟨answer, rfl, hx, hafter⟩

/-- Reports change nothing. -/
theorem course_reports {progress : Progress} {x : Except ReleaseError PUnit}
    (h : Course ((progress.forM fun (current, total) =>
      ask (.tell (.barProgress .download current total)) : DownloadM PUnit).run.run files)
      record (x, after)) :
    record = reports progress ∧ x = .ok () ∧ after = files := by
  induction progress generalizing record with
  | nil =>
      exact course_settled.1 h
  | cons amounts progress ih =>
      rw [List.forM_eq_forM, List.forM_cons] at h
      rcases course_seq_files.1 h with ⟨e, hfailed, -⟩ | ⟨_, _, between, rest, rfl, hfirst, hrest⟩
      · obtain ⟨_, -, hanswer, -⟩ := course_ask hfailed
        cases hanswer
      · obtain ⟨_, rfl, -, rfl⟩ := course_ask hfirst
        obtain ⟨rfl, hresult, hafter⟩ := ih hrest
        exact ⟨rfl, hresult, hafter⟩

theorem course_fetch {answer : Except ReleaseError Bytes}
    (h : Course ((fetch asset).run.run files) record (answer, after)) :
    ∃ progress, record = fetching asset progress answer ∧ after = files := by
  rcases course_seq_files.1 h with ⟨e, hfailed, -⟩ | ⟨_, ⟨progress, x⟩, between, _, rfl, hasked, h₁⟩
  · obtain ⟨_, -, hanswer, -⟩ := course_ask hfailed
    cases hanswer
  obtain ⟨_, rfl, hanswer, rfl⟩ := course_ask hasked
  cases hanswer
  -- The answer is given on only after all of the reports.
  rcases course_seq_files.1 h₁ with ⟨e, hfailed, -⟩ | ⟨telling, _, between, last, rfl, htelling, h₂⟩
  · cases (course_reports hfailed).2.1
  obtain ⟨rfl, -, rfl⟩ := course_reports htelling
  have hlast : last = [] ∧ answer = x ∧ after = between := by
    cases x with
    | ok data => exact course_settled.1 h₂
    | error e => exact course_settled.1 h₂
  obtain ⟨rfl, rfl, rfl⟩ := hlast
  have hrecord : [⟨.download asset, (progress, answer)⟩] ++ (reports progress ++ []) =
      fetching asset progress answer := by
    rw [List.append_nil]
    rfl
  exact ⟨progress, hrecord, rfl⟩

end

/-- What is done with the data of an asset. -/
def store (path : String) (data : Bytes) : DownloadM String := do
  match (← get).write path data with
  | .ok files =>
      set files
      return path
  | .error fault => throw (.file s!"{path}: {fault.message}")

theorem run_store (path : String) (data : Bytes) :
    (store path data).run.run files = match files.write path data with
      | .ok after => .done (.ok path, after)
      | .error fault => .done (.error (.file s!"{path}: {fault.message}"), files) := by
  change StateT.run (ExceptT.run (match files.write path data with
    | .ok files => (do set files; return path : DownloadM String)
    | .error fault => throw (.file s!"{path}: {fault.message}"))) files = _
  split
  next => rfl
  next => rfl

theorem run_toDirectory :
    (toDirectory asset directory mayReplace).run.run files =
      match targetPath files asset directory mayReplace with
      | .ok path => (fetch asset >>= store path).run.run files
      | .error e => .done (.error e, files) := by
  change StateT.run
    (ExceptT.run (ExceptT.mk (pure (targetPath files asset directory mayReplace)) >>=
      fun path => fetch asset >>= store path)) files = _
  cases targetPath files asset directory mayReplace with
  | ok path => rfl
  | error e => rfl

/-- How a download into a directory may go. -/
inductive Ending (files : Files) (asset : Asset) (directory : String) (mayReplace : Bool) :
    Record → Except ReleaseError String → Files → Prop where
  | refused {e : ReleaseError} (h : Refused files asset directory mayReplace e) :
      Ending files asset directory mayReplace [] (.error e) files
  | failed {path : String} {progress : Progress} {e : ReleaseError}
      (htarget : Target files asset directory mayReplace path) :
      Ending files asset directory mayReplace (fetching asset progress (.error e)) (.error e) files
  | unwritable {path : String} {progress : Progress} {data : Bytes} {fault : FileFault}
      (htarget : Target files asset directory mayReplace path)
      (hfault : files.write path data = .error fault) :
      Ending files asset directory mayReplace (fetching asset progress (.ok data))
        (.error (.file s!"{path}: {fault.message}")) files
  | written {path : String} {progress : Progress} {data : Bytes} {after : Files}
      (htarget : Target files asset directory mayReplace path)
      (hwritten : files.write path data = .ok after) :
      Ending files asset directory mayReplace (fetching asset progress (.ok data)) (.ok path) after

theorem course_toDirectory {record : Record} {result : Except ReleaseError String} {after : Files}
    (h : Course ((toDirectory asset directory mayReplace).run.run files) record (result, after)) :
    Ending files asset directory mayReplace record result after := by
  rw [run_toDirectory] at h
  -- Where the download goes is settled by the files as they are.
  rcases refused_or_target files asset directory mayReplace with
    ⟨e, hpath, hrefused⟩ | ⟨path, hpath, htarget⟩
  · rw [hpath] at h
    obtain ⟨rfl, rfl, rfl⟩ := course_settled.1 h
    exact .refused hrefused
  rw [hpath] at h
  rcases course_seq_files.1 h with
    ⟨e, hfailed, rfl⟩ | ⟨asking, data, between, rest, rfl, hfetched, hrest⟩
  · obtain ⟨progress, rfl, rfl⟩ := course_fetch hfailed
    exact .failed htarget
  obtain ⟨progress, rfl, rfl⟩ := course_fetch hfetched
  rw [run_store] at hrest
  cases hwrite : between.write path data with
  | ok written =>
      rw [hwrite] at hrest
      obtain ⟨rfl, rfl, rfl⟩ := course_settled.1 hrest
      rw [List.append_nil]
      exact .written htarget hwrite
  | error fault =>
      rw [hwrite] at hrest
      obtain ⟨rfl, rfl, rfl⟩ := course_settled.1 hrest
      rw [List.append_nil]
      exact .unwritable htarget hwrite

theorem Ending.of_barred {record : Record} {result : Except ReleaseError String} {after : Files}
    (h : Ending files asset directory mayReplace record result after)
    (hbarred : Barred files asset directory mayReplace) :
    record = [] ∧ after = files ∧ ∃ e, result = .error e ∧
      Refused files asset directory mayReplace e := by
  cases h with
  | refused hrefused => exact ⟨rfl, rfl, _, rfl, hrefused⟩
  | failed htarget => exact absurd hbarred htarget.not_barred
  | unwritable htarget _ => exact absurd hbarred htarget.not_barred
  | written htarget _ => exact absurd hbarred htarget.not_barred

theorem Ending.of_not_barred {record : Record} {result : Except ReleaseError String} {after : Files}
    (h : Ending files asset directory mayReplace record result after)
    (hfree : ¬ Barred files asset directory mayReplace) :
    ∃ path progress answer, Target files asset directory mayReplace path ∧
      record = fetching asset progress answer ∧
      (∀ e, answer = .error e → result = .error e ∧ after = files) ∧
      ∀ data, answer = .ok data → files.Writable path → result = .ok path := by
  cases h with
  | refused hrefused => exact absurd hrefused.barred hfree
  | @failed path progress e htarget =>
      refine ⟨path, progress, .error e, htarget, rfl, ?_, ?_⟩
      · intro e' he
        cases he
        exact ⟨rfl, rfl⟩
      · intro data hdata
        cases hdata
  | @unwritable path progress data fault htarget hfault =>
      refine ⟨path, progress, .ok data, htarget, rfl, ?_, ?_⟩
      · intro e he
        cases he
      · intro _ hdata hwritable
        obtain rfl := Except.ok.inj hdata
        cases hfault.symm.trans (Files.write_of_writable hwritable)
  | @written path progress data after htarget hwritten =>
      refine ⟨path, progress, .ok data, htarget, rfl, ?_, ?_⟩
      · intro e he
        cases he
      · intro _ _ _
        rfl

theorem Ending.of_ok {record : Record} {after : Files}
    (h : Ending files asset directory mayReplace record (.ok path) after) :
    ∃ name progress data, asset.fileName? = some name ∧ path = Files.join directory name ∧
      record = fetching asset progress (.ok data) ∧ files.Replaced path data after := by
  cases h with
  | @written _ progress data _ htarget hwritten =>
      obtain ⟨name, hname, hpath⟩ := htarget.named
      have hreplaced := (Files.write_eq_ok_iff.1 hwritten).2
      exact ⟨name, progress, data, hname, hpath, rfl, hreplaced⟩

/-- What stands against a download is found before anything is asked.  A download that fails changes
nothing, and one that succeeds changes nothing but the file of the asset's name in the directory. -/
theorem changes_only_target {σ : Type} (files : Files) (asset : Asset) (directory : String)
    (mayReplace : Bool) (w : Surroundings Question.Answer σ) (s : σ) :
    let outcome := ((toDirectory asset directory mayReplace).run.run files).run w s
    let result := outcome.result.1
    let after := outcome.result.2
    (Barred files asset directory mayReplace →
      outcome.record = [] ∧ after = files ∧
        ∃ e, result = .error e ∧ Refused files asset directory mayReplace e) ∧
    (¬ Barred files asset directory mayReplace →
      ∃ path progress answer, Target files asset directory mayReplace path ∧
        outcome.record = fetching asset progress answer ∧
        (∀ e, answer = .error e → result = .error e ∧ after = files) ∧
        ∀ data, answer = .ok data → files.Writable path → result = .ok path) ∧
    (∀ path, result = .ok path →
      ∃ name progress data, asset.fileName? = some name ∧ path = Files.join directory name ∧
        outcome.record = fetching asset progress (.ok data) ∧ files.Replaced path data after) ∧
    (∀ name, asset.fileName? = some name →
      name ≠ "" ∧ ∀ c ∈ name.toList, c ≠ '/' ∧ c ≠ '?' ∧ c ≠ '#') ∧
    (∀ name, asset.fileName? = some name ↔
      name ≠ "" ∧ ∃ front rest, Asset.Parted asset.url.toList front name.toList rest) ∧
    (asset.fileName? = none ↔ ∃ front rest, Asset.Parted asset.url.toList front [] rest) := by
  intro outcome result after
  have hending : Ending files asset directory mayReplace outcome.record result after :=
    course_toDirectory (course_run w _ s)
  refine ⟨hending.of_barred, hending.of_not_barred, ?_, ?_, fun name => Asset.fileName?_eq_some_iff,
    Asset.fileName?_eq_none_iff⟩
  · intro path hpath
    exact (hpath ▸ hending).of_ok
  · intro name hname
    obtain ⟨hne, front, rest, hparted⟩ := Asset.fileName?_eq_some_iff.1 hname
    exact ⟨hne, hparted.name_plain⟩

namespace Trial

/-- A directory with one file. -/
def shelf : Files := fun path =>
  if path = "out" then some .directory
  else if path = "out/old.zip" then some (.file [1])
  else none

def old : Asset := ⟨"v1.8.1", "https://a.example/b/old.zip"⟩

def new : Asset := ⟨"v1.8.2", "https://a.example/b/new.zip?to=/c.zip#/d"⟩

def repository (answer : Except ReleaseError Bytes) : Surroundings Question.Answer Unit :=
  fun s q =>
    match q with
    | .download _ => (([(0, 2), (2, 2)], answer), s)
    | q => (Update.Trial.Scene.answer {} q, s)

def outcome (asset : Asset) (answer : Except ReleaseError Bytes) :
    Outcome Question.Answer Unit (Except ReleaseError String × Files) :=
  ((toDirectory asset "out" false).run.run shelf).run (repository answer) ()

theorem barred_old : Barred shelf old "out" false :=
  .inr (.inr ⟨"old.zip", by decide, by decide, rfl⟩)

theorem target_new : Target shelf new "out" false "out/new.zip" :=
  ⟨by decide, ⟨"new.zip", by decide, by decide⟩, by decide⟩

theorem answer_eq {asset : Asset} {answer answer' : Except ReleaseError Bytes} {progress : Progress}
    (h : (outcome asset answer).record = fetching asset progress answer') : answer' = answer := by
  have hmem : ⟨.download asset, (progress, answer')⟩ ∈ (outcome asset answer).record := by
    rw [h]
    exact List.mem_cons_self
  obtain ⟨_, hanswer⟩ := answer_of_mem_record hmem
  exact (congrArg Prod.snd hanswer).symm

end Trial

/-- A file that is there is kept, a download that fails leaves no file, and one that succeeds leaves
its own. -/
theorem changes_only_target_trial :
    Barred Trial.shelf Trial.old "out" false ∧ (Trial.outcome Trial.old (.ok [7, 8])).record = [] ∧
      (Trial.outcome Trial.old (.ok [7, 8])).result.2 = Trial.shelf ∧
      ¬ Barred Trial.shelf Trial.new "out" false ∧
      (Trial.outcome Trial.new (.error (.transfer "cut"))).result =
        (.error (.transfer "cut"), Trial.shelf) ∧
      Trial.new.fileName? = some "new.zip" ∧
      (Trial.outcome Trial.new (.ok [7, 8])).result.1 = .ok "out/new.zip" ∧
      Trial.shelf.Replaced "out/new.zip" [7, 8]
        (Trial.outcome Trial.new (.ok [7, 8])).result.2 := by
  have hold :=
    changes_only_target Trial.shelf Trial.old "out" false (Trial.repository (.ok [7, 8])) ()
  have hcut := changes_only_target Trial.shelf Trial.new "out" false
    (Trial.repository (.error (.transfer "cut"))) ()
  have hnew :=
    changes_only_target Trial.shelf Trial.new "out" false (Trial.repository (.ok [7, 8])) ()
  have hfree := Trial.target_new.not_barred
  obtain ⟨hnothing, hkept, -⟩ := hold.1 Trial.barred_old
  have hfailed : (Trial.outcome Trial.new (.error (.transfer "cut"))).result =
      (.error (.transfer "cut"), Trial.shelf) := by
    obtain ⟨_, _, answer, -, hrecord, hfails, -⟩ := hcut.2.1 hfree
    obtain rfl := Trial.answer_eq hrecord
    obtain ⟨hresult, hafter⟩ := hfails _ rfl
    exact Prod.ext hresult hafter
  have hwritten : (Trial.outcome Trial.new (.ok [7, 8])).result.1 = .ok "out/new.zip" := by
    obtain ⟨path, _, answer, htarget, hrecord, -, hwrites⟩ := hnew.2.1 hfree
    obtain rfl := Trial.answer_eq hrecord
    obtain rfl := htarget.unique Trial.target_new
    have hnameable : Files.pathFault? "out/new.zip" = none :=
      Files.pathFault?_eq_none_iff.2 ⟨by decide, by decide, by decide⟩
    exact hwrites _ rfl ⟨hnameable, by decide⟩
  obtain ⟨name, _, data, hname, -, hrecord, hreplaced⟩ := hnew.2.2.1 _ hwritten
  obtain rfl := Except.ok.inj (Trial.answer_eq hrecord)
  exact ⟨Trial.barred_old, hnothing, hkept, hfree, hfailed, by decide, hwritten, hreplaced⟩

end Download
end Reflash
