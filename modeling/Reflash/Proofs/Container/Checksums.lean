import Reflash.Container.Checksums
import Reflash.Proofs.Lists
import Reflash.Proofs.Result
import Reflash.Proofs.Text.Lines

/-!
# Container.Checksums — what a list of checksums says

* `Checksums.IsLine` — a line that lists a checksum for a path;
* `Checksums.Listed` — the last checksum that is listed for a path, which is the one that counts;
* `Checksums.check_eq_ok_iff` — the bytes that have the checksum of a path;
* `Checksums.parse_by_grammar` — which byte strings are lists of checksums, what they list, and that
  a written list is read back.
-/

namespace Reflash
namespace Checksums

variable {hash : Bytes → Bytes} {c : Checksums} {path checksum : String} {data : Bytes}

/-! ## Lines -/

/-- The line is a checksum, two spaces and a path. -/
def IsLine (l : List Char) (entry : String × String) : Prop :=
  Text.cutPair? ' ' l = some (entry.2.toList, entry.1.toList)

theorem line_eq_ok_iff {l : List Char} {entry : String × String} :
    line l = .ok entry ↔ IsLine l entry := by
  rw [line, IsLine]
  rcases Text.cutPair? ' ' l with _ | ⟨checksum, path⟩
  · simp
  · constructor
    · intro h
      cases h
      simp
    · intro h
      obtain ⟨rfl, rfl⟩ := Prod.ext_iff.1 (Option.some.inj h)
      simp

theorem parse_eq_ok_iff :
    parse data = .ok c ↔
      ∃ text, Utf8.decode data = .ok text ∧ List.Forall₂ IsLine (Text.lines text.toList) c := by
  rw [parse]
  cases Utf8.decode data with
  | error fault => simp
  | ok text => simp [ofText, Result.mapM_eq_ok, line_eq_ok_iff]

/-! ## Checksums of paths -/

/-- The last line with this path has this checksum. -/
def Listed (c : Checksums) (path checksum : String) : Prop :=
  ∃ before after, c = before ++ (path, checksum) :: after ∧ ∀ entry ∈ after, entry.1 ≠ path

theorem lookup?_eq_some_iff : c.lookup? path = some checksum ↔ Listed c path checksum := by
  have hother (entry : String × String) : (path != entry.1) = true ↔ entry.1 ≠ path := by
    rw [bne_iff_ne, ne_comm]
  simp only [lookup?, List.lookup_eq_some_iff, hother]
  exact Lists.exists_split_reverse

/-- The digits of a hash are those of a checksum, in either case. -/
def Matches (hash : Bytes → Bytes) (checksum : String) (data : Bytes) : Prop :=
  (Hex.encode (hash data)).toList.map Char.toLower = checksum.toList.map Char.toLower

theorem check_eq_ok_iff :
    check hash c path data = .ok () ↔
      ∃ checksum, Listed c path checksum ∧ Matches hash checksum data := by
  rw [check]
  cases hlookup : c.lookup? path with
  | none =>
      refine iff_of_false (by simp) ?_
      rintro ⟨checksum, hlisted, -⟩
      rw [lookup?_eq_some_iff.2 hlisted] at hlookup
      cases hlookup
  | some expected =>
      have hmatches : sameDigits (Hex.encode (hash data)) expected = true ↔
          Matches hash expected data := by
        rw [sameDigits, beq_iff_eq, Matches]
      by_cases hsame : sameDigits (Hex.encode (hash data)) expected = true
      · simp only [hsame, if_true, true_iff]
        exact ⟨expected, lookup?_eq_some_iff.1 hlookup, hmatches.1 hsame⟩
      · refine iff_of_false (by simp [hsame]) ?_
        rintro ⟨checksum, hlisted, hmatch⟩
        rw [lookup?_eq_some_iff.2 hlisted] at hlookup
        obtain rfl := Option.some.inj hlookup
        exact hsame (hmatches.2 hmatch)

/-! ## The grammar -/

/-- The bytes are a text with these lines. -/
def Lined (data : Bytes) (ls : List (List Char)) : Prop :=
  ∃ text, data = Bytes.ofText text ∧ Text.HasLines text.toList ls

/-- The path and the checksum stand behind and before the first two spaces. -/
def Entry (l : List Char) (entry : String × String) : Prop :=
  Text.PartedAtPair ' ' l entry.2.toList entry.1.toList

theorem isLine_iff {l : List Char} {entry : String × String} : IsLine l entry ↔ Entry l entry :=
  Text.cutPair?_eq_some_iff

theorem parse_eq_ok_iff_lined :
    parse data = .ok c ↔ ∃ ls, Lined data ls ∧ List.Forall₂ Entry ls c := by
  have hrelations : IsLine = Entry := by
    funext l entry
    exact propext isLine_iff
  rw [parse_eq_ok_iff, hrelations]
  constructor
  · rintro ⟨text, htext, hentries⟩
    exact ⟨_, ⟨text, Utf8.decode_eq_ok_iff.1 htext, Text.hasLines_lines _⟩, hentries⟩
  · rintro ⟨ls, ⟨text, hbytes, hlines⟩, hentries⟩
    obtain rfl := hlines.lines_eq
    exact ⟨text, Utf8.decode_eq_ok_iff.2 hbytes, hentries⟩

theorem exists_entry_iff {l : List Char} : (∃ entry, Entry l entry) ↔ [' ', ' '] <:+: l := by
  rw [← Text.exists_cutPair?_iff]
  constructor
  · rintro ⟨entry, hentry⟩
    exact ⟨_, isLine_iff.2 hentry⟩
  · rintro ⟨⟨checksum, path⟩, hcut⟩
    exact ⟨(String.ofList path, String.ofList checksum),
      isLine_iff.1 (by simpa [IsLine] using hcut)⟩

theorem exists_parse_iff :
    (∃ c, parse data = .ok c) ↔ ∃ ls, Lined data ls ∧ ∀ l ∈ ls, [' ', ' '] <:+: l := by
  simp only [parse_eq_ok_iff_lined]
  constructor
  · rintro ⟨c, ls, hlined, hentries⟩
    refine ⟨ls, hlined, fun l hl => ?_⟩
    obtain ⟨entry, -, hentry⟩ := Lists.exists_of_mem_left hentries hl
    exact exists_entry_iff.1 ⟨entry, hentry⟩
  · rintro ⟨ls, hlined, hpairs⟩
    obtain ⟨c, hentries⟩ := Lists.exists_forall₂ fun l hl => exists_entry_iff.2 (hpairs l hl)
    exact ⟨c, ls, hlined, hentries⟩

/-! ## Written lists -/

/-- An entry as a line, without its line end. -/
def written (entry : String × String) : String :=
  entry.2 ++ "  " ++ entry.1

def writtenAll (c : Checksums) : String :=
  String.join (c.map fun entry => written entry ++ "\n")

/-- Neither text goes beyond its line, the checksum ends at the two spaces, and the path at the line
end. -/
@[mk_iff]
structure Writable (entry : String × String) : Prop where
  checksum_line : '\n' ∉ entry.2.toList
  path_line : '\n' ∉ entry.1.toList
  checksum_pair : ¬ [' ', ' '] <:+: entry.2.toList
  checksum_end : entry.2.toList.getLast? ≠ some ' '
  path_end : entry.1.toList.getLast? ≠ some '\r'

instance (entry : String × String) : Decidable (Writable entry) :=
  decidable_of_iff _ (writable_iff entry).symm

theorem toList_written (entry : String × String) :
    (written entry).toList = entry.2.toList ++ ' ' :: ' ' :: entry.1.toList := by
  simp [written]

theorem entry_written {entry : String × String} (h : Writable entry) :
    Entry (written entry).toList entry := by
  rw [Entry, toList_written]
  exact Text.partedAtPair_append h.checksum_pair h.checksum_end _

theorem newline_notMem_written {entry : String × String} (h : Writable entry) :
    '\n' ∉ (written entry).toList := by
  simp [toList_written, h.checksum_line, h.path_line]

/-- If the path is empty, the line ends with a space. -/
theorem withoutReturn_written {entry : String × String} (h : Writable entry) :
    Text.withoutReturn (written entry).toList = (written entry).toList := by
  apply Text.withoutReturn_of_getLast?
  rw [toList_written, List.getLast?_append_of_ne_nil _ (List.cons_ne_nil _ _),
    List.getLast?_cons_cons]
  by_cases hpath : entry.1.toList = []
  · simp [hpath]
  · obtain ⟨first, rest, hcons⟩ := List.exists_cons_of_ne_nil hpath
    rw [hcons, List.getLast?_cons_cons, ← hcons]
    exact h.path_end

theorem hasLines_writtenAll (h : ∀ entry ∈ c, Writable entry) :
    Text.HasLines (writtenAll c).toList (c.map fun entry => (written entry).toList) := by
  induction c with
  | nil => exact .nil
  | cons entry rest ih =>
      obtain ⟨hentry, hrest⟩ := List.forall_mem_cons.1 h
      have htext : (writtenAll (entry :: rest)).toList =
          (written entry).toList ++ '\n' :: (writtenAll rest).toList := by
        simp [writtenAll, String.toList_join]
      have hlines := Text.HasLines.line (newline_notMem_written hentry) (ih hrest)
      rwa [withoutReturn_written hentry, ← htext] at hlines

theorem entries_written (h : ∀ entry ∈ c, Writable entry) :
    List.Forall₂ Entry (c.map fun entry => (written entry).toList) c := by
  rw [List.forall₂_map_left_iff]
  exact List.forall₂_same.2 fun entry hentry => entry_written (h entry hentry)

theorem parse_writtenAll (h : ∀ entry ∈ c, Writable entry) :
    parse (Bytes.ofText (writtenAll c)) = .ok c :=
  parse_eq_ok_iff_lined.2 ⟨_, ⟨_, rfl, hasLines_writtenAll h⟩, entries_written h⟩

/-- Lists of checksums are the texts whose lines have two consecutive spaces each.  A line is
divided at the first two, so that a path may hold spaces, and of several lines with one path the
last one counts.  What is written for some entries, where that is possible, lists these entries. -/
theorem parse_by_grammar (data : Bytes) (c : Checksums) :
    ((∃ listed, parse data = .ok listed) ↔ ∃ ls, Lined data ls ∧ ∀ l ∈ ls, [' ', ' '] <:+: l) ∧
      (parse data = .ok c ↔ ∃ ls, Lined data ls ∧ List.Forall₂ Entry ls c) ∧
      (∀ path checksum, c.lookup? path = some checksum ↔ Listed c path checksum) ∧
      ((∀ entry ∈ c, Writable entry) → parse (Bytes.ofText (writtenAll c)) = .ok c) :=
  ⟨exists_parse_iff, parse_eq_ok_iff_lined, fun _ _ => lookup?_eq_some_iff, parse_writtenAll⟩

namespace Trial

/-- A path with spaces, and one that is listed twice. -/
def listed : Checksums :=
  [("my  file.bin", "abcd"), ("manifest.json", "0123"), ("manifest.json", "4567")]

/-- The same list with other line ends. -/
def text : String :=
  "abcd  my  file.bin\r\n0123  manifest.json\r\n4567  manifest.json"

end Trial

theorem parse_by_grammar_trial :
    parse (Bytes.ofText (writtenAll Trial.listed)) = .ok Trial.listed ∧
      parse (Bytes.ofText Trial.text) = .ok Trial.listed ∧
      Trial.listed.lookup? "manifest.json" = some "4567" := by
  have hwritable : ∀ entry ∈ Trial.listed, Writable entry := by decide
  have hlast : Trial.listed.Listed "manifest.json" "4567" :=
    ⟨[("my  file.bin", "abcd"), ("manifest.json", "0123")], [], rfl, by decide⟩
  have hlined : Lined (Bytes.ofText Trial.text)
      (Trial.listed.map fun entry => (written entry).toList) :=
    ⟨Trial.text, rfl, Text.lines_eq_iff.1 (by decide)⟩
  exact ⟨(parse_by_grammar [] Trial.listed).2.2.2 hwritable,
    (parse_by_grammar (Bytes.ofText Trial.text) Trial.listed).2.1.2
      ⟨_, hlined, entries_written hwritable⟩,
    ((parse_by_grammar [] Trial.listed).2.2.1 _ _).2 hlast⟩

end Checksums
end Reflash
