import Reflash.Command.Invocation
import Reflash.Proofs.Lists
import Reflash.Proofs.Result
import Reflash.Proofs.Text.Decimal
import Reflash.Update.Config
import Reflash.Version.Text

/-!
# Version.Grammar — which texts are versions

A version is spelled `A.B.C`, three numerals of 32-bit numbers, then possibly a hyphen and a
pre-release without a plus sign, then possibly a plus sign and any build text.  Reading cuts a text
at the first plus sign, at the first hyphen before that, and at the points before that: it finds the
one way in which the text is spelled, if there is any.

* `Numeral`, `Spelling` — what a text can be put together from;
* `parse_eq_ok_iff` — the texts that are read are those that are spelled, with the version that is
  spelled;
* `Spelling.text_injective` — a text is spelled in one way at most;
* `error_of_parse` — why any other text is refused;
* `reads_by_grammar` — all of it, for both forms of a version and for every place where one is read.
-/

namespace Reflash
namespace Version

/-! ## Spellings -/

/-- A numeral of a 32-bit number. -/
@[ext]
structure Numeral where
  digits : List Char
  ne_nil : digits ≠ []
  isDigit : ∀ c ∈ digits, Decimal.IsDigit c
  bounded : Decimal.value digits < 0x100000000

namespace Numeral

def value (n : Numeral) : Nat :=
  Decimal.value n.digits

theorem notMem (n : Numeral) {c : Char} (hc : ¬ Decimal.IsDigit c) : c ∉ n.digits :=
  fun hmem => hc (n.isDigit c hmem)

end Numeral

/-- A mark and what follows it, if anything does. -/
def tail (mark : Char) : Option (List Char) → List Char
  | some rest => mark :: rest
  | none => []

@[ext]
structure Spelling where
  major : Numeral
  minor : Numeral
  patch : Numeral
  pre : Option (List Char)
  build : Option (List Char)
  plus_notMem : ∀ t ∈ pre, '+' ∉ t

namespace Spelling

def numbers (x : Spelling) : List Char :=
  x.major.digits ++ '.' :: x.minor.digits ++ '.' :: x.patch.digits

def release (x : Spelling) : List Char :=
  x.numbers ++ tail '-' x.pre

def text (x : Spelling) : String :=
  String.ofList (x.release ++ tail '+' x.build)

def version (x : Spelling) : Version where
  major := x.major.value
  minor := x.minor.value
  patch := x.patch.value
  pre := x.pre.map String.ofList
  build := x.build.map String.ofList
  complete := true

end Spelling

variable {mark : Char} {before digits : List Char} {after : Option (List Char)}
variable {s t given : String} {v : Version} {e : VersionError} {n : Nat}

/-! ## Cutting -/

theorem cutAt_cons (mark c : Char) (s : List Char) :
    cutAt mark (c :: s) =
      if c = mark then ([], some s) else (c :: (cutAt mark s).1, (cutAt mark s).2) := by
  by_cases hc : c = mark
  · simp [cutAt, Text.cut?, hc]
  · simp only [cutAt, Text.cut?, List.dropWhile_cons, List.takeWhile_cons, ne_eq, hc,
      not_false_eq_true, decide_true, if_true, if_false]
    cases s.dropWhile fun c => decide ¬ c = mark with
    | nil => rfl
    | cons d rest => rfl

theorem fst_cutAt (mark : Char) (s : List Char) : (cutAt mark s).1 = s.takeWhile (· ≠ mark) := by
  induction s with
  | nil => rfl
  | cons c s ih =>
      rw [cutAt_cons]
      by_cases hc : c = mark
      · simp [hc]
      · simp [hc, ih]

theorem join_cutAt (mark : Char) (s : List Char) :
    (cutAt mark s).1 ++ tail mark (cutAt mark s).2 = s := by
  induction s with
  | nil => rfl
  | cons c s ih =>
      rw [cutAt_cons]
      by_cases hc : c = mark
      · simp [hc, tail]
      · simp [hc, ih]

theorem notMem_fst_cutAt (mark : Char) (s : List Char) : mark ∉ (cutAt mark s).1 := by
  induction s with
  | nil => exact List.not_mem_nil
  | cons c s ih =>
      rw [cutAt_cons]
      by_cases hc : c = mark
      · simp [hc]
      · have hne : mark ≠ c := fun h => hc h.symm
        simp [hc, hne, ih]

/-- A text is cut at the mark that follows a part without one. -/
theorem cutAt_append (h : mark ∉ before) :
    cutAt mark (before ++ tail mark after) = (before, after) := by
  induction before with
  | nil =>
      cases after with
      | none => rfl
      | some rest => simp [tail, cutAt_cons]
  | cons c before ih =>
      rw [List.mem_cons, not_or] at h
      have hc : c ≠ mark := fun heq => h.1 heq.symm
      rw [List.cons_append, cutAt_cons, if_neg hc, ih h.2]

/-! ## The parts of a text -/

/-- What stands in front of the build text. -/
def released (s : String) : List Char :=
  s.toList.takeWhile (· ≠ '+')

/-- What stands between the points of a core. -/
def pieces (s : String) : List (List Char) :=
  ((released s).takeWhile (· ≠ '-')).splitOn '.'

theorem plus_notMem_released (s : String) : '+' ∉ released s := by
  rw [released, ← fst_cutAt]
  exact notMem_fst_cutAt '+' s.toList

theorem part_eq_ok_iff (given : String) (digits : List Char) (n : Nat) :
    part given digits = .ok n ↔ ∃ x : Numeral, x.digits = digits ∧ x.value = n := by
  constructor
  · intro h
    rw [part] at h
    cases hread : Decimal.below? 0x100000000 digits with
    | none => simp [hread] at h
    | some m =>
        obtain ⟨hne, hdigits, hbound, hvalue⟩ := Decimal.below?_eq_some_iff.1 hread
        have hmn : m = n := by simpa [hread] using h
        exact ⟨⟨digits, hne, hdigits, hbound⟩, rfl, hvalue.trans hmn⟩
  · rintro ⟨x, rfl, rfl⟩
    have hread : Decimal.below? 0x100000000 x.digits = some x.value :=
      Decimal.below?_eq_some_iff.2 ⟨x.ne_nil, x.isDigit, x.bounded, rfl⟩
    rw [part, hread]

theorem part_eq_error (h : part given digits = .error e) : e = .badPart given := by
  rw [part] at h
  cases hread : Decimal.below? 0x100000000 digits with
  | none => simpa [hread] using h.symm
  | some m => simp [hread] at h

theorem parse_eq (s : String) :
    parse s = match pieces s with
      | [major, minor, patch] => do
          return {
            major := ← part (String.ofList (released s)) major
            minor := ← part (String.ofList (released s)) minor
            patch := ← part (String.ofList (released s)) patch
            pre := (cutAt '-' (released s)).2.map String.ofList
            build := (cutAt '+' s.toList).2.map String.ofList
            complete := true }
      | _ => .error (.wrongParts (String.ofList (released s))) := by
  rw [pieces, ← fst_cutAt, released, ← fst_cutAt]
  rfl

/-! ## Reading what is spelled -/

namespace Spelling

theorem notMem_numbers (x : Spelling) {c : Char} (hc : ¬ Decimal.IsDigit c) (hpoint : c ≠ '.') :
    c ∉ x.numbers := by
  simp [numbers, x.major.notMem hc, x.minor.notMem hc, x.patch.notMem hc, hpoint]

theorem plus_notMem_release (x : Spelling) : '+' ∉ x.release := by
  rw [release, List.mem_append, not_or]
  refine ⟨x.notMem_numbers (by decide) (by decide), ?_⟩
  cases hpre : x.pre with
  | none => exact List.not_mem_nil
  | some t => simp [tail, x.plus_notMem t hpre]

theorem cutAt_text (x : Spelling) : cutAt '+' x.text.toList = (x.release, x.build) := by
  rw [text, String.toList_ofList]
  exact cutAt_append x.plus_notMem_release

theorem cutAt_release (x : Spelling) : cutAt '-' x.release = (x.numbers, x.pre) :=
  cutAt_append (x.notMem_numbers (by decide) (by decide))

theorem splitOn_numbers (x : Spelling) :
    x.numbers.splitOn '.' = [x.major.digits, x.minor.digits, x.patch.digits] := by
  have hjoin : x.numbers = ['.'].intercalate [x.major.digits, x.minor.digits, x.patch.digits] := by
    simp [numbers, List.intercalate]
  have hpoints : ∀ part ∈ [x.major.digits, x.minor.digits, x.patch.digits], '.' ∉ part := by
    simp [x.major.notMem (c := '.') (by decide), x.minor.notMem (c := '.') (by decide),
      x.patch.notMem (c := '.') (by decide)]
  rw [hjoin]
  exact List.splitOn_intercalate '.' hpoints (by simp)

theorem released_text (x : Spelling) : released x.text = x.release := by
  rw [released, ← fst_cutAt, cutAt_text]

theorem pieces_text (x : Spelling) :
    pieces x.text = [x.major.digits, x.minor.digits, x.patch.digits] := by
  rw [pieces, released_text, ← fst_cutAt, cutAt_release, splitOn_numbers]

theorem parse_text (x : Spelling) : parse x.text = .ok x.version := by
  rw [parse_eq, pieces_text, released_text, cutAt_release, cutAt_text]
  have hread (y : Numeral) : part (String.ofList x.release) y.digits = .ok y.value :=
    (part_eq_ok_iff _ y.digits y.value).2 ⟨y, rfl, rfl⟩
  simp only [hread, Result.ok_bind]
  rfl

/-- The parts of a text tell how it was spelled. -/
theorem text_injective : Function.Injective text := by
  intro x y h
  have htext : (x.release, x.build) = (y.release, y.build) := by
    rw [← x.cutAt_text, ← y.cutAt_text, h]
  obtain ⟨hrelease, hbuild⟩ := Prod.mk.inj htext
  have hcut : (x.numbers, x.pre) = (y.numbers, y.pre) := by
    rw [← x.cutAt_release, ← y.cutAt_release, hrelease]
  obtain ⟨hnumbers, hpre⟩ := Prod.mk.inj hcut
  have hparts : [x.major.digits, x.minor.digits, x.patch.digits] =
      [y.major.digits, y.minor.digits, y.patch.digits] := by
    rw [← x.splitOn_numbers, ← y.splitOn_numbers, hnumbers]
  simp only [List.cons.injEq, and_true] at hparts
  obtain ⟨hmajor, hminor, hpatch⟩ := hparts
  exact Spelling.ext (Numeral.ext hmajor) (Numeral.ext hminor) (Numeral.ext hpatch) hpre hbuild

end Spelling

/-! ## What is read was spelled -/

theorem plus_notMem_pre (s : String) : ∀ t ∈ (cutAt '-' (released s)).2, '+' ∉ t := by
  intro t ht hmem
  apply plus_notMem_released s
  rw [← join_cutAt '-' (released s), Option.mem_def.1 ht]
  exact List.mem_append_right _ (List.mem_cons_of_mem _ hmem)

/-- A text is spelled by its parts: the pieces put together again are the core, and so on
outwards. -/
theorem text_eq_of_parts (x : Spelling)
    (hpieces : pieces s = [x.major.digits, x.minor.digits, x.patch.digits])
    (hpre : x.pre = (cutAt '-' (released s)).2) (hbuild : x.build = (cutAt '+' s.toList).2) :
    x.text = s := by
  have hnumbers : x.numbers = (cutAt '-' (released s)).1 := by
    have hjoin : ['.'].intercalate ((cutAt '-' (released s)).1.splitOn '.') =
        (cutAt '-' (released s)).1 :=
      List.intercalate_splitOn '.'
    rw [pieces, ← fst_cutAt] at hpieces
    rw [← hjoin, hpieces]
    simp [Spelling.numbers, List.intercalate]
  have hrelease : x.release = (cutAt '+' s.toList).1 := by
    rw [Spelling.release, hnumbers, hpre, join_cutAt, released, fst_cutAt]
  rw [Spelling.text, hrelease, hbuild, join_cutAt, String.ofList_toList]

theorem exists_spelling_of_parse (h : parse s = .ok v) :
    ∃ x : Spelling, x.text = s ∧ x.version = v := by
  rw [parse_eq] at h
  split at h
  · rename_i major minor patch hpieces
    obtain ⟨a, ha, h⟩ := Result.bind_eq_ok.1 h
    obtain ⟨b, hb, h⟩ := Result.bind_eq_ok.1 h
    obtain ⟨c, hc, h⟩ := Result.bind_eq_ok.1 h
    obtain rfl := Result.pure_eq_ok.1 h
    obtain ⟨x, rfl, rfl⟩ := (part_eq_ok_iff _ _ _).1 ha
    obtain ⟨y, rfl, rfl⟩ := (part_eq_ok_iff _ _ _).1 hb
    obtain ⟨z, rfl, rfl⟩ := (part_eq_ok_iff _ _ _).1 hc
    let spelled : Spelling :=
      ⟨x, y, z, (cutAt '-' (released s)).2, (cutAt '+' s.toList).2, plus_notMem_pre s⟩
    have htext : spelled.text = s := text_eq_of_parts spelled hpieces rfl rfl
    exact ⟨spelled, htext, rfl⟩
  · cases h

theorem parse_eq_ok_iff : parse s = .ok v ↔ ∃ x : Spelling, x.text = s ∧ x.version = v := by
  constructor
  · exact exists_spelling_of_parse
  · rintro ⟨x, rfl, rfl⟩
    exact x.parse_text

/-! ## Refusals -/

/-- Too few or too many pieces are told from pieces that are no numerals. -/
theorem error_of_parse (h : parse s = .error e) :
    e = if (pieces s).length = 3 then .badPart (String.ofList (released s))
      else .wrongParts (String.ofList (released s)) := by
  rw [parse_eq] at h
  split at h
  · rename_i major minor patch hpieces
    have hthree : (pieces s).length = 3 := by
      rw [hpieces]
      rfl
    rw [if_pos hthree]
    rcases Result.bind_eq_error.1 h with hmajor | ⟨_, -, h⟩
    · exact part_eq_error hmajor
    rcases Result.bind_eq_error.1 h with hminor | ⟨_, -, h⟩
    · exact part_eq_error hminor
    rcases Result.bind_eq_error.1 h with hpatch | ⟨_, -, h⟩
    · exact part_eq_error hpatch
    · cases h
  · rename_i hpieces
    have hlength : (pieces s).length ≠ 3 := by
      intro hthree
      obtain ⟨major, minor, patch, heq⟩ := List.length_eq_three.1 hthree
      exact hpieces major minor patch heq
    rw [if_neg hlength]
    exact (Except.error.inj h).symm

theorem parse_eq_error_iff :
    parse s = .error e ↔ (¬ ∃ x : Spelling, x.text = s) ∧
      e = if (pieces s).length = 3 then .badPart (String.ofList (released s))
        else .wrongParts (String.ofList (released s)) := by
  constructor
  · intro h
    refine ⟨?_, error_of_parse h⟩
    rintro ⟨x, rfl⟩
    rw [x.parse_text] at h
    cases h
  · rintro ⟨hnone, rfl⟩
    cases h : parse s with
    | ok v =>
        obtain ⟨x, hx, -⟩ := exists_spelling_of_parse h
        exact absurd ⟨x, hx⟩ hnone
    | error e => rw [error_of_parse h]

/-- A plus sign would start the build text, so that no piece has one, and a reader of numerals that
takes a sign reads the pieces in the same way. -/
theorem part_eq_signedBelow (h : digits ∈ pieces s) :
    part given digits =
      (Decimal.signedBelow 0x100000000 digits).mapError fun _ => .badPart given := by
  have hsign : '+' ∉ digits := by
    intro hplus
    have hcore : '+' ∈ (released s).takeWhile (· ≠ '-') := Lists.mem_of_mem_splitOn h hplus
    exact plus_notMem_released s (List.takeWhile_sublist _ |>.subset hcore)
  have hread := fun n => Decimal.signedBelow_eq_ok_iff (n := n) (by decide : 0 < 0x100000000) hsign
  cases hsigned : Decimal.signedBelow 0x100000000 digits with
  | ok n => simp [part, (hread n).1 hsigned, Except.mapError]
  | error fault =>
      have hnone : Decimal.below? 0x100000000 digits = none := by
        rw [Option.eq_none_iff_forall_ne_some]
        intro n hn
        simp [(hread n).2 hn] at hsigned
      simp [part, hnone, Except.mapError]

/-! ## Forms -/

theorem parseTagged_eq_ok_iff : parseTagged t = .ok v ↔ ∃ s, t = "v" ++ s ∧ parse s = .ok v := by
  constructor
  · intro h
    rw [parseTagged] at h
    split at h
    · rename_i rest hrest
      refine ⟨String.ofList rest, ?_, h⟩
      apply String.toList_injective
      simp [hrest]
    · cases h
  · rintro ⟨s, rfl, h⟩
    simpa [parseTagged] using h

/-- A version in its plain form starts with a digit. -/
theorem parse_ne_ok_of_tag {rest : List Char} (h : t.toList = 'v' :: rest) : parse t ≠ .ok v := by
  intro hparse
  obtain ⟨x, rfl, -⟩ := exists_spelling_of_parse hparse
  cases hdigits : x.major.digits with
  | nil => exact x.major.ne_nil hdigits
  | cons c cs =>
      have hhead : x.text.toList.head? = some 'v' := by
        rw [h]
        rfl
      have hc : c = 'v' := by
        simpa [Spelling.text, Spelling.release, Spelling.numbers, hdigits] using hhead
      have hdigit : Decimal.IsDigit c := x.major.isDigit c (by simp [hdigits])
      rw [hc] at hdigit
      exact absurd hdigit (by decide)

/-- A version in one of its two forms. -/
def EitherForm (t : String) (v : Version) : Prop :=
  parse t = .ok v ∨ parseTagged t = .ok v

theorem parseEither_eq_ok_iff : parseEither t = .ok v ↔ EitherForm t v := by
  rw [parseEither]
  split
  · rename_i rest hrest
    exact ⟨.inr, fun h => h.resolve_left (parse_ne_ok_of_tag hrest)⟩
  · rename_i hrest
    have htagged : parseTagged t ≠ .ok v := by
      intro h
      obtain ⟨s, rfl, -⟩ := parseTagged_eq_ok_iff.1 h
      exact hrest s.toList (by simp)
    exact ⟨.inl, fun h => h.resolve_right htagged⟩

theorem toOption_parseEither_eq_some_iff :
    (parseEither t).toOption = some v ↔ EitherForm t v := by
  rw [← parseEither_eq_ok_iff]
  cases parseEither t with
  | ok w => simp [Except.toOption]
  | error e => simp [Except.toOption]

/-! ## Places where versions are read -/

theorem version?_eq_some_iff {j : Json} :
    UpdateConfig.version? j = some v ↔ ∃ t, j.text? = some t ∧ EitherForm t v := by
  simp only [UpdateConfig.version?, Option.bind_eq_bind, Option.bind_eq_some_iff,
    toOption_parseEither_eq_some_iff]

theorem argument_eq_some_iff {a : Arguments} {name : String} :
    Invocation.version? a name = some v ↔ ∃ t, a.value? name = some t ∧ EitherForm t v := by
  simp only [Invocation.version?, Option.bind_eq_bind, Option.bind_eq_some_iff,
    toOption_parseEither_eq_some_iff]

theorem isVersion_iff : Invocation.isVersion t = true ↔ ∃ v, EitherForm t v := by
  simp only [Invocation.isVersion, Option.isSome_iff_exists, toOption_parseEither_eq_some_iff]

/-- A text is a version exactly if it is spelled as one, and then its numbers and texts are those
spelled; there is one way to spell it.  Any other text is refused for its number of pieces if there
are not three, and else for a piece that is no numeral, with the text in front of the build text in
both cases; that a piece might have a sign does not matter.  The other form has a `v` in front.
Settings and command lines take either form, and nothing else. -/
theorem reads_by_grammar :
    (∀ s v, parse s = .ok v ↔ ∃ x : Spelling, x.text = s ∧ x.version = v) ∧
      Function.Injective Spelling.text ∧
      (∀ s e, parse s = .error e ↔ (¬ ∃ x : Spelling, x.text = s) ∧
        e = if (pieces s).length = 3 then .badPart (String.ofList (released s))
          else .wrongParts (String.ofList (released s))) ∧
      (∀ s given, ∀ digits ∈ pieces s, part given digits =
        (Decimal.signedBelow 0x100000000 digits).mapError fun _ => .badPart given) ∧
      (∀ t v, parseTagged t = .ok v ↔ ∃ s, t = "v" ++ s ∧ parse s = .ok v) ∧
      (∀ j v, UpdateConfig.version? j = some v ↔ ∃ t, j.text? = some t ∧ EitherForm t v) ∧
      (∀ t, Invocation.isVersion t = true ↔ ∃ v, EitherForm t v) ∧
      ∀ a name v, Invocation.version? a name = some v ↔
        ∃ t, a.value? name = some t ∧ EitherForm t v := by
  refine ⟨fun _ _ => parse_eq_ok_iff, Spelling.text_injective, fun _ _ => parse_eq_error_iff,
    ?_, ?_⟩
  · exact fun s given digits h => part_eq_signedBelow h
  · exact ⟨fun _ _ => parseTagged_eq_ok_iff, fun _ _ => version?_eq_some_iff,
      fun _ => isVersion_iff, fun _ _ _ => argument_eq_some_iff⟩

/-- A core with zeros in front, a pre-release with hyphens and a build text with both marks. -/
theorem reads_by_grammar_trial :
    ∃ v x, parse "01.8.2-rc-1+git+7-g" = .ok v ∧ Spelling.text x = "01.8.2-rc-1+git+7-g" ∧
      x.version = v ∧ v.pre = some "rc-1" ∧ v.build = some "git+7-g" ∧
      "01".toList ∈ pieces "01.8.2-rc-1+git+7-g" ∧
      part "01.8.2-rc-1" "01".toList =
        (Decimal.signedBelow 0x100000000 "01".toList).mapError fun _ => .badPart "01.8.2-rc-1" := by
  let v : Version :=
    { major := 1, minor := 8, patch := 2, pre := some "rc-1", build := some "git+7-g",
      complete := true }
  have hparse : parse "01.8.2-rc-1+git+7-g" = .ok v := by decide
  have hpiece : "01".toList ∈ pieces "01.8.2-rc-1+git+7-g" := by decide
  obtain ⟨x, htext, hversion⟩ := (reads_by_grammar.1 "01.8.2-rc-1+git+7-g" v).1 hparse
  have hpart := reads_by_grammar.2.2.2.1 "01.8.2-rc-1+git+7-g" "01.8.2-rc-1" "01".toList hpiece
  exact ⟨v, x, hparse, htext, hversion, rfl, rfl, hpiece, hpart⟩

end Version
end Reflash
