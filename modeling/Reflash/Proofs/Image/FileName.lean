import Reflash.Image.FileName
import Reflash.Proofs.Version.Grammar

/-!
# Image.FileName — which names are read, and as what

The endings that count are told here by what they consist of.  A version's text may hold any of the
separators, an extension or the name of another image: an ending takes all that stands before the
extension, and the first ending is the one that is read.

* `FileName.Heading` — what stands before the version in an ending;
* `FileName.Ending`, `FileName.Leftmost` — an ending, and the first one;
* `FileName.published_names_read_back` — names as they are published, and all names.
-/

namespace Reflash
namespace FileName

open Version (parseTagged)

variable {v w : Variant} {s rest text : List Char}

/-! ## Pieces -/

/-- The characters that a piece stands for. -/
inductive Piece.Spells : Piece → List Char → Prop where
  | exactly (text : String) : Spells (.exactly text) text.toList
  | anyTwo {x y : Char} : x ≠ '\n' → y ≠ '\n' → Spells .anyTwo [x, y]

theorem Piece.strip?_eq_some_iff {piece : Piece} :
    piece.strip? s = some rest ↔ ∃ t, piece.Spells t ∧ s = t ++ rest := by
  constructor
  · intro h
    cases piece with
    | exactly text =>
        simp only [strip?, Option.ite_none_right_eq_some, Option.some.injEq] at h
        obtain ⟨hbegins, rfl⟩ := h
        exact ⟨_, .exactly text,
          (List.prefix_iff_eq_append.1 (List.isPrefixOf_iff_prefix.1 hbegins)).symm⟩
    | anyTwo =>
        match s, h with
        | x :: y :: s, h =>
            simp only [strip?, Option.ite_none_right_eq_some, Option.some.injEq] at h
            obtain ⟨⟨hx, hy⟩, rfl⟩ := h
            exact ⟨[x, y], .anyTwo hx hy, rfl⟩
  · rintro ⟨t, h, rfl⟩
    cases h with
    | exactly text => simp [strip?]
    | anyTwo hx hy => simp [strip?, hx, hy]

/-- The characters that pieces stand for, one after the other. -/
inductive Spelled : List Piece → List Char → Prop where
  | nil : Spelled [] []
  | cons {piece : Piece} {pieces : List Piece} {t head : List Char} :
      piece.Spells t → Spelled pieces head → Spelled (piece :: pieces) (t ++ head)

theorem strip_all_eq_some_iff {pieces : List Piece} :
    pieces.foldlM (fun s piece => piece.strip? s) s = some rest ↔
      ∃ head, Spelled pieces head ∧ s = head ++ rest := by
  induction pieces generalizing s with
  | nil =>
      constructor
      · intro h
        cases h
        exact ⟨[], .nil, rfl⟩
      · rintro ⟨_, ⟨⟩, rfl⟩
        rfl
  | cons piece pieces ih =>
      rw [List.foldlM_cons]
      simp only [Option.bind_eq_bind, Option.bind_eq_some_iff, Piece.strip?_eq_some_iff, ih]
      constructor
      · rintro ⟨_, ⟨t, ht, rfl⟩, head, hhead, rfl⟩
        exact ⟨t ++ head, .cons ht hhead, (List.append_assoc ..).symm⟩
      · rintro ⟨_, hspelled, rfl⟩
        cases hspelled with
        | cons ht hhead => exact ⟨_, ⟨_, ht, List.append_assoc ..⟩, _, hhead, rfl⟩

theorem spelled_exactly {a : String} : Spelled [.exactly a] s ↔ s = a.toList := by
  constructor
  · rintro (_ | ⟨⟨⟩, ⟨⟩⟩)
    exact List.append_nil _
  · rintro rfl
    exact List.append_nil a.toList ▸ .cons (.exactly a) .nil

theorem spelled_around {a b : String} :
    Spelled [.exactly a, .anyTwo, .exactly b] s ↔
      ∃ x y, x ≠ '\n' ∧ y ≠ '\n' ∧ s = a.toList ++ [x, y] ++ b.toList := by
  constructor
  · rintro (_ | ⟨⟨⟩, _ | ⟨_ | ⟨hx, hy⟩, _ | ⟨⟨⟩, ⟨⟩⟩⟩⟩)
    exact ⟨_, _, hx, hy, by simp⟩
  · rintro ⟨x, y, hx, hy, rfl⟩
    have h := Spelled.cons (.exactly a) (.cons (.anyTwo hx hy) (.cons (.exactly b) .nil))
    simpa using h

/-! ## Endings -/

/-- What stands before the version in an ending. -/
inductive Heading : Variant → List Char → Prop where
  | lpc55 {kind : String} {x y : Char} : kind ∈ ["firmware", "alpha"] → x ≠ '\n' → y ≠ '\n' →
      Heading .lpc55 (kind.toList ++ "-nk3".toList ++ [x, y] ++ "-lpc55-".toList)
  | nrf52 {kind : String} {x y : Char} : kind ∈ ["firmware", "alpha"] → x ≠ '\n' → y ≠ '\n' →
      Heading .nrf52 (kind.toList ++ "-nk3".toList ++ [x, y] ++ "-nrf52-".toList)
  | nkpk {kind : String} : kind ∈ ["firmware", "alpha"] →
      Heading .nrf52 (kind.toList ++ "-nkpk-nrf52-".toList)

theorem heading_iff : Heading v s ↔ ∃ pieces ∈ beginnings v, Spelled pieces s := by
  constructor
  · rintro (⟨hkind, hx, hy⟩ | ⟨hkind, hx, hy⟩ | hkind)
    · refine ⟨_, List.mem_flatMap.2 ⟨_, hkind, List.mem_singleton_self _⟩,
        spelled_around.2 ⟨_, _, hx, hy, ?_⟩⟩
      rw [String.toList_append]
    · refine ⟨_, List.mem_flatMap.2 ⟨_, hkind, List.mem_cons_self⟩,
        spelled_around.2 ⟨_, _, hx, hy, ?_⟩⟩
      rw [String.toList_append]
    · refine ⟨_, List.mem_flatMap.2 ⟨_, hkind, List.mem_cons_of_mem _ List.mem_cons_self⟩,
        spelled_exactly.2 ?_⟩
      rw [String.toList_append]
  · rintro ⟨pieces, hpieces, hs⟩
    obtain ⟨kind, hkind, hpieces⟩ := List.mem_flatMap.1 hpieces
    cases v with
    | lpc55 =>
        obtain rfl := List.mem_singleton.1 hpieces
        obtain ⟨x, y, hx, hy, rfl⟩ := spelled_around.1 hs
        rw [String.toList_append]
        exact .lpc55 hkind hx hy
    | nrf52 =>
        obtain rfl | hpieces := List.mem_cons.1 hpieces
        · obtain ⟨x, y, hx, hy, rfl⟩ := spelled_around.1 hs
          rw [String.toList_append]
          exact .nrf52 hkind hx hy
        · obtain rfl := List.mem_singleton.1 hpieces
          obtain rfl := spelled_exactly.1 hs
          rw [String.toList_append]
          exact .nkpk hkind

/-- The kinds have different first letters. -/
theorem kind_eq_of_append_eq {kind other : String} {t : List Char}
    (hkind : kind ∈ ["firmware", "alpha"]) (hother : other ∈ ["firmware", "alpha"])
    (h : kind.toList ++ s = other.toList ++ t) :
    kind = other ∧ s = t := by
  simp only [List.mem_cons, List.not_mem_nil, or_false] at hkind hother
  rcases hkind with rfl | rfl
  · rcases hother with rfl | rfl
    · exact ⟨rfl, List.append_cancel_left h⟩
    · exact absurd (List.cons.inj h).1 (by decide)
  · rcases hother with rfl | rfl
    · exact absurd (List.cons.inj h).1 (by decide)
    · exact ⟨rfl, List.append_cancel_left h⟩

theorem eq_of_model_append_eq {x y x' y' : Char} {mark t : List Char}
    (h : "-nk3".toList ++ ([x, y] ++ (mark ++ s)) = "-nk3".toList ++ ([x', y'] ++ (mark ++ t))) :
    s = t :=
  List.append_cancel_left (List.append_inj_right (List.append_cancel_left h) rfl)

/-- No heading is the beginning of another one. -/
theorem Heading.eq_of_append_eq {a b t : List Char} (ha : Heading v a) (hb : Heading v b)
    (h : a ++ s = b ++ t) : s = t := by
  cases ha with
  | lpc55 hkind =>
      cases hb with
      | lpc55 hother =>
          simp only [List.append_assoc] at h
          exact eq_of_model_append_eq (kind_eq_of_append_eq hkind hother h).2
  | nrf52 hkind =>
      cases hb with
      | nrf52 hother =>
          simp only [List.append_assoc] at h
          exact eq_of_model_append_eq (kind_eq_of_append_eq hkind hother h).2
      | nkpk hother =>
          -- The models `nk3` and `nkpk` differ in their third letter.
          simp only [List.append_assoc] at h
          simpa using (kind_eq_of_append_eq hkind hother h).2
  | nkpk hkind =>
      cases hb with
      | nrf52 hother =>
          simp only [List.append_assoc] at h
          simpa using (kind_eq_of_append_eq hkind hother h).2
      | nkpk hother =>
          simp only [List.append_assoc] at h
          exact List.append_cancel_left (kind_eq_of_append_eq hkind hother h).2

theorem length_suffix (v : Variant) : (suffix v).length = 4 := by
  cases v with
  | lpc55 => simp [suffix]
  | nrf52 => simp [suffix]

theorem beforeExtension?_eq_some_iff :
    beforeExtension? v s = some text ↔ s = text ++ suffix v ∧ '\n' ∉ text := by
  simp only [beforeExtension?, Option.ite_none_right_eq_some, Option.some.injEq]
  constructor
  · rintro ⟨⟨hs, hline⟩, rfl⟩
    exact ⟨hs.symm, hline⟩
  · rintro ⟨rfl, hline⟩
    simp [hline]

/-- A heading, a text, and the extension. -/
structure Ending (v : Variant) (s text : List Char) : Prop where
  spelled : ∃ head, Heading v head ∧ s = head ++ (text ++ suffix v)
  oneLine : '\n' ∉ text

/-- The heading says where the text starts, and the extension where it ends. -/
theorem Ending.unique {other : List Char} (h : Ending v s text) (hother : Ending v s other) :
    text = other := by
  obtain ⟨a, ha, rfl⟩ := h.spelled
  obtain ⟨b, hb, heq⟩ := hother.spelled
  exact List.append_cancel_right (ha.eq_of_append_eq hb heq)

theorem strip_before_eq_some_iff {pieces : List Piece} :
    (pieces.foldlM (fun s piece => piece.strip? s) s >>= beforeExtension? v) = some text ↔
      ∃ head, Spelled pieces head ∧ s = head ++ (text ++ suffix v) ∧ '\n' ∉ text := by
  simp only [Option.bind_eq_bind, Option.bind_eq_some_iff, strip_all_eq_some_iff,
    beforeExtension?_eq_some_iff]
  constructor
  · rintro ⟨_, ⟨head, hhead, rfl⟩, rfl, hline⟩
    exact ⟨head, hhead, rfl, hline⟩
  · rintro ⟨head, hhead, hs, hline⟩
    exact ⟨_, ⟨head, hhead, hs⟩, rfl, hline⟩

theorem ending?_eq_some_iff : ending? v s = some text ↔ Ending v s text := by
  have hending (pieces : List Piece) (hpieces : pieces ∈ beginnings v) (text : List Char)
      (h : (pieces.foldlM (fun s piece => piece.strip? s) s >>= beforeExtension? v) = some text) :
      Ending v s text := by
    obtain ⟨head, hhead, hs, hline⟩ := strip_before_eq_some_iff.1 h
    exact ⟨⟨head, heading_iff.2 ⟨pieces, hpieces, hhead⟩, hs⟩, hline⟩
  -- Whichever beginnings fit, the text is the same, so the order in which they are tried does not
  -- matter.
  rw [ending?, Lists.findSome?_eq_some_iff fun a ha b hb p q hp hq =>
    (hending a ha p hp).unique (hending b hb q hq)]
  constructor
  · rintro ⟨pieces, hpieces, h⟩
    exact hending pieces hpieces text h
  · intro h
    obtain ⟨head, hhead, hs⟩ := h.spelled
    obtain ⟨pieces, hpieces, hspelled⟩ := heading_iff.1 hhead
    exact ⟨pieces, hpieces, strip_before_eq_some_iff.2 ⟨head, hspelled, hs, h.oneLine⟩⟩

theorem not_ending_nil : ¬ Ending v [] text := by
  intro h
  obtain ⟨head, -, hs⟩ := h.spelled
  have hlength := congrArg List.length hs
  simp [length_suffix] at hlength

theorem Ending.isSuffix (h : Ending v s text) : text ++ suffix v <:+ s := by
  obtain ⟨head, -, rfl⟩ := h.spelled
  exact List.suffix_append ..

/-! ## The first ending -/

/-- An ending with none before it. -/
structure Leftmost (v : Variant) (s : List Char) (place : Nat) (text : List Char) : Prop where
  ending : Ending v (s.drop place) text
  first : ∀ earlier < place, ∀ other, ¬ Ending v (s.drop earlier) other

theorem versionText?_eq_some_iff :
    versionText? v s = some text ↔ ∃ place, Leftmost v s place text := by
  induction s with
  | nil =>
      constructor
      · intro h
        cases h
      · rintro ⟨place, h⟩
        exact absurd (List.drop_nil ▸ h.ending) not_ending_nil
  | cons c rest ih =>
      rw [versionText?]
      cases hhere : ending? v (c :: rest) with
      | some here =>
          -- No place is before this one, and no other text ends an ending that begins here.
          have hending := ending?_eq_some_iff.1 hhere
          rw [Option.some_or, Option.some.injEq]
          constructor
          · rintro rfl
            exact ⟨0, hending, fun earlier hlt => absurd hlt (Nat.not_lt_zero _)⟩
          · rintro ⟨_ | place, h⟩
            · exact hending.unique h.ending
            · exact absurd hending (h.first 0 place.succ_pos here)
      | none =>
          -- The places are those of the rest, each one further on.
          have hnone (other : List Char) : ¬ Ending v (c :: rest) other := fun h => by
            rw [ending?_eq_some_iff.2 h] at hhere
            cases hhere
          rw [Option.none_or, ih]
          constructor
          · rintro ⟨place, h⟩
            refine ⟨place + 1, h.ending, fun earlier hlt => ?_⟩
            cases earlier with
            | zero => exact hnone
            | succ earlier => exact h.first earlier (Nat.lt_of_succ_lt_succ hlt)
          · rintro ⟨_ | place, h⟩
            · exact absurd h.ending (hnone text)
            · exact ⟨place, h.ending,
                fun earlier hlt => h.first (earlier + 1) (Nat.succ_lt_succ hlt)⟩

theorem Leftmost.isSuffix {place : Nat} (h : Leftmost v s place text) : text ++ suffix v <:+ s :=
  h.ending.isSuffix.trans (List.drop_suffix place s)

theorem suffix_injective : Function.Injective suffix := by
  intro v w h
  cases v with
  | lpc55 =>
      cases w with
      | lpc55 => rfl
      | nrf52 => simp [suffix] at h
  | nrf52 =>
      cases w with
      | lpc55 => simp [suffix] at h
      | nrf52 => rfl

/-- No extension is the end of another one. -/
theorem eq_of_suffix (hv : suffix v <:+ s) (hw : suffix w <:+ s) : v = w := by
  have hlength : (suffix v).length = (suffix w).length :=
    (length_suffix v).trans (length_suffix w).symm
  exact suffix_injective
    ((List.suffix_of_suffix_length_le hv hw (Nat.le_of_eq hlength)).eq_of_length hlength)

/-- At most one variant has an ending. -/
theorem versionText?_agree {other : List Char} (h : versionText? v s = some text)
    (hother : versionText? w s = some other) : v = w ∧ text = other := by
  obtain ⟨_, hv⟩ := versionText?_eq_some_iff.1 h
  obtain ⟨_, hw⟩ := versionText?_eq_some_iff.1 hother
  obtain rfl := eq_of_suffix ((List.suffix_append ..).trans hv.isSuffix)
    ((List.suffix_append ..).trans hw.isSuffix)
  exact ⟨rfl, Option.some.inj (h.symm.trans hother)⟩

theorem findSome?_versionText?_eq_some_iff {found : Variant × List Char} :
    Variant.all.findSome? (fun v => (versionText? v s).map (v, ·)) = some found ↔
      versionText? found.1 s = some found.2 := by
  have hfound (v : Variant) (found : Variant × List Char) :
      (versionText? v s).map (v, ·) = some found ↔
        v = found.1 ∧ versionText? v s = some found.2 := by
    rw [Option.map_eq_some_iff]
    constructor
    · rintro ⟨text, h, rfl⟩
      exact ⟨rfl, h⟩
    · rintro ⟨rfl, h⟩
      exact ⟨_, h, rfl⟩
  rw [Lists.findSome?_eq_some_iff]
  · simp only [hfound]
    constructor
    · rintro ⟨_, -, rfl, h⟩
      exact h
    · intro h
      exact ⟨found.1, by cases found.1 <;> decide, rfl, h⟩
  · intro v _ w _ p q hp hq
    obtain ⟨rfl, hp⟩ := (hfound v p).1 hp
    obtain ⟨rfl, hq⟩ := (hfound w q).1 hq
    exact Prod.ext (versionText?_agree hp hq).1 (versionText?_agree hp hq).2

theorem parse?_eq_some_iff {name : String} {version : Version} :
    parse? name = some (v, version) ↔
      ∃ text, versionText? v name.toList = some text ∧
        parseTagged (String.ofList text) = .ok version := by
  have hversion (text : List Char) :
      (parseTagged (String.ofList text)).toOption = some version ↔
        parseTagged (String.ofList text) = .ok version := by
    cases parseTagged (String.ofList text) with
    | error e => simp [Except.toOption]
    | ok result => simp [Except.toOption]
  rw [parse?, Option.bind_eq_bind, Option.bind_eq_some_iff]
  constructor
  · rintro ⟨⟨u, text⟩, hfound, h⟩
    obtain ⟨result, hresult, hpure⟩ := Option.bind_eq_some_iff.1 h
    obtain ⟨rfl, rfl⟩ := Prod.ext_iff.1 (Option.some.inj hpure)
    exact ⟨text, findSome?_versionText?_eq_some_iff.1 hfound, (hversion text).1 hresult⟩
  · rintro ⟨text, hfound, h⟩
    exact ⟨(v, text), findSome?_versionText?_eq_some_iff.2 hfound,
      Option.bind_eq_some_iff.2 ⟨version, (hversion text).2 h, rfl⟩⟩

/-! ## Names -/

variable {name : String} {version : Version}

theorem parse?_iff_leftmost :
    parse? name = some (v, version) ↔
      ∃ place s, Leftmost v name.toList place ("v" ++ s).toList ∧
        Version.parse s = .ok version := by
  simp only [parse?_eq_some_iff, versionText?_eq_some_iff, Version.parseTagged_eq_ok_iff]
  constructor
  · rintro ⟨text, ⟨place, h⟩, s, htext, hparse⟩
    rw [← String.toList_ofList (l := text), htext] at h
    exact ⟨place, s, h, hparse⟩
  · rintro ⟨place, s, h, hparse⟩
    exact ⟨_, ⟨place, h⟩, s, String.ofList_toList, hparse⟩

/-- A name that begins with a heading has its first ending there. -/
theorem parse?_of_heading {s : String} {head : List Char} (hhead : Heading v head)
    (hname : name.toList = head ++ (s.toList ++ suffix v)) (hversion : parseTagged s = .ok version)
    (hline : '\n' ∉ s.toList) : parse? name = some (v, version) := by
  refine parse?_eq_some_iff.2 ⟨s.toList, versionText?_eq_some_iff.2 ⟨0, ?_, ?_⟩, ?_⟩
  · exact ⟨⟨head, hhead, hname⟩, hline⟩
  · exact fun earlier hlt => absurd hlt (Nat.not_lt_zero _)
  · rwa [String.ofList_toList]

/-- The text of the version stands right before the extension. -/
theorem exists_before_of_parse? (h : parse? name = some (v, version)) :
    ∃ before s, name = before ++ ("v" ++ s) ++ String.ofList (suffix v) ∧
      Version.parse s = .ok version := by
  obtain ⟨place, s, hplace, hparse⟩ := parse?_iff_leftmost.1 h
  obtain ⟨before, hbefore⟩ := hplace.isSuffix
  refine ⟨String.ofList before, s, String.toList_injective ?_, hparse⟩
  simpa using hbefore.symm

/-- A name as it is published gives back the version that it is made of, with whatever its text
holds.  In any name the first ending is read, which is the one of the variant that the extension
belongs to. -/
theorem published_names_read_back :
    (∀ kind ∈ ["firmware", "alpha"], ∀ x y : Char, x ≠ '\n' → y ≠ '\n' →
      ∀ s version, parseTagged s = .ok version → '\n' ∉ s.toList →
        parse? (kind ++ "-nk3" ++ String.ofList [x, y] ++ "-lpc55-" ++ s ++ ".sb2") =
          some (.lpc55, version) ∧
        parse? (kind ++ "-nk3" ++ String.ofList [x, y] ++ "-nrf52-" ++ s ++ ".zip") =
          some (.nrf52, version) ∧
        parse? (kind ++ "-nkpk-nrf52-" ++ s ++ ".zip") = some (.nrf52, version)) ∧
      (∀ name v version, parse? name = some (v, version) ↔
        ∃ place s, Leftmost v name.toList place ("v" ++ s).toList ∧ Version.parse s = .ok version) ∧
      (∀ name version, parse? name = some (.lpc55, version) →
        ∃ before s, name = before ++ ("v" ++ s) ++ ".sb2" ∧ Version.parse s = .ok version) ∧
      ∀ name version, parse? name = some (.nrf52, version) →
        ∃ before s, name = before ++ ("v" ++ s) ++ ".zip" ∧ Version.parse s = .ok version := by
  refine ⟨?_, fun name v version => parse?_iff_leftmost, ?_, ?_⟩
  · intro kind hkind x y hx hy s version hversion hline
    refine ⟨?_, ?_, ?_⟩
    · exact parse?_of_heading (.lpc55 hkind hx hy) (by simp [suffix]) hversion hline
    · exact parse?_of_heading (.nrf52 hkind hx hy) (by simp [suffix]) hversion hline
    · exact parse?_of_heading (.nkpk hkind) (by simp [suffix]) hversion hline
  · intro name version h
    exact exists_before_of_parse? h
  · intro name version h
    exact exists_before_of_parse? h

/-- The version's text holds the name of another image. -/
theorem published_names_read_back_trial :
    let s := "v1.2.3-rc.1-firmware-nk3xn-lpc55-v9.9.9.sb2+git.7"
    let version : Version :=
      { major := 1, minor := 2, patch := 3, pre := some "rc.1-firmware-nk3xn-lpc55-v9.9.9.sb2",
        build := some "git.7", complete := true }
    parseTagged s = .ok version ∧ '\n' ∉ s.toList ∧
      parse? ("alpha" ++ "-nk3" ++ String.ofList ['-', '.'] ++ "-lpc55-" ++ s ++ ".sb2") =
        some (.lpc55, version) ∧
      parse? ("alpha-nkpk-nrf52-" ++ s ++ ".zip") = some (.nrf52, version) ∧
      ∃ place text,
        Leftmost .nrf52 ("alpha-nkpk-nrf52-" ++ s ++ ".zip").toList place ("v" ++ text).toList ∧
        Version.parse text = .ok version := by
  intro s version
  have hversion : parseTagged s = .ok version := by decide
  have hline : '\n' ∉ s.toList := by decide
  obtain ⟨hforms, hnames, -⟩ := published_names_read_back
  obtain ⟨hlpc55, -, hnkpk⟩ :=
    hforms "alpha" (by decide) '-' '.' (by decide) (by decide) s version hversion hline
  exact ⟨hversion, hline, hlpc55, hnkpk, (hnames _ _ _).1 hnkpk⟩

end FileName
end Reflash
