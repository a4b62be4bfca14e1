import Reflash.Proofs.Image.Cursor

/-!
# Image.Fields — readers of fields that have their places

Some data start with fields of fixed sizes, one behind the other, and a few of the fields hold a
mark.  Of such data only the first fault counts: a field that the data end before, or a mark that is
another one.

* `Field.fault?` — what is wrong with a field;
* `Field.Follows` — a reader goes through certain fields in turn, and makes its result of what
  stands at their places;
* `Field.Abut` — parts that follow each other without gaps, so that each of them is found at its
  place.
-/

namespace Reflash

/-- A field by its place and size; a field with a mark has to hold it. -/
structure Field where
  place : Nat
  size : Nat
  mark : Option Bytes := none
  deriving DecidableEq

namespace Field

open Cursor

variable {α β : Type} {m : ReadM α} {data rest : Bytes} {value : Bytes → α} {wrongMark : ParseError}
  {start middle stop size : Nat} {fields others : List Field}

/-! ## Faults -/

/-- Whether the data go on to the end of the field. -/
def Fits (data : Bytes) (f : Field) : Prop :=
  f.place + f.size ≤ data.length

instance : DecidablePred (Fits data) := fun f =>
  inferInstanceAs (Decidable (f.place + f.size ≤ data.length))

def content (data : Bytes) (f : Field) : Bytes :=
  (data.drop f.place).take f.size

/-- Whether another mark stands in the field than should. -/
def Mismarked (data : Bytes) (f : Field) : Prop :=
  ∃ mark ∈ f.mark, f.content data ≠ mark

instance : DecidablePred (Mismarked data) := fun f =>
  inferInstanceAs (Decidable (∃ mark ∈ f.mark, f.content data ≠ mark))

def fault? (wrongMark : ParseError) (data : Bytes) (f : Field) : Option ParseError :=
  if ¬ Fits data f then some (.truncated f.place f.size)
  else if Mismarked data f then some wrongMark
  else none

theorem fault?_of_not_fits {f : Field} (h : ¬ Fits data f) :
    fault? wrongMark data f = some (.truncated f.place f.size) :=
  if_pos h

theorem fault?_of_mismarked {f : Field} (hfits : Fits data f) (h : Mismarked data f) :
    fault? wrongMark data f = some wrongMark := by
  rw [fault?, if_neg (not_not.2 hfits), if_pos h]

theorem fault?_eq_none_iff {f : Field} :
    fault? wrongMark data f = none ↔ Fits data f ∧ ¬ Mismarked data f := by
  by_cases hfits : Fits data f
  · by_cases h : Mismarked data f
    · simp [fault?_of_mismarked hfits h, h]
    · simp [fault?, hfits, h]
  · simp [fault?_of_not_fits hfits, hfits]

/-! ## Readers -/

theorem fits_iff {f : Field} {c : Cursor} (hc : c.position = f.place) :
    Fits c.data f ↔ f.size ≤ c.remaining := by
  have hposition := c.position_le
  simp only [Fits, remaining]
  omega

/-- From `start` to `stop`, the reader goes through the fields. -/
structure Follows (wrongMark : ParseError) (start stop : Nat) (fields : List Field) (m : ReadM α)
    (value : Bytes → α) : Prop where
  fails : ∀ c e, c.position = start → fields.findSome? (fault? wrongMark c.data) = some e →
    outcome m c = .error e
  reads : ∀ c, c.position = start → fields.findSome? (fault? wrongMark c.data) = none →
    ∃ c', Reads m c (value c.data) c' ∧ c'.data = c.data ∧ c'.position = stop

namespace Follows

theorem pure (a : α) : Follows wrongMark start start [] (pure a) fun _ => a where
  fails _ _ _ h := nomatch h
  reads c hc _ := ⟨c, reads_pure.2 ⟨rfl, rfl⟩, rfl, hc⟩

theorem bind {f : α → ReadM β} {value' : α → Bytes → β}
    (hm : Follows wrongMark start middle fields m value)
    (hf : ∀ a, Follows wrongMark middle stop others (f a) (value' a)) :
    Follows wrongMark start stop (fields ++ others) (m >>= f)
      fun data => value' (value data) data where
  fails c e hc h := by
    rw [List.findSome?_append] at h
    cases hfirst : fields.findSome? (fault? wrongMark c.data) with
    | some e' =>
        obtain rfl : e' = e := by simpa [hfirst] using h
        exact outcome_bind_of_error (hm.fails c e' hc hfirst)
    | none =>
        obtain ⟨d, hd, hdata, hmiddle⟩ := hm.reads c hc hfirst
        rw [outcome_bind_of_reads hd]
        exact (hf _).fails d e hmiddle (by simpa [hfirst, hdata] using h)
  reads c hc h := by
    rw [List.findSome?_append, Option.or_eq_none_iff] at h
    obtain ⟨d, hd, hdata, hmiddle⟩ := hm.reads c hc h.1
    obtain ⟨c', hc', hdata', hstop⟩ := (hf (value c.data)).reads d hmiddle (hdata ▸ h.2)
    exact ⟨c', reads_bind.2 ⟨_, d, hd, hdata ▸ hc'⟩, hdata'.trans hdata, hstop⟩

theorem map {f : α → β} (hm : Follows wrongMark start stop fields m value) :
    Follows wrongMark start stop fields (f <$> m) fun data => f (value data) := by
  rw [← bind_pure_comp, ← List.append_nil fields]
  exact hm.bind fun a => pure (f a)

/-- One field, which the reader tries in each of three cases. -/
theorem single {f : Field}
    (hshort : ∀ c, c.position = f.place → ¬ f.size ≤ c.remaining →
      outcome m c = .error (.truncated f.place f.size))
    (hwrong : ∀ c, c.position = f.place → f.size ≤ c.remaining → Mismarked c.data f →
      outcome m c = .error wrongMark)
    (hright : ∀ c, c.position = f.place → f.size ≤ c.remaining → ¬ Mismarked c.data f →
      ∃ c', Reads m c (value c.data) c' ∧ c'.data = c.data ∧ c'.position = f.place + f.size) :
    Follows wrongMark f.place (f.place + f.size) [f] m value where
  fails c e hc h := by
    have hfault : fault? wrongMark c.data f = some e := by simpa using h
    by_cases hfits : Fits c.data f
    · by_cases hmark : Mismarked c.data f
      · rw [fault?_of_mismarked hfits hmark, Option.some.injEq] at hfault
        rw [hwrong c hc ((fits_iff hc).1 hfits) hmark, hfault]
      · rw [fault?_eq_none_iff.2 ⟨hfits, hmark⟩] at hfault
        cases hfault
    · rw [fault?_of_not_fits hfits, Option.some.injEq] at hfault
      rw [hshort c hc (mt (fits_iff hc).2 hfits), hfault]
  reads c hc h := by
    have hnone := List.findSome?_eq_none_iff.1 h f List.mem_cons_self
    obtain ⟨hfits, hmark⟩ := fault?_eq_none_iff.1 hnone
    exact hright c hc ((fits_iff hc).1 hfits) hmark

theorem read (start size : Nat) :
    Follows wrongMark start (start + size) [⟨start, size, none⟩] (read size)
      fun data => (data.drop start).take size := by
  refine single (f := ⟨start, size, none⟩) ?_ ?_ ?_
  · intro c hc hsize
    rw [outcome, run_read, dif_neg hsize, hc]
  · intro c _ _ hmark
    obtain ⟨mark, hnone, -⟩ := hmark
    cases hnone
  · intro c hc hsize _
    refine ⟨c.advance size hsize, reads_read.2 ⟨hsize, ?_, rfl, rfl⟩, rfl, ?_⟩
    · rw [ahead, hc]
    · exact congrArg (· + size) hc

theorem number (start size : Nat) :
    Follows wrongMark start (start + size) [⟨start, size, none⟩] (number size)
      fun data => Bytes.littleEndian ((data.drop start).take size) :=
  (read start size).map

theorem skip (start size : Nat) :
    Follows wrongMark start (start + size) [⟨start, size, none⟩] (skip size) fun _ => () :=
  (read start size).bind fun _ => pure ()

theorem expect (start : Nat) (mark : Bytes) :
    Follows wrongMark start (start + mark.length) [⟨start, mark.length, some mark⟩]
      (expect mark wrongMark) fun _ => () := by
  refine single (f := ⟨start, mark.length, some mark⟩) ?_ ?_ ?_
  · intro c hc hsize
    rw [Cursor.expect, outcome_read_bind, dif_neg hsize, hc]
  · intro c hc hsize hmark
    have hother : c.ahead.take mark.length ≠ mark := by
      rw [ahead, hc]
      simpa [Mismarked, content] using hmark
    rw [Cursor.expect, outcome_read_bind, dif_pos hsize, if_pos hother]
    rfl
  · intro c hc hsize hmark
    have hsame : c.ahead.take mark.length = mark := by
      rw [ahead, hc]
      simpa [Mismarked, content] using hmark
    refine ⟨c.advance mark.length hsize, reads_expect.2 (reads_read.2 ?_), rfl, ?_⟩
    · exact ⟨hsize, hsame.symm, rfl, rfl⟩
    · exact congrArg (· + mark.length) hc

end Follows

/-! ## The first fault -/

/-- Without wrong marks, it is the first field that the data end before. -/
theorem findSome?_of_find? {f : Field} (h : fields.find? (¬ Fits data ·) = some f)
    (hmarks : ∀ g ∈ fields, Fits data g → ¬ Mismarked data g) :
    fields.findSome? (fault? wrongMark data) = some (.truncated f.place f.size) := by
  obtain ⟨hf, before, after, rfl, hbefore⟩ := List.find?_eq_some_iff_append.1 h
  refine List.findSome?_eq_some_iff.2 ⟨before, f, after, rfl, ?_, ?_⟩
  · exact fault?_of_not_fits (by simpa using hf)
  · intro g hg
    have hfits : Fits data g := by simpa using hbefore g hg
    exact fault?_eq_none_iff.2 ⟨hfits, hmarks g (List.mem_append_left _ hg) hfits⟩

/-- A wrong mark that the data hold in full counts, since the fields before it are there. -/
theorem findSome?_of_mismarked {f : Field}
    (hordered : fields.Pairwise fun f g => f.place + f.size ≤ g.place) (hf : f ∈ fields)
    (hfits : Fits data f) (hmark : Mismarked data f) :
    fields.findSome? (fault? wrongMark data) = some wrongMark := by
  cases h : fields.findSome? (fault? wrongMark data) with
  | none =>
      have hnone := fault?_eq_none_iff.1 (List.findSome?_eq_none_iff.1 h f hf)
      exact absurd hmark hnone.2
  | some e =>
      obtain ⟨before, g, after, rfl, hg, hbefore⟩ := List.findSome?_eq_some_iff.1 h
      -- The first fault is in a field `g` up to `f`, whose end the data reach, since they reach
      -- that of `f`.
      have hgfits : Fits data g := by
        rcases List.mem_append.1 hf with hf | hf
        · exact absurd hmark (fault?_eq_none_iff.1 (hbefore f hf)).2
        rcases List.mem_cons.1 hf with rfl | hf
        · exact hfits
        · have hplaces : g.place + g.size ≤ f.place :=
            (List.pairwise_cons.1 (List.pairwise_append.1 hordered).2.1).1 f hf
          simp only [Fits] at hfits ⊢
          omega
      by_cases hgmark : Mismarked data g
      · rw [fault?_of_mismarked hgfits hgmark] at hg
        exact hg.symm
      · rw [fault?_eq_none_iff.2 ⟨hgfits, hgmark⟩] at hg
        cases hg

/-! ## Parts one after the other -/

/-- Parts with their places that follow each other from a place on. -/
def Abut : Nat → List (Nat × Bytes) → Prop
  | _, [] => True
  | place, (start, bytes) :: others => start = place ∧ Abut (place + bytes.length) others

variable {place : Nat} {parts : List (Nat × Bytes)} {front : Bytes}

/-- Written one after the other, the parts are at their places. -/
theorem Abut.part_eq (h : Abut front.length parts) :
    ∀ x ∈ parts, ((front ++ parts.flatMap Prod.snd ++ rest).drop x.1).take x.2.length = x.2 := by
  induction parts generalizing front with
  | nil => exact fun x hx => absurd hx List.not_mem_nil
  | cons first others ih =>
      obtain ⟨start, bytes⟩ := first
      obtain ⟨rfl, hothers⟩ := h
      intro x hx
      rcases List.mem_cons.1 hx with rfl | hx
      · simp
      · rw [← List.length_append] at hothers
        simpa using ih hothers x hx

/-- Data with the parts at their places have them one after the other. -/
theorem Abut.drop_eq (h : Abut place parts)
    (hparts : ∀ x ∈ parts, (data.drop x.1).take x.2.length = x.2) :
    ∃ rest, data.drop place = parts.flatMap Prod.snd ++ rest := by
  induction parts generalizing place with
  | nil => exact ⟨data.drop place, rfl⟩
  | cons first others ih =>
      obtain ⟨start, bytes⟩ := first
      obtain ⟨rfl, hothers⟩ := h
      obtain ⟨hfirst, hparts⟩ := List.forall_mem_cons.1 hparts
      obtain ⟨rest, hrest⟩ := ih hothers hparts
      refine ⟨rest, ?_⟩
      calc
        data.drop start =
          (data.drop start).take bytes.length ++ (data.drop start).drop bytes.length :=
          (List.take_append_drop _ _).symm
        _ = bytes ++ (others.flatMap Prod.snd ++ rest) := by
          rw [hfirst, List.drop_drop, hrest]
        _ = _ := by rw [List.flatMap_cons, List.append_assoc]

end Field
end Reflash
