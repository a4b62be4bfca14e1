import Mathlib.Data.List.Basic
import Reflash.Image.Cursor

/-!
# Image.Cursor — what readers take from the data

* `Cursor.Reads m c a c'` — at `c`, the reader `m` gives `a` and stops at `c'`;
* `Cursor.TakesExactly size m` — whenever `m` succeeds it has passed `size` bytes, and it would make
  the same of these bytes anywhere;
* `Cursor.LooksAhead m` — when `m` succeeds, it would make the same of the bytes ahead whatever it
  has passed.

The equations take a reader apart along its text, as long as it succeeds.
-/

namespace Reflash
namespace Cursor

variable {α β : Type} {m : ReadM α} {c c' d : Cursor} {a : α} {b : β} {e : ParseError}
  {size more : Nat}

theorem ext (hdata : c.data = d.data) (hposition : c.position = d.position) : c = d := by
  cases c
  cases d
  cases hdata
  cases hposition
  rfl

theorem length_ahead (c : Cursor) : c.ahead.length = c.remaining := by
  simp [ahead, remaining]

theorem length_take_ahead (h : size ≤ c.remaining) : (c.ahead.take size).length = size := by
  rw [List.length_take, length_ahead, Nat.min_eq_left h]

/-- Further on, less is ahead. -/
theorem ahead_eq_drop (hdata : d.data = c.data) (hposition : d.position = c.position + size) :
    d.ahead = c.ahead.drop size := by
  rw [ahead, ahead, hdata, hposition, List.drop_drop]

def Reads (m : ReadM α) (c : Cursor) (a : α) (c' : Cursor) : Prop :=
  m.run.run c = (.ok a, c')

/-! ## Taking readers apart -/

@[simp] theorem reads_pure {a' : α} : Reads (pure a) c a' c' ↔ a' = a ∧ c' = c := by
  constructor
  · intro h
    cases h
    exact ⟨rfl, rfl⟩
  · rintro ⟨rfl, rfl⟩
    rfl

@[simp] theorem not_reads_throw : ¬ Reads (throw e) c a c' := by
  intro h
  cases h

theorem run_bind {f : α → ReadM β} :
    (m >>= f).run.run c = match m.run.run c with
      | (.ok a, d) => (f a).run.run d
      | (.error e, d) => (.error e, d) := by
  rw [ExceptT.run_bind, StateT.run_bind]
  rcases m.run.run c with ⟨x | x, d⟩
  · rfl
  · rfl

theorem reads_bind {f : α → ReadM β} :
    Reads (m >>= f) c b c' ↔ ∃ a d, Reads m c a d ∧ Reads (f a) d b c' := by
  rw [Reads, run_bind]
  constructor
  · intro h
    rcases hm : m.run.run c with ⟨x | x, d⟩
    · rw [hm] at h
      cases h
    · rw [hm] at h
      exact ⟨x, d, hm, h⟩
  · rintro ⟨x, d, hm, hf⟩
    rw [Reads] at hm
    rw [hm]
    exact hf

@[simp] theorem reads_map {f : α → β} :
    Reads (f <$> m) c b c' ↔ ∃ a, Reads m c a c' ∧ b = f a := by
  rw [← bind_pure_comp, reads_bind]
  constructor
  · rintro ⟨a, d, hm, hpure⟩
    obtain ⟨rfl, rfl⟩ := reads_pure.1 hpure
    exact ⟨a, hm, rfl⟩
  · rintro ⟨a, hm, rfl⟩
    exact ⟨a, c', hm, reads_pure.2 ⟨rfl, rfl⟩⟩

/-- A check that may end the reading, in front of the rest. -/
theorem reads_unless {p : Prop} [Decidable p] {rest : Unit → ReadM α} :
    Reads (if p then (do let u ← throw e; rest u) else rest ()) c a c' ↔
      ¬ p ∧ Reads (rest ()) c a c' := by
  by_cases h : p
  · simp [h]
  · simp [h]

/-! ## Bytes -/

theorem run_read (size : Nat) (c : Cursor) :
    (read size).run.run c =
      if h : size ≤ c.remaining then (.ok (c.ahead.take size), c.advance size h)
      else (.error (.truncated c.position size), c) := by
  change ((if h : size ≤ c.remaining then do
      set (c.advance size h)
      return c.ahead.take size
    else throw (.truncated c.position size) : ReadM Bytes)).run.run c = _
  split
  · rfl
  · rfl

@[simp] theorem reads_read {bytes : Bytes} :
    Reads (read size) c bytes c' ↔
      size ≤ c.remaining ∧ bytes = c.ahead.take size ∧ c'.data = c.data ∧
        c'.position = c.position + size := by
  rw [Reads, run_read]
  by_cases h : size ≤ c.remaining
  · rw [dif_pos h]
    constructor
    · intro hpair
      cases hpair
      exact ⟨h, rfl, rfl, rfl⟩
    · rintro ⟨-, rfl, hdata, hposition⟩
      have hcursor : c' = c.advance size h := ext hdata hposition
      rw [hcursor]
  · rw [dif_neg h]
    constructor
    · intro hpair
      cases hpair
    · intro hread
      exact absurd hread.1 h

@[simp] theorem reads_expect {mark : Bytes} {u : Unit} :
    Reads (expect mark e) c u c' ↔ Reads (read mark.length) c mark c' := by
  rw [expect, reads_bind]
  constructor
  · rintro ⟨bytes, d, hread, hcheck⟩
    by_cases h : bytes = mark
    · obtain ⟨-, rfl⟩ : () = () ∧ c' = d := by simpa [h] using hcheck
      rwa [h] at hread
    · simp [h] at hcheck
  · intro hread
    exact ⟨mark, c', hread, by simp⟩

@[simp] theorem reads_number {n : Nat} :
    Reads (number size) c n c' ↔
      size ≤ c.remaining ∧ n = Bytes.littleEndian (c.ahead.take size) ∧ c'.data = c.data ∧
        c'.position = c.position + size := by
  rw [number, reads_map]
  constructor
  · rintro ⟨bytes, hbytes, rfl⟩
    obtain ⟨hsize, rfl, hrest⟩ := reads_read.1 hbytes
    exact ⟨hsize, rfl, hrest⟩
  · rintro ⟨hsize, rfl, hrest⟩
    exact ⟨_, reads_read.2 ⟨hsize, rfl, hrest⟩, rfl⟩

/-- A word is made of the number in its bytes. -/
theorem reads_map_number {f : Nat → β} :
    Reads (f <$> number size) c b c' ↔
      size ≤ c.remaining ∧ b = f (Bytes.littleEndian (c.ahead.take size)) ∧ c'.data = c.data ∧
        c'.position = c.position + size := by
  rw [reads_map]
  constructor
  · rintro ⟨n, hn, rfl⟩
    obtain ⟨hsize, rfl, hrest⟩ := reads_number.1 hn
    exact ⟨hsize, rfl, hrest⟩
  · rintro ⟨hsize, rfl, hrest⟩
    exact ⟨_, reads_number.2 ⟨hsize, rfl, hrest⟩, rfl⟩

@[simp] theorem reads_word32 {n : UInt32} :
    Reads word32 c n c' ↔
      4 ≤ c.remaining ∧ n = .ofNat (Bytes.littleEndian (c.ahead.take 4)) ∧ c'.data = c.data ∧
        c'.position = c.position + 4 :=
  reads_map_number

/-- What is ahead begins with the bytes that are read. -/
theorem ahead_eq_append {bytes : Bytes} (h : Reads (read size) c bytes c') :
    c.ahead = bytes ++ c'.ahead ∧ bytes.length = size := by
  obtain ⟨hsize, rfl, hdata, hposition⟩ := reads_read.1 h
  constructor
  · rw [ahead_eq_drop hdata hposition, List.take_append_drop]
  · exact length_take_ahead hsize

/-! ## Fields of fixed size -/

def TakesExactly (size : Nat) (m : ReadM α) : Prop :=
  ∀ ⦃c a c'⦄, Reads m c a c' →
    size ≤ c.remaining ∧ c'.data = c.data ∧ c'.position = c.position + size ∧
      ∀ d : Cursor, d.ahead.take size = c.ahead.take size → ∃ d', Reads m d a d'

namespace TakesExactly

theorem ahead_eq (h : TakesExactly size m) (hreads : Reads m c a c') :
    c'.ahead = c.ahead.drop size := by
  obtain ⟨-, hdata, hposition, -⟩ := h hreads
  exact ahead_eq_drop hdata hposition

theorem pure (a : α) : TakesExactly 0 (pure a : ReadM α) := by
  intro c a' c' h
  obtain ⟨rfl, rfl⟩ := reads_pure.1 h
  refine ⟨Nat.zero_le _, rfl, rfl, ?_⟩
  intro d _
  exact ⟨d, reads_pure.2 ⟨rfl, rfl⟩⟩

theorem bind {f : α → ReadM β} (hm : TakesExactly size m) (hf : ∀ a, TakesExactly more (f a)) :
    TakesExactly (size + more) (m >>= f) := by
  intro c b c'' h
  obtain ⟨a, c', ha, hb⟩ := reads_bind.1 h
  obtain ⟨hsize, hdata, hposition, hsame⟩ := hm ha
  obtain ⟨hmore, hdata', hposition', hsame'⟩ := hf a hb
  refine ⟨?_, hdata'.trans hdata, by omega, ?_⟩
  · have hlength : c'.remaining = c.remaining - size := by
      rw [remaining, remaining, hdata, hposition, Nat.sub_add_eq]
    omega
  · intro d hd
    -- Both parts find the bytes that they found at `c`.
    have hfirst : d.ahead.take size = c.ahead.take size := by
      simpa [List.take_take] using congrArg (List.take size) hd
    obtain ⟨d', hd'⟩ := hsame d hfirst
    have hrest : d'.ahead.take more = c'.ahead.take more := by
      rw [hm.ahead_eq hd', hm.ahead_eq ha]
      simpa [List.drop_take] using congrArg (List.drop size) hd
    obtain ⟨d'', hd''⟩ := hsame' d' hrest
    exact ⟨d'', reads_bind.2 ⟨a, d', hd', hd''⟩⟩

/-- A check that may end the reading takes nothing. -/
theorem guarded {p : Prop} [Decidable p] {rest : Unit → ReadM α} (h : TakesExactly size (rest ())) :
    TakesExactly size (if p then (do let u ← throw e; rest u) else rest ()) := by
  intro c a c' hreads
  obtain ⟨hp, hrest⟩ := reads_unless.1 hreads
  rw [if_neg hp]
  exact h hrest

theorem read (size : Nat) : TakesExactly size (read size) := by
  intro c bytes c' h
  obtain ⟨hsize, rfl, hdata, hposition⟩ := reads_read.1 h
  refine ⟨hsize, hdata, hposition, ?_⟩
  intro d hd
  have hlength : size ≤ d.remaining := by
    have hsame := congrArg List.length hd
    simp only [List.length_take, length_ahead] at hsame
    omega
  exact ⟨d.advance size hlength, reads_read.2 ⟨hlength, hd.symm, rfl, rfl⟩⟩

theorem map {f : α → β} (hm : TakesExactly size m) : TakesExactly size (f <$> m) := by
  rw [← bind_pure_comp]
  exact hm.bind fun a => pure (f a)

theorem skip (size : Nat) : TakesExactly size (skip size) :=
  (read size).bind fun _ => pure ()

theorem expect (mark : Bytes) (e : ParseError) :
    TakesExactly mark.length (expect mark e) := by
  intro c u c' h
  obtain ⟨hsize, hdata, hposition, hsame⟩ := read mark.length (reads_expect.1 h)
  refine ⟨hsize, hdata, hposition, ?_⟩
  intro d hd
  obtain ⟨d', hd'⟩ := hsame d hd
  exact ⟨d', reads_expect.2 hd'⟩

theorem number (size : Nat) : TakesExactly size (number size) :=
  (read size).map

theorem word16 : TakesExactly 2 word16 :=
  (number 2).map

theorem word32 : TakesExactly 4 word32 :=
  (number 4).map

end TakesExactly

/-! ## Readers that only look ahead -/

/-- Whenever `m` succeeds, it would make the same of the bytes ahead whatever was passed before. -/
def LooksAhead (m : ReadM α) : Prop :=
  ∀ ⦃c a c' d⦄, Reads m c a c' → d.ahead = c.ahead → ∃ d', Reads m d a d' ∧ d'.ahead = c'.ahead

theorem TakesExactly.looksAhead (h : TakesExactly size m) : LooksAhead m := by
  intro c a c' d hreads hahead
  obtain ⟨-, -, -, helsewhere⟩ := h hreads
  obtain ⟨d', hd'⟩ := helsewhere d (congrArg (List.take size) hahead)
  refine ⟨d', hd', ?_⟩
  rw [h.ahead_eq hd', h.ahead_eq hreads, hahead]

namespace LooksAhead

theorem bind {f : α → ReadM β} (hm : LooksAhead m) (hf : ∀ a, LooksAhead (f a)) :
    LooksAhead (m >>= f) := by
  intro c b c'' d h hahead
  obtain ⟨a, c', ha, hb⟩ := reads_bind.1 h
  obtain ⟨d', hd', hahead'⟩ := hm ha hahead
  obtain ⟨d'', hd'', hahead''⟩ := hf a hb hahead'
  exact ⟨d'', reads_bind.2 ⟨a, d', hd', hd''⟩, hahead''⟩

theorem pure (a : α) : LooksAhead (pure a : ReadM α) :=
  (TakesExactly.pure a).looksAhead

theorem throw (e : ParseError) : LooksAhead (throw e : ReadM α) := by
  intro c a c' d h
  exact absurd h not_reads_throw

end LooksAhead

/-! ## What readers come to -/

def start (data : Bytes) : Cursor :=
  ⟨data, 0, Nat.zero_le _⟩

@[simp] theorem remaining_start (data : Bytes) : (start data).remaining = data.length :=
  rfl

@[simp] theorem position_start (data : Bytes) : (start data).position = 0 :=
  rfl

/-- The result of reading on from a cursor, which may be a failure. -/
def outcome (m : ReadM α) (c : Cursor) : Except ParseError α :=
  (m.run.run c).1

theorem runOn_eq_outcome (m : ReadM α) (data : Bytes) : runOn m data = outcome m (start data) :=
  rfl

theorem outcome_eq_ok_iff : outcome m c = .ok a ↔ ∃ c', Reads m c a c' := by
  constructor
  · intro h
    exact ⟨(m.run.run c).2, Prod.ext h rfl⟩
  · rintro ⟨c', h⟩
    rw [Reads] at h
    rw [outcome, h]

theorem outcome_bind_of_reads {f : α → ReadM β} (h : Reads m c a d) :
    outcome (m >>= f) c = outcome (f a) d := by
  rw [Reads] at h
  rw [outcome, run_bind, h]
  rfl

theorem outcome_bind_of_error {f : α → ReadM β} (h : outcome m c = .error e) :
    outcome (m >>= f) c = .error e := by
  rw [outcome] at h
  rw [outcome, run_bind]
  rcases hrun : m.run.run c with ⟨x | x, d⟩
  · rw [hrun] at h
    exact congrArg Except.error (Except.error.inj h)
  · rw [hrun] at h
    cases h

theorem outcome_get_bind {f : Cursor → ReadM α} : outcome (get >>= f) c = outcome (f c) c :=
  rfl

theorem outcome_read_bind {f : Bytes → ReadM α} :
    outcome (read size >>= f) c =
      if h : size ≤ c.remaining then outcome (f (c.ahead.take size)) (c.advance size h)
      else .error (.truncated c.position size) := by
  rw [outcome, run_bind, run_read]
  by_cases h : size ≤ c.remaining
  · rw [dif_pos h, dif_pos h]
    rfl
  · rw [dif_neg h, dif_neg h]

theorem outcome_skip_bind {f : Unit → ReadM α} :
    outcome (skip size >>= f) c =
      if h : size ≤ c.remaining then outcome (f ()) (c.advance size h)
      else .error (.truncated c.position size) := by
  rw [skip, bind_assoc, outcome_read_bind]
  rfl

/-! ## From the start of the data -/

variable {data data' : Bytes}

theorem runOn_eq_ok_iff : runOn m data = .ok a ↔ ∃ c', Reads m (start data) a c' :=
  outcome_eq_ok_iff

theorem TakesExactly.runOn (hm : TakesExactly size m) (h : runOn m data = .ok a)
    (hsame : data'.take size = data.take size) : runOn m data' = .ok a := by
  obtain ⟨c', hc'⟩ := runOn_eq_ok_iff.1 h
  obtain ⟨-, -, -, helsewhere⟩ := hm hc'
  exact runOn_eq_ok_iff.2 (helsewhere (start data') hsame)

end Cursor
end Reflash
