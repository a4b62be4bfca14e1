import Reflash.Proofs.Version.Precedence
import Reflash.Update.Migration

/-!
# Update.Migration — which updates pass a migration

A migration lies between the versions that do not have it yet and those that have it.  An update
brings it about if it comes from the ones and leads to the others.

* `Migration.Ahead`, `Migration.Behind` — the two sides of a migration;
* `contains_of_some`, `contains_of_none` — the migrations of an update by these sides;
* `migrations_by_core` — they go by cores only and grow with the distance, and the patience with the
  device grows with them;
* `migrations_by_stages` — what an update in two stages brings about, and the one stop that loses a
  migration.
-/

namespace Reflash

open Migrations (coreVersion)

variable {model : Model} {variant : Variant} {a b c v v' : Version} {m : Migration}

/-! ## The two sides of a migration -/

namespace Migration

/-- The devices that a migration is for. -/
def Concerns (m : Migration) (model : Model) (variant : Variant) : Prop :=
  model = .nk3 ∧ (m = .nrfFileSystem → variant = .nrf52)

/-- The version is from before the migration. -/
def Ahead (m : Migration) (v : Version) : Prop :=
  match m with
  | .nrfFileSystem => v ≤ coreVersion 1 2 2
  | .fileSystemV2 => v < coreVersion 1 8 2

/-- The version has the migration. -/
def Behind (m : Migration) (v : Version) : Prop :=
  match m with
  | .nrfFileSystem => coreVersion 1 3 0 ≤ v
  | .fileSystemV2 => coreVersion 1 8 2 ≤ v

/-- The version is taken neither for one from before the migration, nor for one that has it. -/
def Between (m : Migration) (v : Version) : Prop :=
  ¬ m.Ahead v ∧ ¬ m.Behind v

/-- The sides are told by incomplete versions, so that pre-releases do not count. -/
theorem Ahead.of_rank_le (h : m.Ahead v) (hrank : v'.rank ≤ v.rank) : m.Ahead v' := by
  cases m with
  | nrfFileSystem =>
      have hv : v.rank ≤ (coreVersion 1 2 2).rank := (Version.le_iff_of_incomplete (.inr rfl)).1 h
      exact (Version.le_iff_of_incomplete (.inr rfl)).2 (hrank.trans hv)
  | fileSystemV2 =>
      have hv : v.rank < (coreVersion 1 8 2).rank := (Version.lt_iff_of_incomplete (.inr rfl)).1 h
      exact (Version.lt_iff_of_incomplete (.inr rfl)).2 (hrank.trans_lt hv)

theorem Behind.of_rank_le (h : m.Behind v) (hrank : v.rank ≤ v'.rank) : m.Behind v' := by
  cases m with
  | nrfFileSystem =>
      have hv : (coreVersion 1 3 0).rank ≤ v.rank := (Version.le_iff_of_incomplete (.inl rfl)).1 h
      exact (Version.le_iff_of_incomplete (.inl rfl)).2 (hv.trans hrank)
  | fileSystemV2 =>
      have hv : (coreVersion 1 8 2).rank ≤ v.rank := (Version.le_iff_of_incomplete (.inl rfl)).1 h
      exact (Version.le_iff_of_incomplete (.inl rfl)).2 (hv.trans hrank)

/-- The sides of the second migration meet, those of the first leave the versions between 1.2.2 and
1.3.0 out. -/
theorem between_iff :
    m.Between v ↔ m = .nrfFileSystem ∧ coreVersion 1 2 2 < v ∧ v < coreVersion 1 3 0 := by
  cases m with
  | nrfFileSystem => simp [Between, Ahead, Behind, Version.not_le_iff]
  | fileSystemV2 =>
      have hmeet : ¬ v < coreVersion 1 8 2 → coreVersion 1 8 2 ≤ v := Version.not_lt_iff.1
      simpa [Between, Ahead, Behind] using hmeet

theorem sixty_le_retries (m : Migration) : 60 ≤ m.retries := by
  cases m <;> decide

end Migration

/-! ## The migrations of an update -/

namespace Migrations

variable {s t : Migrations} {n : Nat}

instance : HasSubset Migrations where
  Subset s t := ∀ m, s.contains m → t.contains m

theorem eq_iff_contains : s = t ↔ ∀ m, s.contains m ↔ t.contains m := by
  constructor
  · rintro rfl m
    rfl
  · intro h
    have hnrf : s.nrfFileSystem = t.nrfFileSystem := Bool.eq_iff_iff.2 (h .nrfFileSystem)
    have hv2 : s.fileSystemV2 = t.fileSystemV2 := Bool.eq_iff_iff.2 (h .fileSystemV2)
    cases s
    cases t
    cases hnrf
    cases hv2
    rfl

theorem contains_union : (s.union t).contains m ↔ s.contains m ∨ t.contains m := by
  cases m <;> simp [contains, union]

theorem contains_of_some :
    (of model variant (some a) c).contains m ↔
      m.Concerns model variant ∧ m.Ahead a ∧ m.Behind c := by
  by_cases hmodel : model = .nk3
  · cases m with
    | nrfFileSystem =>
        simp [of, contains, crosses, hmodel, Migration.Concerns, Migration.Ahead, Migration.Behind]
    | fileSystemV2 =>
        simp [of, contains, hmodel, Migration.Concerns, Migration.Ahead, Migration.Behind]
  · cases m <;> simp [of, contains, hmodel, Migration.Concerns]

theorem contains_of_none :
    (of model variant none c).contains m ↔
      m.Concerns model variant ∧ m = .nrfFileSystem := by
  by_cases hmodel : model = .nk3
  · cases m <;> simp [of, contains, hmodel, Migration.Concerns]
  · cases m <;> simp [of, contains, hmodel, Migration.Concerns]

/-- A shorter update brings about no other migrations than a longer one. -/
theorem of_subset_of {new new' : Version} (hcurrent : v'.rank ≤ v.rank)
    (hnew : new.rank ≤ new'.rank) :
    of model variant (some v) new ⊆ of model variant (some v') new' := by
  intro m hm
  obtain ⟨hconcerns, hahead, hbehind⟩ := contains_of_some.1 hm
  exact contains_of_some.2 ⟨hconcerns, hahead.of_rank_le hcurrent, hbehind.of_rank_le hnew⟩

theorem of_congr {current current' : Option Version} {new new' : Version}
    (hcurrent : current.map Version.triple = current'.map Version.triple)
    (hnew : new.triple = new'.triple) :
    of model variant current new = of model variant current' new' := by
  have hrank := Version.rank_eq_iff.2 hnew
  cases current with
  | none =>
      cases current' with
      | none => exact eq_iff_contains.2 fun m => contains_of_none.trans contains_of_none.symm
      | some v' => simp at hcurrent
  | some v =>
      cases current' with
      | none => simp at hcurrent
      | some v' =>
          have hv : v.rank = v'.rank := Version.rank_eq_iff.2 (by simpa using hcurrent)
          exact eq_iff_contains.2 fun m =>
            ⟨of_subset_of hv.ge hrank.le m, of_subset_of hv.le hrank.ge m⟩

/-! ## Patience -/

theorem mem_toList : m ∈ s.toList ↔ s.contains m := by
  cases m <;> simp [toList, Migration.all]

theorem foldl_max_le_iff {list : List Nat} {start : Nat} :
    list.foldl max start ≤ n ↔ start ≤ n ∧ ∀ k ∈ list, k ≤ n := by
  induction list generalizing start with
  | nil => simp
  | cons k list ih => simp [ih, and_assoc]

/-- The patience with a device is the least that does for it without any migration, and for each
migration. -/
theorem retries_le_iff : s.retries ≤ n ↔ 60 ≤ n ∧ ∀ m, s.contains m → m.retries ≤ n := by
  simp [retries, foldl_max_le_iff, mem_toList]

theorem sixty_le_retries (s : Migrations) : 60 ≤ s.retries :=
  (retries_le_iff.1 le_rfl).1

theorem retries_le_retries (hm : s.contains m) : m.retries ≤ s.retries :=
  (retries_le_iff.1 le_rfl).2 m hm

theorem retries_mono (h : s ⊆ t) : s.retries ≤ t.retries :=
  retries_le_iff.2 ⟨sixty_le_retries t, fun m hm => retries_le_retries (h m hm)⟩

theorem retries_eq_max? (s : Migrations) :
    s.retries = (s.toList.map Migration.retries).max?.getD 60 := by
  have hfold : s.retries = max 60 ((s.toList.map Migration.retries).max?.getD 60) := List.foldl_max
  rw [hfold, max_eq_right]
  cases hmax : (s.toList.map Migration.retries).max? with
  | none => exact le_rfl
  | some n =>
      obtain ⟨m, -, rfl⟩ := List.mem_map.1 (List.max?_mem hmax)
      exact m.sixty_le_retries

/-- The migrations of an update look at nothing but the cores of the two versions; they are more for
an older installed version and for a newer one to come.  The device is waited for as often as its
most patient migration asks for, or 60 times without any, so that more migrations never mean less
patience. -/
theorem migrations_by_core :
    (∀ (model : Model) (variant : Variant) (current current' : Option Version) (new new' : Version),
        current.map Version.triple = current'.map Version.triple → new.triple = new'.triple →
          of model variant current new = of model variant current' new') ∧
      (∀ (model : Model) (variant : Variant) (current current' new new' : Version),
        current' ≤ current → new ≤ new' →
          of model variant (some current) new ⊆ of model variant (some current') new') ∧
      (∀ s : Migrations, s.retries = (s.toList.map Migration.retries).max?.getD 60) ∧
      (∀ s t : Migrations, s ⊆ t → s.retries ≤ t.retries) ∧
      ∀ s : Migrations, 60 ≤ s.retries ∧ ∀ m, s.contains m → m.retries ≤ s.retries := by
  refine ⟨fun _ _ _ _ _ _ => of_congr, ?_, retries_eq_max?, fun _ _ => retries_mono, ?_⟩
  · intro model variant current current' new new' hcurrent hnew
    exact of_subset_of (Version.rank_le_of_le hcurrent) (Version.rank_le_of_le hnew)
  · intro s
    exact ⟨sixty_le_retries s, fun m => retries_le_retries⟩

/-- Candidates of 1.2.2 and 1.3.0 count as these versions, and a longer update has both
migrations. -/
theorem migrations_by_core_trial :
    let candidate (v : Version) : Version := { v with pre := some "rc.1", complete := true }
    let short :=
      of .nk3 .nrf52 (some (candidate (coreVersion 1 2 2))) (candidate (coreVersion 1 3 0))
    let long := of .nk3 .nrf52 (some (coreVersion 1 2 0)) (candidate (coreVersion 1 8 2))
    short = of .nk3 .nrf52 (some (coreVersion 1 2 2)) (coreVersion 1 3 0) ∧ short ⊆ long ∧
      short.toList = [.nrfFileSystem] ∧ long.toList = [.nrfFileSystem, .fileSystemV2] ∧
      short.retries ≤ long.retries := by
  intro candidate short long
  obtain ⟨hcore, hgrows, -, hpatience, -⟩ := migrations_by_core
  have hsubset : short ⊆ long := hgrows .nk3 .nrf52 _ _ _ _ (by decide) (by decide)
  exact ⟨hcore .nk3 .nrf52 _ _ _ _ rfl rfl, hsubset, rfl, rfl, hpatience short long hsubset⟩

/-! ## Updates in two stages -/

/-- An NRF52 device goes from 1.2.2 or before to 1.3.0 or after, and stops in between. -/
structure LosesByStop (model : Model) (variant : Variant) (a b c : Version) : Prop where
  isNk3 : model = .nk3
  isNrf52 : variant = .nrf52
  start : a ≤ coreVersion 1 2 2
  stop : coreVersion 1 2 2 < b ∧ b < coreVersion 1 3 0
  goal : coreVersion 1 3 0 ≤ c

/-- One stage or the other passes every migration that the update passes, unless the stop is at
neither side of it. -/
theorem contains_staged (hab : a ≤ b) (hbc : b ≤ c) :
    ((of model variant (some a) b).union (of model variant (some b) c)).contains m ↔
      (of model variant (some a) c).contains m ∧ ¬ m.Between b := by
  have hab' := Version.rank_le_of_le hab
  have hbc' := Version.rank_le_of_le hbc
  rw [contains_union, contains_of_some, contains_of_some, contains_of_some]
  constructor
  · rintro (⟨hconcerns, hahead, hbehind⟩ | ⟨hconcerns, hahead, hbehind⟩)
    · exact ⟨⟨hconcerns, hahead, hbehind.of_rank_le hbc'⟩, fun hbetween => hbetween.2 hbehind⟩
    · exact ⟨⟨hconcerns, hahead.of_rank_le hab', hbehind⟩, fun hbetween => hbetween.1 hahead⟩
  · rintro ⟨⟨hconcerns, hahead, hbehind⟩, hbetween⟩
    -- What is ahead at the stop is left to the second stage, what is behind came with the first.
    by_cases hb : m.Ahead b
    · exact .inr ⟨hconcerns, hb, hbehind⟩
    · have hb' : m.Behind b := not_not.1 fun hb' => hbetween ⟨hb, hb'⟩
      exact .inl ⟨hconcerns, hahead, hb'⟩

theorem losesByStop_iff :
    LosesByStop model variant a b c ↔
      (of model variant (some a) c).contains .nrfFileSystem ∧
        Migration.nrfFileSystem.Between b := by
  rw [contains_of_some, Migration.between_iff]
  constructor
  · intro h
    exact ⟨⟨⟨h.isNk3, fun _ => h.isNrf52⟩, h.start, h.goal⟩, rfl, h.stop⟩
  · rintro ⟨⟨⟨hmodel, hvariant⟩, hahead, hbehind⟩, -, hstop⟩
    exact ⟨hmodel, hvariant rfl, hahead, hstop, hbehind⟩

/-- An update in two stages brings about the migrations of the direct one, unless it loses one by
its stop; then it is the first migration, and no other, that is missing. -/
theorem migrations_by_stages (model : Model) (variant : Variant) {a b c : Version} (hab : a ≤ b)
    (hbc : b ≤ c) :
    let direct := of model variant (some a) c
    let staged := (of model variant (some a) b).union (of model variant (some b) c)
    (direct = staged ↔ ¬ LosesByStop model variant a b c) ∧
      (LosesByStop model variant a b c →
        direct = { staged with nrfFileSystem := true } ∧ staged.nrfFileSystem = false) := by
  intro direct staged
  have hstaged : ∀ m, staged.contains m ↔ direct.contains m ∧ ¬ m.Between b :=
    fun m => contains_staged hab hbc
  have hsecond : staged.contains .fileSystemV2 ↔ direct.contains .fileSystemV2 := by
    rw [hstaged, Migration.between_iff]
    simp
  have hloses : LosesByStop model variant a b c ↔
      direct.contains .nrfFileSystem ∧ ¬ staged.contains .nrfFileSystem := by
    rw [losesByStop_iff, hstaged]
    tauto
  constructor
  · rw [eq_iff_contains, hloses]
    constructor
    · rintro h ⟨hdirect, hnot⟩
      exact hnot ((h _).1 hdirect)
    · intro h m
      cases m with
      | nrfFileSystem =>
          constructor
          · intro hdirect
            by_contra hnot
            exact h ⟨hdirect, hnot⟩
          · intro hs
            exact ((hstaged _).1 hs).1
      | fileSystemV2 => exact hsecond.symm
  · intro h
    obtain ⟨hdirect, hnot⟩ := hloses.1 h
    refine ⟨eq_iff_contains.2 fun m => ?_, by simpa [contains] using hnot⟩
    cases m with
    | nrfFileSystem => exact iff_of_true hdirect rfl
    | fileSystemV2 => exact hsecond.symm

/-- From 1.2.0 by way of 1.3.1 to 1.8.2, each stage has its migration. -/
theorem migrations_by_stages_trial :
    let v (minor patch : Nat) : Version := { major := 1, minor, patch, complete := true }
    v 2 0 ≤ v 3 1 ∧ v 3 1 ≤ v 8 2 ∧
      (of .nk3 .nrf52 (some (v 2 0)) (v 3 1)).toList = [.nrfFileSystem] ∧
      (of .nk3 .nrf52 (some (v 3 1)) (v 8 2)).toList = [.fileSystemV2] ∧
      of .nk3 .nrf52 (some (v 2 0)) (v 8 2) =
        (of .nk3 .nrf52 (some (v 2 0)) (v 3 1)).union (of .nk3 .nrf52 (some (v 3 1)) (v 8 2)) := by
  intro v
  have hab : v 2 0 ≤ v 3 1 := by decide
  have hbc : v 3 1 ≤ v 8 2 := by decide
  have hstop : ¬ LosesByStop .nk3 .nrf52 (v 2 0) (v 3 1) (v 8 2) := fun h =>
    absurd h.stop.2 (by decide)
  exact ⟨hab, hbc, rfl, rfl, (migrations_by_stages .nk3 .nrf52 hab hbc).1.2 hstop⟩

/-- A stop at 1.2.3 loses the migration between 1.2.2 and 1.3.0. -/
theorem migration_lost_by_stop :
    let v (minor patch : Nat) : Version := { major := 1, minor, patch, complete := true }
    v 2 2 ≤ v 2 3 ∧ v 2 3 ≤ v 3 0 ∧
      of .nk3 .nrf52 (some (v 2 2)) (v 3 0) ≠
        (of .nk3 .nrf52 (some (v 2 2)) (v 2 3)).union (of .nk3 .nrf52 (some (v 2 3)) (v 3 0)) := by
  decide

end Migrations
end Reflash
