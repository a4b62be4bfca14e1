import Reflash.Json.Decoder.Record

/-!
# Container.Manifest — what a container says about itself

The manifest tells the device, the version and the entry of each image, and may ask for versions of
the software that installs it.
-/

namespace Reflash

/-- In the order of their names, and each name once. -/
def InNameOrder (entries : List (String × String)) : Prop :=
  entries.Pairwise fun a b => a.1 < b.1

structure ContainerManifest where
  device : String := ""
  version : String := ""
  client : Option String := none
  sdk : Option String := none
  /-- The entry for each variant. -/
  images : List (String × String) := []
  images_inNameOrder : InNameOrder images := by simp [InNameOrder]
  deriving DecidableEq, Repr

namespace ContainerManifest

/-! ## Entries in the order of their names -/

/-- Puts an entry in its place, which it takes from one of the same name. -/
def insertEntry (entry : String × String) : List (String × String) → List (String × String)
  | [] => [entry]
  | first :: rest =>
      if entry.1 < first.1 then entry :: first :: rest
      else if first.1 < entry.1 then first :: insertEntry entry rest
      else entry :: rest

def arrange (entries : List (String × String)) : List (String × String) :=
  entries.foldl (fun arranged entry => insertEntry entry arranged) []

theorem mem_insertEntry {entry other : String × String} {entries : List (String × String)}
    (h : other ∈ insertEntry entry entries) : other = entry ∨ other ∈ entries := by
  induction entries with
  | nil => exact .inl (List.mem_singleton.1 h)
  | cons first rest ih =>
      rw [insertEntry] at h
      split at h
      · exact List.mem_cons.1 h
      · split at h
        · rcases List.mem_cons.1 h with rfl | hrest
          · exact .inr List.mem_cons_self
          · exact (ih hrest).imp_right (List.mem_cons_of_mem first)
        · exact (List.mem_cons.1 h).imp_right (List.mem_cons_of_mem first)

theorem inNameOrder_insertEntry {entry : String × String} {entries : List (String × String)}
    (h : InNameOrder entries) : InNameOrder (insertEntry entry entries) := by
  induction entries with
  | nil => exact List.pairwise_singleton _ entry
  | cons first rest ih =>
      obtain ⟨hfirst, hrest⟩ := List.pairwise_cons.1 h
      rw [insertEntry]
      split
      next hbefore =>
        refine List.pairwise_cons.2 ⟨?_, h⟩
        intro other hother
        rcases List.mem_cons.1 hother with rfl | hother
        · exact hbefore
        · exact String.lt_trans hbefore (hfirst other hother)
      next hbefore =>
        split
        next hbehind =>
          refine List.pairwise_cons.2 ⟨?_, ih hrest⟩
          intro other hother
          rcases mem_insertEntry hother with rfl | hother
          · exact hbehind
          · exact hfirst other hother
        next hbehind =>
          -- Neither name is before the other one, so that the entry takes the place of the first.
          have hname : entry.1 = first.1 :=
            String.le_antisymm (String.not_lt.1 hbehind) (String.not_lt.1 hbefore)
          refine List.pairwise_cons.2 ⟨?_, hrest⟩
          intro other hother
          rw [hname]
          exact hfirst other hother

theorem inNameOrder_arrange (entries : List (String × String)) : InNameOrder (arrange entries) := by
  -- The induction is on what is still to be put in its place, whatever is in its place already.
  have hfold (arranged : List (String × String)) (h : InNameOrder arranged) :
      InNameOrder (entries.foldl (fun arranged entry => insertEntry entry arranged) arranged) := by
    induction entries generalizing arranged with
    | nil => exact h
    | cons entry rest ih => exact ih _ (inNameOrder_insertEntry h)
  exact hfold [] List.Pairwise.nil

/-! ## Reading -/

open Json.Decoder (Member)

def members : List (Member ContainerManifest) :=
  [ { name := "device", read := fun m => return { m with device := ← Json.Decoder.text } },
    { name := "version", read := fun m => return { m with version := ← Json.Decoder.text } },
    { name := "pynitrokey", isRequired := false
      read := fun m => return { m with client := ← Json.Decoder.nullable Json.Decoder.text } },
    { name := "sdk", isRequired := false
      read := fun m => return { m with sdk := ← Json.Decoder.nullable Json.Decoder.text } },
    { name := "images"
      read := fun m => do
        let images ← Json.Decoder.map Json.Decoder.text
        return { m with
          images := arrange images, images_inNameOrder := inNameOrder_arrange images } } ]

def decode (document : Bytes) : Except Json.Fault ContainerManifest :=
  (Json.Decoder.record "ContainerManifest" members {}).decode document

end ContainerManifest
end Reflash
