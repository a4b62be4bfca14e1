import Reflash.Text.Decimal
import Reflash.Version.Basic

/-!
# Version.Order — precedence of versions

Cores come first.  Pre-releases are looked at only if both versions are complete: a pre-release
precedes its release, and two pre-releases are compared identifier by identifier.  Build texts never
count.  Since an incomplete version is level with every version of its core, being level is not
transitive.

* `Version.cmp` — the comparison;
* `Version.Level` — equality of versions, by core and pre-release text;
* `Version.selectByStart` — the entry that is in force at a version.
-/

namespace Reflash

/-- An identifier of a pre-release text; one of digits that a 64-bit word holds is a number. -/
inductive PreIdentifier where
  | number (n : Nat)
  | word (chars : List Char)
  deriving DecidableEq, Repr

namespace PreIdentifier

def ofChars (s : List Char) : PreIdentifier :=
  match Decimal.below? (0x10000000000000000) s with
  | some n => .number n
  | none => .word s

/-- Numbers precede words. -/
def cmp : PreIdentifier → PreIdentifier → Ordering
  | .number m, .number n => compare m n
  | .number _, .word _ => .lt
  | .word _, .number _ => .gt
  | .word s, .word t => compare (s.map Char.toNat) (t.map Char.toNat)

/-- Compares identifier by identifier; of two lists that agree as far as both go, the shorter
precedes. -/
def cmpList : List PreIdentifier → List PreIdentifier → Ordering
  | [], [] => .eq
  | [], _ :: _ => .lt
  | _ :: _, [] => .gt
  | a :: as, b :: bs => (a.cmp b).then (cmpList as bs)

def ofText (pre : String) : List PreIdentifier :=
  (pre.toList.splitOn '.').map ofChars

end PreIdentifier

namespace Version

def cmpCore (a b : Version) : Ordering :=
  (compare a.major b.major).then ((compare a.minor b.minor).then (compare a.patch b.patch))

def cmpPre : Option String → Option String → Ordering
  | none, none => .eq
  | none, some _ => .gt
  | some _, none => .lt
  | some a, some b => PreIdentifier.cmpList (PreIdentifier.ofText a) (PreIdentifier.ofText b)

def cmp (a b : Version) : Ordering :=
  match cmpCore a b with
  | .eq => if a.complete && b.complete then cmpPre a.pre b.pre else .eq
  | o => o

instance : LT Version where
  lt a b := a.cmp b = .lt

instance : LE Version where
  le a b := a.cmp b ≠ .gt

instance (a b : Version) : Decidable (a < b) :=
  inferInstanceAs (Decidable (a.cmp b = .lt))

instance (a b : Version) : Decidable (a ≤ b) :=
  inferInstanceAs (Decidable (a.cmp b ≠ .gt))

/-- Same core and, where both versions are complete, the same pre-release text. -/
def Level (a b : Version) : Prop :=
  a.triple = b.triple ∧ (a.complete = true ∧ b.complete = true → a.pre = b.pre)

instance (a b : Version) : Decidable (a.Level b) :=
  inferInstanceAs (Decidable (_ ∧ _))

/-! ## Entries in force

Entries are valid from a start version on.  In force is the one with the greatest start that does
not exceed the version; of several with that start, the first. -/

variable {α : Type}

/-- Keeps the entry found so far unless the next one starts later. -/
def later (start : α → Version) (best : Option α) (entry : α) : Option α :=
  match best with
  | some current => if start current < start entry then some entry else some current
  | none => some entry

def selectByStart (start : α → Version) (entries : List α) (version : Version) : Option α :=
  (entries.filter fun entry => decide (start entry ≤ version)).foldl (later start) none

end Version
end Reflash
