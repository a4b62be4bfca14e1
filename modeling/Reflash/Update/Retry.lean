/-!
# Update.Retry — a bounded number of attempts

Between two attempts there is a pause, but none before the first one and after the last one.
-/

namespace Reflash

/-- One of several attempts; `index` counts from zero. -/
structure Attempt where
  index : Nat
  total : Nat
  deriving DecidableEq, Repr

namespace Attempt

def isLast (a : Attempt) : Bool :=
  a.total ≤ a.index + 1

def text (a : Attempt) : String :=
  s!"try {a.index + 1} of {a.total}"

end Attempt

/-- Attempts that are still to be made, with pauses in milliseconds. -/
structure Retries where
  total : Nat
  pause : Nat := 500
  next : Nat := 0
  deriving DecidableEq, Repr

namespace Retries

/-- The next attempt, the pause before it, and what is left. -/
def next? (r : Retries) : Option (Option Nat × Attempt × Retries) :=
  if r.next < r.total then
    some (if r.next = 0 then none else some r.pause, ⟨r.next, r.total⟩,
      { r with next := r.next + 1 })
  else none

/-- Up to `count` attempts, the pauses between them, and what is left. -/
def take : (count : Nat) → Retries → List Attempt × List Nat × Retries
  | 0, r => ([], [], r)
  | count + 1, r =>
      match r.next? with
      | none => ([], [], r)
      | some (pause, attempt, rest) =>
          let (attempts, pauses, rest) := take count rest
          (attempt :: attempts, pause.toList ++ pauses, rest)

/-- All attempts that are left. -/
def all (r : Retries) : List Attempt × List Nat × Retries :=
  r.take r.total

end Retries
end Reflash
