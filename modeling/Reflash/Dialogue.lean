/-!
# Dialogue — computations that consult their surroundings

A `Dialogue` either is done or asks a question and goes on with the answer.  Devices, operators,
release servers and clocks are only ever reached through questions, so a statement about a dialogue
that holds for all answers holds whatever the surroundings do.

* `Dialogue.run` — holds a dialogue in surroundings that answer from a state, and keeps the record
  of all exchanges;
* `Dialogue.relay` — puts each question in another form, for example addressed to one of several
  devices.
-/

namespace Reflash

/-- A computation that asks questions in `Q`; the answers to `q` are in `Answer q`. -/
inductive Dialogue {Q : Type} (Answer : Q → Type) (α : Type) : Type where
  | done (result : α)
  | ask (question : Q) (next : Answer question → Dialogue Answer α)

namespace Dialogue

variable {Q R : Type} {Answer : Q → Type} {Reply : R → Type} {α β σ : Type}

/-! ## Sequencing -/

def bind : Dialogue Answer α → (α → Dialogue Answer β) → Dialogue Answer β
  | .done a, f => f a
  | .ask q next, f => .ask q fun answer => (next answer).bind f

instance : Monad (Dialogue Answer) where
  pure := .done
  bind := bind

/-- Asks one question. -/
def query (q : Q) : Dialogue Answer (Answer q) :=
  .ask q .done

@[simp] theorem pure_eq (a : α) : (pure a : Dialogue Answer α) = .done a := rfl

@[simp] theorem done_bind (a : α) (f : α → Dialogue Answer β) :
    (Dialogue.done a >>= f) = f a := rfl

@[simp] theorem ask_bind (q : Q) (next : Answer q → Dialogue Answer α)
    (f : α → Dialogue Answer β) :
    (Dialogue.ask q next >>= f) = .ask q fun answer => next answer >>= f := rfl

theorem bind_done (d : Dialogue Answer α) : d >>= Dialogue.done = d := by
  induction d with
  | done a => rfl
  | ask q next ih => exact congrArg (Dialogue.ask q) (funext ih)

theorem bind_assoc {γ : Type} (d : Dialogue Answer α) (f : α → Dialogue Answer β)
    (g : β → Dialogue Answer γ) : d >>= f >>= g = d >>= fun a => f a >>= g := by
  induction d with
  | done a => rfl
  | ask q next ih => exact congrArg (Dialogue.ask q) (funext ih)

instance : LawfulMonad (Dialogue Answer) :=
  .mk' (Dialogue Answer) bind_done done_bind bind_assoc

/-! ## Surroundings -/

/-- A question with the answer it got. -/
abbrev Exchange (Answer : Q → Type) : Type :=
  (q : Q) × Answer q

/-- Surroundings answer every question, out of a state that the answer may change. -/
abbrev Surroundings (Answer : Q → Type) (σ : Type) : Type :=
  σ → (q : Q) → Answer q × σ

/-- What is left when a dialogue is over. -/
structure Outcome (Answer : Q → Type) (σ α : Type) where
  result : α
  record : List (Exchange Answer)
  state : σ

def run (surroundings : Surroundings Answer σ) : Dialogue Answer α → σ → Outcome Answer σ α
  | .done a, s => ⟨a, [], s⟩
  | .ask q next, s =>
      let (answer, s) := surroundings s q
      let rest := (next answer).run surroundings s
      { rest with record := ⟨q, answer⟩ :: rest.record }

/-- Puts every question in another form, and reads the answers back. -/
def relay (form : Q → R) (back : (q : Q) → Reply (form q) → Answer q) :
    Dialogue Answer α → Dialogue Reply α
  | .done a => .done a
  | .ask q next => .ask (form q) fun answer => (next (back q answer)).relay form back

theorem run_bind (surroundings : Surroundings Answer σ) (d : Dialogue Answer α)
    (f : α → Dialogue Answer β) (s : σ) :
    (d >>= f).run surroundings s =
      let first := d.run surroundings s
      let second := (f first.result).run surroundings first.state
      { second with record := first.record ++ second.record } := by
  induction d generalizing s with
  | done a => rfl
  | ask q next ih => simp [run, ih]

theorem relay_bind (form : Q → R) (back : (q : Q) → Reply (form q) → Answer q)
    (d : Dialogue Answer α) (f : α → Dialogue Answer β) :
    (d >>= f).relay form back = d.relay form back >>= fun a => (f a).relay form back := by
  induction d with
  | done a => rfl
  | ask q next ih =>
      exact congrArg (Dialogue.ask (form q)) (funext fun answer => ih (back q answer))

end Dialogue
end Reflash
