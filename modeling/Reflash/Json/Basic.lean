/-!
# Json — documents as values

A number keeps its spelling, so that `1` and `1.0` stay different and no precision is lost.  A
string or a member's name that spells no text (ill-formed UTF-8, an unpaired surrogate) is `none`:
such a string may stand in a document wherever nobody reads it.

* `Json` — the documents;
* `Json.text?`, `Json.below?`, … — readings that fail on a value of another kind;
* `Json.fields?` — a document with a fixed set of fields.
-/

namespace Reflash

inductive Json where
  | null
  | bool (b : Bool)
  | num (spelling : String)
  | str (text : Option String)
  | arr (items : List Json)
  | obj (members : List (Option String × Json))
  deriving Repr, Inhabited

namespace Json

/-! ## Making documents -/

def text (s : String) : Json :=
  .str (some s)

def nat (n : Nat) : Json :=
  .num (toString n)

def int (n : Int) : Json :=
  .num (toString n)

/-- `null` stands for what is absent. -/
def option {α : Type} (encode : α → Json) : Option α → Json
  | some a => encode a
  | none => .null

def list {α : Type} (encode : α → Json) (items : List α) : Json :=
  .arr (items.map encode)

def object (members : List (String × Json)) : Json :=
  .obj (members.map fun (name, value) => (some name, value))

/-! ## Reading documents -/

def isNull : Json → Bool
  | .null => true
  | _ => false

def bool? : Json → Option Bool
  | .bool b => some b
  | _ => none

def text? : Json → Option String
  | .str t => t
  | _ => none

def items? : Json → Option (List Json)
  | .arr items => some items
  | _ => none

/-- An unsigned number spelled with digits alone. -/
def nat? : Json → Option Nat
  | .num spelling => if spelling.all Char.isDigit then spelling.toNat? else none
  | _ => none

def below? (bound : Nat) (j : Json) : Option Nat :=
  j.nat?.filter (· < bound)

def int? : Json → Option Int
  | .num spelling =>
      match spelling.toList with
      | '-' :: digits => (nat? (.num (String.ofList digits))).map fun n => -(n : Int)
      | _ => (nat? (.num spelling)).map Int.ofNat
  | _ => none

/-- The last member of that name. -/
def member? (name : String) : Json → Option Json
  | .obj members => (members.reverse.find? (·.1 == some name)).map (·.2)
  | _ => none

/-- The members of an object as a map: of several with one name, the last counts. -/
def members? : Json → Option (List (String × Json))
  | .obj members => members.foldlM (fun known (name, value) => do
      let name ← name
      return known.filter (·.1 ≠ name) ++ [(name, value)]) []
  | _ => none

/-- A choice among named cases, written as the name or as an object that maps it to `null`. -/
def caseName? : Json → Option String
  | .str name => name
  | .obj [(name, .null)] => name
  | _ => none

/-! ## Documents with a fixed set of fields

Such a document is written as an object or as the array of its fields in order.  An object may hold
members that nobody asks for, but a field only once; an array may stop early, and whoever reads a
field says what it means that it is not there. -/

/-- The values of the fields, in order. -/
def fields? (names : List String) : Json → Option (List (Option Json))
  | .obj members =>
      if members.all (·.1.isSome) ∧ names.all fun name => members.countP (·.1 == some name) ≤ 1 then
        some (names.map fun name => members.lookup (some name))
      else none
  | .arr items =>
      if items.length ≤ names.length then some (names.zipIdx.map fun (_, i) => items[i]?) else none
  | _ => none

/-- A field with a value for when it is not there. -/
def orElse? {α : Type} (decode : Json → Option α) (default : α) : Option Json → Option α
  | some value => decode value
  | none => some default

end Json
end Reflash
