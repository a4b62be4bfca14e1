import Reflash.Json.Basic
import Reflash.Json.Token

/-!
# Json.Reader — documents from tokens

A document is read by a stack machine: each token either completes a value, which goes into the
innermost open array or object, or opens one.  `Json.read?` accepts a byte string that holds exactly
one document and blanks around it.
-/

namespace Reflash
namespace Json

/-- An array or object under way, its parts in reverse. -/
inductive Frame where
  | array (items : List Json)
  | object (members : List (Option String × Json)) (name : Option String)

/-- What may come next. -/
inductive Phase where
  | value
  | firstItem
  | firstName
  | name
  | colon
  | separator
  | finished (document : Json)

structure Reading where
  stack : List Frame
  phase : Phase

namespace Reading

/-- Hands a complete value to the innermost frame. -/
def complete (j : Json) : List Frame → Reading
  | [] => ⟨[], .finished j⟩
  | .array items :: stack => ⟨.array (j :: items) :: stack, .separator⟩
  | .object members name :: stack => ⟨.object ((name, j) :: members) none :: stack, .separator⟩

def close (stack : List Frame) : Token → Option Reading
  | .closeBracket =>
      match stack with
      | .array items :: stack => some (complete (.arr items.reverse) stack)
      | _ => none
  | .closeBrace =>
      match stack with
      | .object members _ :: stack => some (complete (.obj members.reverse) stack)
      | _ => none
  | _ => none

def value (stack : List Frame) : Token → Option Reading
  | .null => some (complete .null stack)
  | .bool b => some (complete (.bool b) stack)
  | .num spelling => some (complete (.num spelling) stack)
  | .str text => some (complete (.str text) stack)
  | .openBracket => some ⟨.array [] :: stack, .firstItem⟩
  | .openBrace => some ⟨.object [] none :: stack, .firstName⟩
  | _ => none

def memberName (stack : List Frame) : Token → Option Reading
  | .str text =>
      match stack with
      | .object members _ :: stack => some ⟨.object members text :: stack, .colon⟩
      | _ => none
  | _ => none

def separator (stack : List Frame) : Token → Option Reading
  | .comma =>
      match stack with
      | .array items :: stack => some ⟨.array items :: stack, .value⟩
      | .object members name :: stack => some ⟨.object members name :: stack, .name⟩
      | [] => none
  | t => close stack t

def step (r : Reading) (t : Token) : Option Reading :=
  match r.phase with
  | .value => value r.stack t
  | .firstItem => if t = .closeBracket then close r.stack t else value r.stack t
  | .firstName => if t = .closeBrace then close r.stack t else memberName r.stack t
  | .name => memberName r.stack t
  | .colon => if t = .colon then some ⟨r.stack, .value⟩ else none
  | .separator => separator r.stack t
  | .finished _ => none

end Reading

def ofTokens? (tokens : List Token) : Option Json :=
  match tokens.foldlM Reading.step ⟨[], .value⟩ with
  | some ⟨_, .finished document⟩ => some document
  | _ => none

def read? (b : Bytes) : Option Json :=
  (Token.scan b).bind ofTokens?

end Json
end Reflash
