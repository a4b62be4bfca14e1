import Reflash.Json.Basic
import Reflash.Text.Hex

/-!
# Json.Printer — documents as texts

`Json.compact` writes a document without blanks, `Json.pretty` over several lines, two spaces a
level; an empty array or object stays on its line.
-/

namespace Reflash
namespace Json

def escaped (c : Char) : List Char :=
  match c with
  | '"' => ['\\', '"']
  | '\\' => ['\\', '\\']
  | '\x08' => ['\\', 'b']
  | '\x0c' => ['\\', 'f']
  | '\n' => ['\\', 'n']
  | '\r' => ['\\', 'r']
  | '\t' => ['\\', 't']
  | _ => if c.toNat < 0x20 then ['\\', 'u'] ++ Hex.padded 4 c.toNat else [c]

def quoted (s : String) : String :=
  String.ofList (['"'] ++ s.toList.flatMap escaped ++ ['"'])

/-- Writes a document; `breaks` is the line break and indentation of the level, or nothing. -/
def write (breaks : Nat → String) (colon : String) (level : Nat) : Json → String
  | .null => "null"
  | .bool b => if b then "true" else "false"
  | .num spelling => spelling
  | .str text => quoted (text.getD "")
  | .arr [] => "[]"
  | .arr items =>
      "[" ++ breaks (level + 1)
        ++ ("," ++ breaks (level + 1)).intercalate (items.attach.map fun ⟨j, _⟩ =>
          write breaks colon (level + 1) j)
        ++ breaks level ++ "]"
  | .obj [] => "\x7b\x7d"
  | .obj members =>
      "\x7b" ++ breaks (level + 1)
        ++ ("," ++ breaks (level + 1)).intercalate (members.attach.map fun ⟨(name, j), _⟩ =>
          quoted (name.getD "") ++ colon ++ write breaks colon (level + 1) j)
        ++ breaks level ++ "\x7d"
termination_by j => sizeOf j
decreasing_by
  · simp only [Json.arr.sizeOf_spec]
    have := List.sizeOf_lt_of_mem ‹j ∈ items›
    omega
  · simp only [Json.obj.sizeOf_spec]
    have := List.sizeOf_lt_of_mem ‹(name, j) ∈ members›
    simp only [Prod.mk.sizeOf_spec] at this
    omega

def compact (j : Json) : String :=
  j.write (fun _ => "") ":" 0

def pretty (j : Json) : String :=
  j.write (fun level => "\n" ++ String.ofList (List.replicate (2 * level) ' ')) ": " 0

end Json
end Reflash
