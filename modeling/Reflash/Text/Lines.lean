/-!
# Lines — cutting a text into parts

`cut?` divides a text at the first occurrence of a character, `cutPair?` at the first two
consecutive ones, and `lines` into lines: a line ends at a line feed, a carriage return right before
that belongs to the line end, and nothing follows the last line end.
-/

namespace Reflash
namespace Text

/-- What stands before and after the first `c`. -/
def cut? (c : Char) (s : List Char) : Option (List Char × List Char) :=
  match s.dropWhile (· ≠ c) with
  | [] => none
  | _ :: rest => some (s.takeWhile (· ≠ c), rest)

/-- What stands before and after the first two consecutive `c`. -/
def cutPair? (c : Char) : List Char → Option (List Char × List Char)
  | x :: y :: rest =>
      if x = c ∧ y = c then some ([], rest)
      else (cutPair? c (y :: rest)).map fun (before, after) => (x :: before, after)
  | _ => none

/-- The lines of a text, without their line ends. -/
def lines : List Char → List (List Char)
  | [] => []
  | '\n' :: rest => [] :: lines rest
  | '\r' :: '\n' :: rest => [] :: lines rest
  | c :: rest =>
      match lines rest with
      | l :: ls => (c :: l) :: ls
      | [] => [[c]]

end Text
end Reflash
