import Reflash.Text.Hex
import Reflash.Text.Utf8

/-!
# Json.Token — the lexical level of a document

`Token.scan` cuts a byte string into tokens.  A string literal is first delimited, then its escapes
are resolved; a numeral is a run of number characters that has the shape of a number.
-/

namespace Reflash
namespace Json

inductive Token where
  | openBrace
  | closeBrace
  | openBracket
  | closeBracket
  | comma
  | colon
  | null
  | bool (b : Bool)
  | num (spelling : String)
  | str (text : Option String)
  deriving DecidableEq, Repr

namespace Token

/-! ## String literals -/

/-- What stands before the closing quote, escapes unresolved, and what follows it. -/
def literal : Bytes → Option (Bytes × Bytes)
  | [] => none
  | x :: rest =>
      if x = 0x22 then some ([], rest)
      else if x = 0x5C then
        match rest with
        | y :: rest => (literal rest).map fun (body, after) => (x :: y :: body, after)
        | [] => none
      else if x < 0x20 then none
      else (literal rest).map fun (body, after) => (x :: body, after)

theorem literal_length {b body after : Bytes} (h : literal b = some (body, after)) :
    after.length < b.length := by
  fun_induction literal b generalizing body after with
  | case1 => simp at h
  | case2 => simp_all
  | case3 y rest _ ih =>
      obtain ⟨⟨body', after'⟩, h', heq⟩ := Option.map_eq_some_iff.1 h
      cases heq
      have := ih h'
      simp only [List.length_cons]
      omega
  | case4 => simp at h
  | case5 => simp at h
  | case6 x rest _ _ _ ih =>
      obtain ⟨⟨body', after'⟩, h', heq⟩ := Option.map_eq_some_iff.1 h
      cases heq
      have := ih h'
      simp only [List.length_cons]
      omega

/-- A piece of a literal: a byte as it stands, or the 16-bit unit of a numeric escape. -/
inductive Piece where
  | byte (b : UInt8)
  | unit (u : Nat)
  deriving DecidableEq, Repr

/-- The byte that a one-letter escape stands for. -/
def escape? (b : UInt8) : Option UInt8 :=
  [(0x22, 0x22), (0x5C, 0x5C), (0x2F, 0x2F), (0x62, 0x08), (0x66, 0x0C), (0x6E, 0x0A), (0x72, 0x0D),
    (0x74, 0x09)].lookup b

/-- Resolves the escapes of a literal; fails on an escape that does not exist. -/
def pieces : Bytes → Option (List Piece)
  | 0x5C :: 0x75 :: a :: b :: c :: d :: rest => do
      let unit := 4096 * (← Hex.digit? a) + 256 * (← Hex.digit? b) + 16 * (← Hex.digit? c)
        + (← Hex.digit? d)
      return .unit unit :: (← pieces rest)
  | 0x5C :: e :: rest => do
      let byte ← escape? e
      return .byte byte :: (← pieces rest)
  | x :: rest => (pieces rest).map (.byte x :: ·)
  | [] => some []

/-- The text of a literal: surrogates must come in pairs, and the whole must be well-formed. -/
def text? (pieces : List Piece) : Option String :=
  (bytes pieces).bind fun b => (Utf8.decode b).toOption
where
  bytes : List Piece → Option Bytes
    | [] => some []
    | .byte b :: rest => (bytes rest).map (b :: ·)
    | .unit u :: rest =>
        if u < 0xD800 ∨ 0xDFFF < u then
          (bytes rest).map (Bytes.ofText (Char.ofNat u).toString ++ ·)
        else match rest with
          | .unit v :: rest =>
              if u < 0xDC00 ∧ 0xDC00 ≤ v ∧ v ≤ 0xDFFF then
                (bytes rest).map
                  (Bytes.ofText (Char.ofNat (0x10000 + 1024 * (u - 0xD800) + (v - 0xDC00))).toString
                    ++ ·)
              else none
          | _ => none

/-! ## Numerals -/

def isNumeral (b : UInt8) : Bool :=
  (0x30 ≤ b && b ≤ 0x39) || b == 0x2B || b == 0x2D || b == 0x2E || b == 0x45 || b == 0x65

/-- A number: an optional minus sign, an integer without superfluous zeros, and optionally a
fraction and an exponent. -/
def IsNumber (s : List Char) : Bool :=
  let unsigned := match s with | '-' :: rest => rest | _ => s
  let fraction := unsigned.dropWhile Char.isDigit
  let afterFraction :=
    match fraction with | '.' :: rest => rest.dropWhile Char.isDigit | _ => fraction
  let exponent := match afterFraction with
    | 'e' :: '+' :: rest | 'e' :: '-' :: rest | 'E' :: '+' :: rest | 'E' :: '-' :: rest
    | 'e' :: rest | 'E' :: rest => some rest
    | [] => none
    | _ => some []
  (match unsigned with
    | '0' :: c :: _ => !c.isDigit
    | c :: _ => c.isDigit
    | [] => false)
  && (match fraction with | '.' :: c :: _ => c.isDigit | '.' :: [] => false | _ => true)
  && (match exponent with | none => true | some digits => digits ≠ [] && digits.all Char.isDigit)

/-! ## Tokens -/

/-- Words and signs, with what is left after them. -/
def fixed? : Bytes → Option (Token × Bytes)
  | 0x7B :: rest => some (.openBrace, rest)
  | 0x7D :: rest => some (.closeBrace, rest)
  | 0x5B :: rest => some (.openBracket, rest)
  | 0x5D :: rest => some (.closeBracket, rest)
  | 0x2C :: rest => some (.comma, rest)
  | 0x3A :: rest => some (.colon, rest)
  | 0x6E :: 0x75 :: 0x6C :: 0x6C :: rest => some (.null, rest)
  | 0x74 :: 0x72 :: 0x75 :: 0x65 :: rest => some (.bool true, rest)
  | 0x66 :: 0x61 :: 0x6C :: 0x73 :: 0x65 :: rest => some (.bool false, rest)
  | _ => none

/-- The first token of a byte string that does not start with a blank. -/
def next? (b : Bytes) : Option (Token × Bytes) :=
  match b with
  | 0x22 :: rest => do
      let (body, after) ← literal rest
      return (.str (text? (← pieces body)), after)
  | x :: rest =>
      if isNumeral x then
        let spelling := (x :: rest.takeWhile isNumeral).map fun d => Char.ofNat d.toNat
        if IsNumber spelling then some (.num (String.ofList spelling), rest.dropWhile isNumeral)
        else none
      else fixed? b
  | [] => none

theorem length_dropWhile_le {p : UInt8 → Bool} (b : Bytes) : (b.dropWhile p).length ≤ b.length :=
  (List.dropWhile_sublist p).length_le

theorem fixed?_length {b after : Bytes} {t : Token} (h : fixed? b = some (t, after)) :
    after.length < b.length := by
  unfold fixed? at h
  split at h <;> simp at h <;> obtain ⟨_, rfl⟩ := h <;> simp only [List.length_cons] <;> omega

theorem next?_length {b after : Bytes} {t : Token} (h : next? b = some (t, after)) :
    after.length < b.length := by
  unfold next? at h
  split at h
  · next rest =>
      simp only [Option.bind_eq_bind, Option.bind_eq_some_iff] at h
      obtain ⟨⟨body, tail⟩, hl, ps, _, heq⟩ := h
      cases heq
      have := literal_length hl
      simp only [List.length_cons]
      omega
  · next x rest _ =>
      split at h
      · dsimp only at h
        split at h
        · cases h
          have := length_dropWhile_le (p := isNumeral) rest
          simp only [List.length_cons]
          omega
        · simp at h
      · exact fixed?_length h
  · simp at h

def isBlank (b : UInt8) : Bool :=
  b == 0x20 || b == 0x0A || b == 0x0D || b == 0x09

def scan (b : Bytes) : Option (List Token) :=
  match _h : b.dropWhile isBlank with
  | [] => some []
  | x :: rest =>
      match _hn : next? (x :: rest) with
      | some (t, after) => (scan after).map (t :: ·)
      | none => none
termination_by b.length
decreasing_by
  have h₁ := length_dropWhile_le (p := isBlank) b
  have h₂ := next?_length _hn
  rw [_h] at h₁
  omega

end Token
end Json
end Reflash
