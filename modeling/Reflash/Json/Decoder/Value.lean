import Reflash.Json.Decoder.Literal
import Reflash.Json.Decoder.Number

/-!
# Json.Decoder.Value — texts, absent values, and values that nobody asks for

A value that nobody asks for is passed with a stack of the arrays and objects around it, so that its
depth has no limit.

* `Json.Decoder.text`, `Json.Decoder.nullable` — values of one kind;
* `Json.Decoder.passValue` — any value.
-/

namespace Reflash
namespace Json
namespace Decoder

/-! ## Values of the wrong kind -/

/-- Looks what a value is, as far as needed to tell of it. -/
def found : Decoder Found := do
  match ← peek with
  | some 0x6E => do
      pass 1
      word [0x75, 0x6C, 0x6C]
      return .null
  | some 0x74 => do
      pass 1
      word [0x72, 0x75, 0x65]
      return .bool true
  | some 0x66 => do
      pass 1
      word [0x61, 0x6C, 0x73, 0x65]
      return .bool false
  | some 0x2D => do
      pass 1
      number true
  | some 0x22 => do
      pass 1
      return .text (← literal)
  | some 0x5B => return .array
  | some 0x7B => return .object
  | some b => if isDigit b then number false else failAt .noValue
  | none => failAt .noValue

/-- Fails at a value of another kind than the one expected. -/
def wrongKind {α : Type} (expected : String) : Decoder α := do
  let value ← found
  failBehind (.wrongKind value expected)

/-! ## Values of one kind -/

def text : Decoder String := do
  match ← peekVisible with
  | none => failAt .endInValue
  | some 0x22 => do
      pass 1
      literal
  | some _ => wrongKind "a string"

/-- A value that may be `null`. -/
def nullable {α : Type} (value : Decoder α) : Decoder (Option α) := do
  match ← peekVisible with
  | some 0x6E => do
      pass 1
      word [0x75, 0x6C, 0x6C]
      return none
  | _ => return some (← value)

/-! ## Values that nobody asks for -/

/-- An array or an object around a value. -/
inductive Bracket where
  | array
  | object
  deriving DecidableEq, Repr

def Bracket.closing : Bracket → UInt8
  | .array => 0x5D
  | .object => 0x7D

/-- The name of a member of an object, with its colon. -/
def passName : Decoder Unit := do
  match ← peekVisible with
  | none => failAt .endInObject
  | some b => if b = 0x22 then pass 1 else failAt .noName
  passLiteral
  match ← peekVisible with
  | none => failAt .endInObject
  | some b => if b = 0x3A then pass 1 else failAt .noColon

/-- Passes what begins a value: all of it, or the bracket that it opens. -/
def passStart : Decoder (Option Bracket) := do
  match ← peekVisible with
  | none => failAt .endInValue
  | some 0x5B => do
      pass 1
      return some .array
  | some 0x7B => do
      pass 1
      return some .object
  | some 0x22 => do
      pass 1
      passLiteral
      return none
  | some 0x2D => do
      pass 1
      passNumber
      return none
  | some b => do
      if isDigit b then passNumber
      else if b = 0x6E ∨ b = 0x74 ∨ b = 0x66 then discard found
      else failAt .noValue
      return none

/-- Passes closing brackets up to where the next value is due; `isAfterValue` tells whether a comma
has to come before it.  There is none if the last bracket has been closed. -/
def passEnds (unclosed : List Bracket) (isAfterValue : Bool) : Decoder (List Bracket) :=
  repeatFrom (unclosed, isAfterValue) fun (stack, isAfterValue) => do
    match stack with
    | [] => return .inr []
    | inner :: outer =>
        match ← peekVisible with
        | none => failAt (if inner = .array then .endInArray else .endInObject)
        | some b =>
            if b = inner.closing then
              pass 1
              return .inl (outer, true)
            else if isAfterValue then
              if b = 0x2C then
                pass 1
                return .inr stack
              else failAt (if inner = .array then .noCommaInArray else .noCommaInObject)
            else return .inr stack

def passValue : Decoder Unit :=
  repeatFrom [] fun (unclosed : List Bracket) => do
    let stack ←
      match ← passStart with
      | some bracket => passEnds (bracket :: unclosed) false
      | none => passEnds unclosed true
    match stack with
    | [] => return .inr ()
    | inner :: _ =>
        if inner = .object then passName
        return .inl stack

end Decoder
end Json
end Reflash
