import Reflash.Json.Decoder.Value

/-!
# Json.Decoder.Record — objects with a fixed set of members, and maps

A record is written as an object, or as the array of its members in order.  An object may hold
members that nobody asks for, but a member only once; an array may stop before members that may be
left out.

* `Json.Decoder.record` — a record;
* `Json.Decoder.map` — an object as a map.
-/

namespace Reflash
namespace Json
namespace Decoder

/-! ## Members and items -/

/-- The name of the next member of an object. -/
def nextName (isFirst : Bool) : Decoder (Option String) := do
  let sign ← peekVisible
  if sign = none then failAt .endInObject
  if sign = some 0x7D then return none
  let sign ←
    if isFirst then pure sign
    else if sign = some 0x2C then do
      pass 1
      peekVisible
    else failAt .noCommaInObject
  match sign with
  | none => failAt .endInValue
  | some 0x22 => do
      pass 1
      return some (← literal)
  | some b => failAt (if b = 0x7D then .trailingComma else .noName)

def colon : Decoder Unit := do
  match ← peekVisible with
  | none => failAt .endInObject
  | some b => if b = 0x3A then pass 1 else failAt .noColon

/-- Whether an array has another item. -/
def hasItem (isFirst : Bool) : Decoder Bool := do
  let sign ← peekVisible
  if sign = none then failAt .endInArray
  if sign = some 0x5D then return false
  let sign ←
    if isFirst then pure sign
    else if sign = some 0x2C then do
      pass 1
      peekVisible
    else failAt .noCommaInArray
  match sign with
  | none => failAt .endInValue
  | some b => if b = 0x5D then failAt .trailingComma else return true

def closeObject : Decoder Unit := do
  match ← peekVisible with
  | none => failAt .endInObject
  | some 0x7D => pass 1
  | some b => failAt (if b = 0x2C then .trailingComma else .trailingCharacters)

def closeArray : Decoder Unit := do
  match ← peekVisible with
  | none => failAt .endInArray
  | some 0x5D => pass 1
  | some 0x2C => do
      pass 1
      failAt (if (← peekVisible) = some 0x5D then .trailingComma else .trailingCharacters)
  | some _ => failAt .trailingCharacters

/-! ## Records -/

/-- A member of a record: how it is read into what is known so far. -/
structure Member (σ : Type) where
  name : String
  isRequired : Bool := true
  read : σ → Decoder σ

/-- The members of an object; a member that is missing is noted in their order. -/
def membersOf {σ : Type} (members : List (Member σ)) (start : σ) : Decoder σ := do
  let (known, names) ← repeatFrom (start, []) fun (known, names) => do
    match ← nextName names.isEmpty with
    | none => return .inr (known, names)
    | some name =>
        match members.find? (·.name = name) with
        | some member => do
            if name ∈ names then throw ⟨.repeatedMember name, none⟩
            colon
            return .inl (← member.read known, name :: names)
        | none => do
            colon
            passValue
            return .inl (known, name :: names)
  match members.find? fun member => member.isRequired ∧ member.name ∉ names with
  | some member => throw ⟨.missingMember member.name, none⟩
  | none => return known

/-- The members from the array of them; `index` counts those before. -/
def itemsOf {σ : Type} (expected : String) (index : Nat) :
    List (Member σ) → σ → Decoder σ
  | [], known => return known
  | member :: rest, known => do
      if ← hasItem (index = 0) then itemsOf expected (index + 1) rest (← member.read known)
      else if member.isRequired then throw ⟨.wrongLength index expected, none⟩
      else itemsOf expected (index + 1) rest known

/-- A record of some kind, which is read into what stands for no members at all. -/
def record {σ : Type} (kind : String) (members : List (Member σ)) (start : σ) : Decoder σ := do
  match ← peekVisible with
  | none => failAt .endInValue
  | some 0x7B => do
      pass 1
      enclosed (membersOf members start) closeObject
  | some 0x5B => do
      pass 1
      let count := toString members.length ++ if members.length = 1 then " element" else " elements"
      enclosed (itemsOf ("struct " ++ kind ++ " with " ++ count) 0 members start) closeArray
  | some _ => wrongKind ("struct " ++ kind)

/-! ## Maps -/

/-- An object as a map: of several members with one name, the last one counts. -/
def map {α : Type} (value : Decoder α) : Decoder (List (String × α)) := do
  match ← peekVisible with
  | none => failAt .endInValue
  | some 0x7B => do
      pass 1
      enclosed
        (repeatFrom (true, []) fun (isFirst, entries) => do
          match ← nextName isFirst with
          | none => return .inr entries
          | some name => do
              colon
              return .inl (false, entries.filter (·.1 ≠ name) ++ [(name, ← value)]))
        closeObject
  | some _ => wrongKind "a map"

end Decoder
end Json
end Reflash
