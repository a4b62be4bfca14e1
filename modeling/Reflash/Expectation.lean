import Reflash.Text.Decimal
import Reflash.Text.Quoted
import Reflash.Version.Text

/-!
# Expectation — results that are taken for granted

Where a result has to be there, its absence is reported in full: the report names the expectation
and quotes what was found instead.
-/

namespace Reflash
namespace Expectation

/-- A failure with its text as its only part. -/
def described (name text : String) : String :=
  s!"{name}({Text.quoted text})"

def must {α : Type} (result : Except String α) : Except String α :=
  result.mapError fun e => s!"must: unexpected Err: {Text.quoted e}"

def mustWith {α : Type} (context : String) (result : Except String α) : Except String α :=
  result.mapError fun e => s!"must_with: {context}: {Text.quoted e}"

def mustSome {α : Type} (context : String) (value : Option α) : Except String α :=
  match value with
  | some a => .ok a
  | none => .error s!"must_some: {context}"

/-- The failure of a result that has to fail. -/
def mustFail {α : Type} [ToString α] : Except String α → Except String String
  | .ok a => .error s!"must_err: unexpected Ok: {toString a}"
  | .error e => .ok e

def mustParse {ε α : Type} (describe : ε → String) (parse : String → Except ε α) (text : String) :
    Except String α :=
  (parse text).mapError fun e =>
    s!"must_parse: failed to parse {Text.quoted text}: {describe e}"

/-- Why a number could not be read. -/
def describeNumber (f : Decimal.Fault) : String :=
  let kind := match f with
    | .empty => "Empty"
    | .invalidDigit => "InvalidDigit"
    | .overflow => "PosOverflow"
  "ParseIntError \x7b kind: " ++ kind ++ " \x7d"

def describeVersion : VersionError → String
  | .wrongParts text => described "InvalidVersion" text
  | .badPart text => described "InvalidComponent" text
  | .missingV text => described "MissingPrefix" text
  | .badBcd word => s!"InvalidBcd({word.toNat})"

def mustParseWord : String → Except String Nat :=
  mustParse describeNumber fun s => Decimal.signedBelow 0x10000 s.toList

def mustParseVersion : String → Except String Version :=
  mustParse describeVersion Version.parse

end Expectation
end Reflash
