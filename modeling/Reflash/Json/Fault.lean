import Reflash.Bytes
import Reflash.Text.Quoted

/-!
# Json.Fault — why a document cannot be read as what it should be

A document may break the grammar, or it may be a document of another kind than the one asked for.  A
fault is reported with its line and its column, where a line feed ends a line and columns count
bytes.

* `Json.Fault.message` — the report.
-/

namespace Reflash
namespace Json

/-- What stands where something else was asked for. -/
inductive Found where
  | null
  | bool (b : Bool)
  | integer (n : Int)
  | real (spelling : String)
  | text (s : String)
  | array
  | object
  deriving DecidableEq, Repr

def Found.message : Found → String
  | .null => "null"
  | .bool b => "boolean `" ++ toString b ++ "`"
  | .integer n => "integer `" ++ toString n ++ "`"
  | .real spelling => "floating point `" ++ spelling ++ "`"
  | .text s => "string " ++ Text.quoted s
  | .array => "sequence"
  | .object => "map"

inductive Cause where
  | endInArray
  | endInObject
  | endInText
  | endInValue
  | noColon
  | noCommaInArray
  | noCommaInObject
  | badWord
  | noValue
  | badEscape
  | badNumber
  | hugeNumber
  | notUnicode
  | controlCharacter
  | noName
  | loneSurrogate
  | trailingComma
  | trailingCharacters
  | cutEscape
  | wrongKind (found : Found) (expected : String)
  | missingMember (name : String)
  | repeatedMember (name : String)
  | wrongLength (length : Nat) (expected : String)
  deriving DecidableEq, Repr

def Cause.message : Cause → String
  | .endInArray => "EOF while parsing a list"
  | .endInObject => "EOF while parsing an object"
  | .endInText => "EOF while parsing a string"
  | .endInValue => "EOF while parsing a value"
  | .noColon => "expected `:`"
  | .noCommaInArray => "expected `,` or `]`"
  | .noCommaInObject => "expected `,` or `\x7d`"
  | .badWord => "expected ident"
  | .noValue => "expected value"
  | .badEscape => "invalid escape"
  | .badNumber => "invalid number"
  | .hugeNumber => "number out of range"
  | .notUnicode => "invalid unicode code point"
  | .controlCharacter => "control character (\\u0000-\\u001F) found while parsing a string"
  | .noName => "key must be a string"
  | .loneSurrogate => "lone leading surrogate in hex escape"
  | .trailingComma => "trailing comma"
  | .trailingCharacters => "trailing characters"
  | .cutEscape => "unexpected end of hex escape"
  | .wrongKind found expected => "invalid type: " ++ found.message ++ ", expected " ++ expected
  | .missingMember name => "missing field `" ++ name ++ "`"
  | .repeatedMember name => "duplicate field `" ++ name ++ "`"
  | .wrongLength length expected =>
      "invalid length " ++ toString length ++ ", expected " ++ expected

structure Fault where
  cause : Cause
  line : Nat
  column : Nat
  deriving DecidableEq, Repr

/-- The fault behind the first `passed` bytes of a document. -/
def Fault.behind (document : Bytes) (passed : Nat) (cause : Cause) : Fault where
  cause
  line := (document.take passed).count 0x0A + 1
  column := ((document.take passed).reverse.takeWhile (· ≠ 0x0A)).length

def Fault.message (f : Fault) : String :=
  s!"{f.cause.message} at line {f.line} column {f.column}"

end Json
end Reflash
