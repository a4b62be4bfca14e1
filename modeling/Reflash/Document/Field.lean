import Reflash.Crypto.Error
import Reflash.Device.Model
import Reflash.Json.Basic
import Reflash.Version.Basic

/-!
# Document.Field — reading the fields of documents

Values are described by objects.  A field that is absent and one that is `null` mean the same; bytes
are texts of hexadecimal digits.
-/

namespace Reflash

/-- Why a document describes no value. -/
inductive DocumentError where
  /-- The document does not have the form of a description. -/
  | malformed
  | model (error : ModelError)
  | version (error : VersionError)
  | crypto (error : CryptoError)
  deriving DecidableEq, Repr

namespace Document

abbrev Reader (α : Type) : Type :=
  Json → Except DocumentError α

variable {α ε : Type}

/-! ## Plain values -/

def orMalformed (a : Option α) : Except DocumentError α :=
  match a with
  | some a => .ok a
  | none => .error .malformed

def text : Reader String :=
  fun j => orMalformed j.text?

def number : Reader Nat :=
  fun j => orMalformed j.nat?

def boolean : Reader Bool :=
  fun j => orMalformed j.bool?

def byte : Reader UInt8 :=
  fun j => return UInt8.ofNat (← number j)

def word : Reader UInt16 :=
  fun j => return UInt16.ofNat (← number j)

def bytes : Reader Bytes :=
  fun j => do orMalformed (Hex.decode? (← text j))

def list (read : Reader α) : Reader (List α) :=
  fun j => do (← orMalformed j.items?).mapM read

def pair (read : Reader α) : Reader (α × α) :=
  fun j => do
    match ← list read j with
    | [a, b] => return (a, b)
    | _ => throw .malformed

def nullable (read : Reader α) : Reader (Option α) :=
  fun j => if j.isNull then .ok none else some <$> read j

/-! ## Fields -/

/-- A field that is there and not `null`. -/
def present? (j : Json) (name : String) : Option Json :=
  (j.member? name).filter (!·.isNull)

def field (read : Reader α) (j : Json) (name : String) : Except DocumentError α := do
  read (← orMalformed (present? j name))

def field? (read : Reader α) (j : Json) (name : String) : Except DocumentError (Option α) :=
  (present? j name).mapM read

/-- A list that may be left out. -/
def fieldList (read : Reader α) (j : Json) (name : String) : Except DocumentError (List α) := do
  return (← field? (list read) j name).getD []

def isSet (j : Json) (name : String) : Bool :=
  ((present? j name).bind Json.bool?).getD false

/-- A value in `ok`, or a failure in `err`; the value may be `null`. -/
def result (readError : Reader ε) (read : Reader α) : Reader (Except ε α) :=
  fun j => do
    match present? j "err" with
    | some e => return .error (← readError e)
    | none => return .ok (← read ((j.member? "ok").getD .null))

end Document
end Reflash
