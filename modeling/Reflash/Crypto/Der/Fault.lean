import Reflash.Crypto.Der
import Reflash.Text.Hex

/-!
# Crypto.Der.Fault — why bytes do not decode
-/

namespace Reflash
namespace Der

/-! ## Names of tags -/

def isConstructed (tag : UInt8) : Bool :=
  tag &&& 0x20 != 0

/-- A universal tag has a name, other ones are told by class, number and form. -/
def tagText (tag : UInt8) : String :=
  match universalTags.lookup tag with
  | some name => name
  | none =>
      let kind :=
        if tag < 0x80 then "APPLICATION" else if tag < 0xC0 then "CONTEXT-SPECIFIC" else "PRIVATE"
      let form := if isConstructed tag then "constructed" else "primitive"
      s!"{kind} [{tag.toNat % 32}] ({form})"

/-! ## Faults -/

inductive Cause where
  | incomplete (expected actual : Nat)
  | trailing (decoded remaining : Nat)
  | indefinite
  | tooLong
  | overflow
  | badLength (tag : UInt8)
  | notCanonical (tag : UInt8)
  | badValue (tag : UInt8)
  | badOid
  | duplicate
  | badTagNumber
  | unknownTag (tag : UInt8)
  | unexpectedTag (expected : Option UInt8) (actual : UInt8)
  deriving DecidableEq, Repr

def Cause.message : Cause → String
  | .incomplete expected actual =>
      s!"ASN.1 DER message is incomplete: expected {expected}, actual {actual}"
  | .trailing decoded remaining =>
      s!"trailing data at end of DER message: decoded {decoded} bytes, {remaining} bytes remaining"
  | .indefinite => "indefinite length disallowed"
  | .tooLong => "ASN.1 DER message is too long"
  | .overflow => "integer overflow"
  | .badLength tag => s!"incorrect length for {tagText tag}"
  | .notCanonical tag => s!"ASN.1 {tagText tag} not canonically encoded as DER"
  | .badValue tag => s!"malformed ASN.1 DER value for {tagText tag}"
  | .badOid => "malformed OID"
  | .duplicate => "SET OF contains duplicate"
  | .badTagNumber => "invalid tag number"
  | .unknownTag tag => s!"unknown/unsupported ASN.1 DER tag: 0x{Hex.encode [tag]}"
  | .unexpectedTag none actual => s!"unexpected ASN.1 DER tag: got {tagText actual}"
  | .unexpectedTag (some expected) actual =>
      s!"unexpected ASN.1 DER tag: expected {tagText expected}, got {tagText actual}"

/-- A cause, and a position that is the sum of those in all fields around it. -/
structure Fault where
  cause : Cause
  position : Option Nat := none
  deriving DecidableEq, Repr

def Fault.message (f : Fault) : String :=
  match f.position with
  | some n => s!"{f.cause.message} at DER byte {n}"
  | none => f.cause.message

end Der
end Reflash
