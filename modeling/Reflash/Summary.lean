import Reflash.Device.Session
import Reflash.Text.Quoted
import Reflash.Update.Retry

/-!
# Summary — values on one line

Logs show records with the names and values of their fields.  A summary that leaves fields out says
so with two dots.
-/

namespace Reflash
namespace Summary

def field (f : String × String) : String :=
  s!"{f.1}: {f.2}"

def record (name : String) (fields : List (String × String)) (isPartial : Bool) : String :=
  let shown := fields.map field ++ if isPartial then [".."] else []
  name ++ " \x7b " ++ ", ".intercalate shown ++ " \x7d"

/-- A case with one part. -/
def labelled (name part : String) : String :=
  s!"{name}({part})"

def optional (show? : Option String) : String :=
  match show? with
  | some text => labelled "Some" text
  | none => "None"

/-! ## Durations -/

/-- A number of thousandths as decimals, without zeros at the end. -/
def decimals (thousandths : Nat) : String :=
  let digits := [thousandths / 100 % 10, thousandths / 10 % 10, thousandths % 10]
  let kept := (digits.reverse.dropWhile (· = 0)).reverse
  if kept = [] then "" else "." ++ String.join (kept.map toString)

/-- Full seconds and more are shown in seconds, less in milliseconds. -/
def duration (milliseconds : Nat) : String :=
  if milliseconds = 0 then "0ns"
  else if milliseconds < 1000 then s!"{milliseconds}ms"
  else s!"{milliseconds / 1000}{decimals (milliseconds % 1000)}s"

/-! ## Values -/

def retries (r : Retries) : String :=
  record "Retries"
    [("retries", toString r.total), ("timeout", duration r.pause), ("next", toString r.next)] true

def modelName : Model → String
  | .nk3 => "Nk3"
  | .nkpk => "Nkpk"

def device (d : OpenDevice) : String :=
  record "TrussedDevice"
    [("model", modelName d.model), ("path", optional (d.path.map Text.quoted)),
      ("closed", toString d.isClosed)] false

def deviceHandle (d : OpenDevice) : String :=
  labelled "Device" (device d)

def bootloaderHandle (m : Model) (v : Variant) : String :=
  labelled "Bootloader" (Text.quoted (m.bootloaderName v))

end Summary
end Reflash
