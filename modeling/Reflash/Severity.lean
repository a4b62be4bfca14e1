/-!
# Severity — how failures are classified

Every failure belongs to a category, from which front ends choose an exit code, and has a severity.
A failure of critical severity may have left a device in an unknown state; all others are
recoverable.
-/

namespace Reflash

inductive Category where
  | device
  | version
  | crypto
  | container
  | image
  | release
  | policy
  | files
  | config
  | other
  deriving DecidableEq, Repr

namespace Category

def all : List Category :=
  [.device, .version, .crypto, .container, .image, .release, .policy, .files, .config, .other]

def text : Category → String
  | .device => "Device"
  | .version => "Version"
  | .crypto => "Crypto"
  | .container => "Container"
  | .image => "Image"
  | .release => "Release"
  | .policy => "Policy"
  | .files => "IO"
  | .config => "Config"
  | .other => "Other"

def code : Category → Nat
  | .device => 0
  | .version => 1
  | .crypto => 2
  | .container => 3
  | .image => 4
  | .release => 5
  | .policy => 6
  | .files => 7
  | .config => 8
  | .other => 255

end Category

inductive Severity where
  | info
  | warning
  | error
  | critical
  deriving DecidableEq, Repr

namespace Severity

def all : List Severity :=
  [.info, .warning, .error, .critical]

def text : Severity → String
  | .info => "INFO"
  | .warning => "WARN"
  | .error => "ERROR"
  | .critical => "CRITICAL"

def code : Severity → Nat
  | .info => 0
  | .warning => 1
  | .error => 2
  | .critical => 3

/-- A recoverable failure leaves the device untouched. -/
def recoverable (s : Severity) : Bool :=
  s.code < Severity.critical.code

end Severity
end Reflash
