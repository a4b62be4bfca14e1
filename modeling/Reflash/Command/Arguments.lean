/-!
# Command.Arguments — options and operands

The arguments of a command are read from left to right.  Options have a long name and perhaps a
short one; a value follows in the same argument (`--name=value`, `-nvalue`, `-n=value`) or is the
next one.  Short options without values may share a dash, and after `--` nothing is an option.  The
name of a command ends the arguments of the one before it.

* `CommandSpec.scan` — the arguments of one command.
-/

namespace Reflash

/-- How often an option may be given, and with which values. -/
inductive OptionUse where
  | once
  | repeated
  | value (accepts : String → Bool)
  | values (accepts : String → Bool)

structure OptionSpec where
  long : String
  short : Option Char := none
  use : OptionUse
  about : String := ""

/-- An operand: what it is called, and which values it may have. -/
structure OperandSpec where
  name : String
  about : String := ""
  accepts : String → Bool
  /-- The values, if they are known in advance. -/
  choices : List String := []

/-- What may follow the name of a command: options, and either operands or a further command. -/
structure CommandSpec where
  options : List OptionSpec := []
  operands : List OperandSpec := []
  commands : List String := []
  hasVersion : Bool := false

/-- Why there is nothing to run. -/
inductive Stop where
  | usage
  | help
  | version
  deriving DecidableEq, Repr

structure Arguments where
  /-- The options that were given, with their values. -/
  options : List (String × Option String) := []
  operands : List String := []
  /-- A further command and its arguments. -/
  command : Option (String × List String) := none
  deriving DecidableEq, Repr

namespace Arguments

def has (a : Arguments) (name : String) : Bool :=
  a.options.any (·.1 = name)

def values (a : Arguments) (name : String) : List String :=
  a.options.filterMap fun (n, value) => if n = name then value else none

def value? (a : Arguments) (name : String) : Option String :=
  (a.values name).getLast?

end Arguments

/-- Arguments that are being read. -/
structure Scan where
  arguments : Arguments := {}
  /-- An option that lacks its value. -/
  pending : Option OptionSpec := none
  /-- Nothing is an option any more. -/
  isLiteral : Bool := false

namespace Scan

def record (s : Scan) (o : OptionSpec) (value : Option String) : Except Stop Scan :=
  .ok { s with
    arguments := { s.arguments with options := s.arguments.options ++ [(o.long, value)] } }

def recordIf (condition : Bool) (s : Scan) (o : OptionSpec) (value : Option String) :
    Except Stop Scan :=
  if condition then s.record o value else .error .usage

/-- Takes an option, with the value that came with it. -/
def give (s : Scan) (o : OptionSpec) (value : Option String) : Except Stop Scan :=
  match o.use, value with
  | .once, none => recordIf (!s.arguments.has o.long) s o none
  | .repeated, none => s.record o none
  | .once, some _ | .repeated, some _ => .error .usage
  | .value accepts, some v => recordIf (!s.arguments.has o.long && accepts v) s o value
  | .values accepts, some v => recordIf (accepts v) s o value
  | .value _, none | .values _, none => .ok { s with pending := some o }

def takesValue (o : OptionSpec) : Bool :=
  match o.use with
  | .once | .repeated => false
  | .value _ | .values _ => true

end Scan

namespace CommandSpec

variable (spec : CommandSpec)

/-- An option that every command has, or else none. -/
def builtIn {α : Type} (isHelp isVersion : Bool) : Except Stop α :=
  if isHelp then .error .help
  else if isVersion && spec.hasVersion then .error .version
  else .error .usage

/-- Reads what follows two dashes. -/
def long (s : Scan) (argument : List Char) : Except Stop Scan :=
  let name := String.ofList (argument.takeWhile (· ≠ '='))
  let value := match argument.dropWhile (· ≠ '=') with
    | [] => none
    | _ :: value => some (String.ofList value)
  match spec.options.find? (·.long = name) with
  | some o => s.give o value
  | none => spec.builtIn (name == "help" && value.isNone) (name == "version" && value.isNone)

def attached : List Char → Option String
  | [] => none
  | '=' :: value => some (String.ofList value)
  | value => some (String.ofList value)

/-- Reads what follows a single dash. -/
def shorts (s : Scan) : List Char → Except Stop Scan
  | [] => .ok s
  | c :: rest =>
      match spec.options.find? (·.short = some c) with
      | some o =>
          if Scan.takesValue o then s.give o (attached rest)
          else do shorts (← s.give o none) rest
      | none => spec.builtIn (c == 'h') (c == 'V')

def operand (s : Scan) (argument : String) : Except Stop Scan :=
  match spec.operands[s.arguments.operands.length]? with
  | some o =>
      if o.accepts argument then
        .ok { s with
          arguments := { s.arguments with operands := s.arguments.operands ++ [argument] } }
      else .error .usage
  | none => .error .usage

/-- A single dash is no option. -/
def looksLikeOption (argument : String) : Bool :=
  match argument.toList with
  | '-' :: _ :: _ => true
  | _ => false

def step (s : Scan) (argument : String) : Except Stop Scan :=
  match s.pending with
  | some o =>
      if looksLikeOption argument then .error .usage
      else { s with pending := none }.give o (some argument)
  | none =>
      if s.isLiteral then spec.operand s argument
      else match argument.toList with
        | ['-', '-'] => .ok { s with isLiteral := true }
        | '-' :: '-' :: rest => spec.long s rest
        | '-' :: c :: rest => spec.shorts s (c :: rest)
        | _ => spec.operand s argument

/-- All operands have to be there, and a command if there are any. -/
def finish (s : Scan) : Except Stop Arguments :=
  if s.pending.isNone ∧ s.arguments.operands.length = spec.operands.length ∧ spec.commands = [] then
    .ok s.arguments
  else .error .usage

def scan (s : Scan) : List String → Except Stop Arguments
  | [] => spec.finish s
  | argument :: rest =>
      if s.pending.isNone ∧ !s.isLiteral ∧ spec.commands.contains argument then
        .ok { s.arguments with command := some (argument, rest) }
      else do scan (← spec.step s argument) rest

end CommandSpec
end Reflash
