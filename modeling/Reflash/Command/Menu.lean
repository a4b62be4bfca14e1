import Reflash.Command.Invocation

/-!
# Command.Menu — the commands with explanations

The menu of a command shows its options, its operands and its further commands.  The command for
help has a menu of its own, which shows all commands again, but without arguments.

* `Menu.tool` — the menu of the whole tool.
-/

namespace Reflash

/-- What a value may be, as far as a shell can help with it. -/
inductive ValueHint where
  | any
  | path
  | choice (values : List String)
  deriving DecidableEq, Repr

structure MenuOption where
  long : String
  short : Option Char := none
  about : String
  /-- The name of the value, if there is one. -/
  value : Option String := none
  hint : ValueHint := .any
  isRepeated : Bool := false
  deriving DecidableEq, Repr

structure MenuOperand where
  name : String
  about : String
  hint : ValueHint := .any
  deriving DecidableEq, Repr

inductive Menu where
  | mk (path : List String) (about : String) (options : List MenuOption)
      (operands : List MenuOperand) (commands : List Menu)

namespace Menu

/-- The names that lead to the command, that of the tool first. -/
def path : Menu → List String
  | mk path .. => path

def name (m : Menu) : String :=
  m.path.getLast?.getD ""

def about : Menu → String
  | mk _ about .. => about

def options : Menu → List MenuOption
  | mk _ _ options .. => options

def operands : Menu → List MenuOperand
  | mk _ _ _ operands _ => operands

def commands : Menu → List Menu
  | mk _ _ _ _ commands => commands

/-- The options with a value, which shells show first. -/
def valued (m : Menu) : List MenuOption :=
  m.options.filter (·.value.isSome)

def flags (m : Menu) : List MenuOption :=
  m.options.filter (·.value.isNone)

mutual

/-- The menu and all menus below it. -/
def all : Menu → List Menu
  | mk path about options operands commands =>
      mk path about options operands commands :: allOf commands

def allOf : List Menu → List Menu
  | [] => []
  | m :: rest => all m ++ allOf rest

end

/-! ## The menu of the tool -/

/-- The name of a value, by that of its option. -/
def valueName (long : String) : String :=
  if long = "ignore-warning" then "ID"
  else String.ofList (long.toList.map fun c => if c = '-' then '_' else c.toUpper)

def ofOption (o : OptionSpec) : MenuOption where
  long := o.long
  short := o.short
  about := o.about
  value := if Scan.takesValue o then some (valueName o.long) else none
  hint := if o.long = "dir" then .path else .any
  isRepeated := match o.use with
    | .repeated | .values _ => true
    | .once | .value _ => false

def ofOperand (o : OperandSpec) : MenuOperand where
  name := o.name
  about := o.about
  hint := if o.choices = [] then .path else .choice o.choices

def helpOption (about : String) : MenuOption where
  long := "help"
  short := some 'h'
  about

def versionOption : MenuOption where
  long := "version"
  short := some 'V'
  about := "Print version"

def globalOptions : List MenuOption :=
  Invocation.globalSpecs.map ofOption

/-- Options of a command below the tool itself. -/
def optionsWith (own : List OptionSpec) : List MenuOption :=
  own.map ofOption ++ globalOptions ++ [helpOption "Print help"]

def ofForm (path : List String) (f : Invocation.CommandForm) : Menu :=
  mk (path ++ [f.name]) f.about (optionsWith f.options) (f.operands.map ofOperand) []

mutual

/-- A menu shown by the command for help. -/
def shownBelow (path : List String) : Menu → Menu
  | mk own about _ _ commands =>
      let path := path ++ own.getLast?.toList
      mk path about [] [] (allShownBelow path commands)

def allShownBelow (path : List String) : List Menu → List Menu
  | [] => []
  | m :: rest => shownBelow path m :: allShownBelow path rest

end

/-- Commands with the one for help on them. -/
def withHelp (path : List String) (commands : List Menu) : List Menu :=
  let helpPath := path ++ [Invocation.helpName]
  let itself := mk (helpPath ++ [Invocation.helpName]) Invocation.helpAbout [] [] []
  commands ++ [mk helpPath Invocation.helpAbout [] [] (allShownBelow helpPath commands ++ [itself])]

def firmware : Menu :=
  let path := [toolName, Invocation.firmwareName]
  mk path Invocation.firmwareAbout (optionsWith []) []
    (withHelp path (Invocation.firmwareForms.map (ofForm path)))

/-- The firmware commands as help on the tool shows them, without a further command for help. -/
def firmwareCommands : Menu :=
  let path := [toolName, Invocation.firmwareName]
  mk path Invocation.firmwareAbout [] [] (Invocation.firmwareForms.map (ofForm path))

def tool : Menu :=
  let path := [toolName]
  let completion := ofForm path Invocation.completionForm
  let helpPath := path ++ [Invocation.helpName]
  let help := mk helpPath Invocation.helpAbout [] []
    (allShownBelow helpPath [firmwareCommands, completion]
      ++ [mk (helpPath ++ [Invocation.helpName]) Invocation.helpAbout [] [] []])
  mk path "" (globalOptions
      ++ [helpOption "Print help (see more with '--help')", versionOption]) []
    [firmware, completion, help]

end Menu
end Reflash
