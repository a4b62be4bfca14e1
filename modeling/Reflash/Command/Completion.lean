import Reflash.Command.Menu

/-!
# Command.Completion — scripts that teach a shell the command lines

A script offers what the menus of the tool show: commands, their options and the values that are
known in advance.

* `Completion.script` — the script for a shell.
-/

namespace Reflash
namespace Completion

/-!
## The script for bash

The script follows the names of commands in the line, and then offers what the menu of the last
command shows, or values for the option just before the cursor.
-/

namespace Bash

/-- The value of a variable. -/
def valueOf (name : String) : String :=
  "$\x7b" ++ name ++ "\x7d"

/-- The name of the case for a command. -/
def caseName (path : List String) : String :=
  "__".intercalate (path.map fun name => name.replace "-" "__")

def shortWord (o : MenuOption) : Option String :=
  o.short.map fun c => String.ofList ['-', c]

/-- The words of an option, the long one first. -/
def words (o : MenuOption) : List String :=
  ["--" ++ o.long] ++ (shortWord o).toList

def operandWords (o : MenuOperand) : List String :=
  match o.hint with
  | .choice values => values
  | _ => ["<" ++ String.ofList (o.name.toList.map Char.toUpper) ++ ">"]

/-- Everything that may follow a command. -/
def offers (m : Menu) : List String :=
  m.options.filterMap shortWord ++ m.options.map (fun o => "--" ++ o.long)
    ++ m.operands.flatMap operandWords ++ m.commands.map (·.name)

def replyWith (indent : String) (words : String) : List String :=
  [indent ++ "COMPREPLY=( $(compgen -W \"" ++ words ++ "\" -- \"" ++ valueOf "cur" ++ "\") )",
    indent ++ "return 0"]

def valueCase (word : String) : List String :=
  ["                " ++ word ++ ")",
    "                    COMPREPLY=($(compgen -f \"" ++ valueOf "cur" ++ "\"))",
    "                    return 0", "                    ;;"]

def menuCase (m : Menu) : List String :=
  ["        " ++ caseName m.path ++ ")",
    "            opts=\"" ++ " ".intercalate (offers m) ++ "\"",
    "            if [[ " ++ valueOf "cur" ++ " == -* || " ++ valueOf "COMP_CWORD" ++ " -eq "
      ++ toString m.path.length ++ " ]] ; then"]
    ++ replyWith "                " (valueOf "opts")
    ++ ["            fi", "            case \"" ++ valueOf "prev" ++ "\" in"]
    ++ (m.valued.flatMap words).flatMap valueCase
    ++ ["                *)", "                    COMPREPLY=()", "                    ;;",
      "            esac"]
    ++ replyWith "            " (valueOf "opts") ++ ["            ;;"]

/-- Sorts by a text for each menu. -/
def inOrder (key : Menu → String) (menus : List Menu) : List Menu :=
  menus.mergeSort fun a b => decide (key a ≤ key b)

def stepName (m : Menu) : String :=
  caseName m.path.dropLast ++ "," ++ m.name

/-- The step from a command to the next one. -/
def stepCase (m : Menu) : List String :=
  ["            " ++ stepName m ++ ")",
    "                cmd=\"" ++ caseName m.path ++ "\"", "                ;;"]

def script (tool : Menu) : List String :=
  let function := "_" ++ tool.name
  [function ++ "() \x7b", "    local i cur prev opts cmd", "    COMPREPLY=()",
    "    if [[ \"" ++ valueOf "BASH_VERSINFO[0]" ++ "\" -ge 4 ]]; then", "        cur=\"$2\"",
    "    else", "        cur=\"" ++ valueOf "COMP_WORDS[COMP_CWORD]" ++ "\"", "    fi",
    "    prev=\"$3\"", "    cmd=\"\"", "    opts=\"\"", "",
    "    for i in \"" ++ valueOf "COMP_WORDS[@]:0:COMP_CWORD" ++ "\"", "    do",
    "        case \"" ++ valueOf "cmd" ++ "," ++ valueOf "i" ++ "\" in",
    "            \",$1\")", "                cmd=\"" ++ caseName tool.path ++ "\"",
    "                ;;"]
    ++ (inOrder stepName (tool.all.filter fun m => 1 < m.path.length)).flatMap stepCase
    ++ ["            *)", "                ;;", "        esac", "    done", "",
      "    case \"" ++ valueOf "cmd" ++ "\" in"]
    ++ (inOrder (caseName ·.path) tool.all).flatMap menuCase
    ++ ["    esac", "\x7d", "",
      "if [[ \"" ++ valueOf "BASH_VERSINFO[0]" ++ "\" -eq 4 && \"" ++ valueOf "BASH_VERSINFO[1]"
        ++ "\" -ge 4 || \"" ++ valueOf "BASH_VERSINFO[0]" ++ "\" -gt 4 ]]; then",
      "    complete -F " ++ function ++ " -o nosort -o bashdefault -o default " ++ tool.name,
      "else",
      "    complete -F " ++ function ++ " -o bashdefault -o default " ++ tool.name, "fi"]

end Bash

/-!
## The script for zsh

A command with further commands dispatches on the first of its words; each menu is shown by a
function of its own.
-/

namespace Zsh

/-- Escapes what has a meaning in explanations. -/
def escaped (s : String) : String :=
  String.ofList <| s.toList.flatMap fun c =>
    if c = '\x27' then "'\\''".toList
    else if "\\[]:$`".contains c then ['\\', c]
    else [c]

/-- Escapes explanations of commands, in which brackets mean nothing. -/
def escapedName (s : String) : String :=
  String.ofList <| s.toList.flatMap fun c =>
    if c = '\x27' then "'\\''".toList
    else if "\\:$`".contains c then ['\\', c]
    else [c]

def functionName (path : List String) : String :=
  "_" ++ "__".intercalate path

def menuFunction (path : List String) : String :=
  functionName path ++ "_commands"

def hint : ValueHint → String
  | .any => "_default"
  | .path => "_files"
  | .choice values => "(" ++ " ".intercalate values ++ ")"

def argument (text : String) : String :=
  "'" ++ text ++ "' \\"

def repeated (o : MenuOption) : String :=
  if o.isRepeated then "*" else ""

def valued (o : MenuOption) : List String :=
  let value := "[" ++ escaped o.about ++ "]:" ++ o.value.getD "" ++ ":" ++ hint o.hint
  (o.short.map fun c => argument (repeated o ++ String.ofList ['-', c] ++ "+" ++ value)).toList
    ++ [argument (repeated o ++ "--" ++ o.long ++ "=" ++ value)]

def flag (o : MenuOption) : List String :=
  let about := "[" ++ escaped o.about ++ "]"
  (o.short.map fun c => argument (repeated o ++ String.ofList ['-', c] ++ about)).toList
    ++ [argument (repeated o ++ "--" ++ o.long ++ about)]

def operand (o : MenuOperand) : String :=
  argument (":" ++ o.name ++ " -- " ++ escaped o.about ++ ":" ++ hint o.hint)

def arguments (m : Menu) : List String :=
  ["_arguments \"$\x7b_arguments_options[@]\x7d\" : \\"] ++ m.valued.flatMap valued
    ++ m.flags.flatMap flag ++ m.operands.map operand

/-- The words that lead to a command, joined by dashes. -/
def dashed (path : List String) : String :=
  "-".intercalate path

mutual

/-- What may follow a command. -/
def body : Menu → List String
  | .mk path about options operands commands =>
      let m := Menu.mk path about options operands commands
      if commands.isEmpty then arguments m ++ ["&& ret=0"]
      else
        arguments m ++ ["\":: :" ++ menuFunction path ++ "\" \\", "\"*::: :->" ++ m.name ++ "\" \\",
          "&& ret=0", "", "    case $state in", "    (" ++ m.name ++ ")",
          "        words=($line[1] \"$\x7bwords[@]\x7d\")", "        (( CURRENT += 1 ))",
          "        curcontext=\"$\x7bcurcontext%:*:*\x7d:" ++ dashed path ++ "-command-$line[1]:\"",
          "        case $line[1] in"]
          ++ cases commands
          ++ ["        esac", "    ;;", "esac"]

def cases : List Menu → List String
  | [] => []
  | .mk path about options operands commands :: rest =>
      ["            (" ++ path.getLast?.getD "" ++ ")"]
        ++ body (.mk path about options operands commands) ++ [";;"] ++ cases rest

end

def menuLine (m : Menu) : String :=
  argument (m.name ++ ":" ++ escapedName m.about)

/-- The function that shows the commands of a menu. -/
def showing (m : Menu) : List String :=
  let name := menuFunction m.path
  ["(( $+functions[" ++ name ++ "] )) ||", name ++ "() \x7b"]
    ++ (if m.commands.isEmpty then ["    local commands; commands=()"]
      else ["    local commands; commands=("] ++ m.commands.map menuLine ++ ["    )"])
    ++ ["    _describe -t commands '" ++ " ".intercalate m.path ++ " commands' commands \"$@\"",
      "\x7d"]

def script (tool : Menu) : List String :=
  let function := functionName tool.path
  let menus := tool.all.mergeSort fun a b => decide (menuFunction a.path ≤ menuFunction b.path)
  ["#compdef " ++ tool.name, "", "autoload -U is-at-least", "", function ++ "() \x7b",
    "    typeset -A opt_args", "    typeset -a _arguments_options", "    local ret=1", "",
    "    if is-at-least 5.2; then", "        _arguments_options=(-s -S -C)", "    else",
    "        _arguments_options=(-s -C)", "    fi", "",
    "    local context curcontext=\"$curcontext\" state line"]
    ++ body tool ++ ["\x7d", ""] ++ menus.flatMap showing
    ++ ["", "if [ \"$funcstack[1]\" = \"" ++ function ++ "\" ]; then",
      "    " ++ function ++ " \"$@\"", "else", "    compdef " ++ function ++ " " ++ tool.name, "fi"]

end Zsh

/-!
## The script for fish

Each line offers an option or a command under a condition on the commands already in the line.  Only
the first two names of commands are looked at.
-/

namespace Fish

/-- Escapes explanations between apostrophes. -/
def escaped (s : String) : String :=
  String.ofList <| s.toList.flatMap fun c => if "\\'".contains c then ['\\', c] else [c]

def optionSpec (o : MenuOption) : String :=
  (o.short.map fun c => String.ofList [c, '/']).getD "" ++ o.long
    ++ if o.value.isSome then "=" else ""

/-- The condition under which a menu is shown. -/
def condition (m : Menu) : String :=
  let inCommand := "__fish_" ++ m.path.headD "" ++ "_using_subcommand "
  match m.path.tail with
  | [] => "__fish_" ++ m.name ++ "_needs_command"
  | [name] =>
      if m.commands.isEmpty then inCommand ++ name
      else inCommand ++ name ++ "; and not __fish_seen_subcommand_from "
        ++ " ".intercalate (m.commands.map (·.name))
  | name :: further =>
      inCommand ++ name
        ++ String.join (further.map fun next => "; and __fish_seen_subcommand_from " ++ next)

def optionLine (start : String) (o : MenuOption) : String :=
  start ++ (o.short.map fun c => " -s " ++ String.ofList [c]).getD "" ++ " -l " ++ o.long
    ++ " -d '" ++ escaped o.about ++ "'"
    ++ (if o.value.isNone then "" else if o.hint = .any then " -r" else " -r -F")

def commandLine (start : String) (m : Menu) : String :=
  start ++ " -f -a \"" ++ m.name ++ "\" -d '" ++ escaped m.about ++ "'"

/-- What a menu offers; values of operands are offered where nothing else is known. -/
def lines (tool : String) (m : Menu) : List String :=
  let start := "complete -c " ++ tool ++ " -n \"" ++ condition m ++ "\""
  let values := m.operands.filterMap fun o =>
    match o.hint with
    | .choice values =>
        some (start ++ " -f -a \"" ++ "\n".intercalate (values.map fun v => v ++ "\\t''") ++ "\"")
    | _ => none
  values ++ m.valued.map (optionLine start) ++ m.flags.map (optionLine start)
    ++ m.commands.map (commandLine start)

def script (tool : Menu) : List String :=
  let name := tool.name
  ["# Print an optspec for argparse to handle cmd's options that are independent of any "
      ++ "subcommand.",
    "function __fish_" ++ name ++ "_global_optspecs",
    "\tstring join \\n " ++ " ".intercalate (tool.options.map optionSpec), "end", "",
    "function __fish_" ++ name ++ "_needs_command",
    "\t# Figure out if the current invocation already has a command.",
    "\tset -l cmd (commandline -opc)", "\tset -e cmd[1]",
    "\targparse -s (__fish_" ++ name ++ "_global_optspecs) -- $cmd 2>/dev/null", "\tor return",
    "\tif set -q argv[1]",
    "\t\t# Also print the command, so this can be used to figure out what it is.",
    "\t\techo $argv[1]", "\t\treturn 1", "\tend", "\treturn 0", "end", "",
    "function __fish_" ++ name ++ "_using_subcommand",
    "\tset -l cmd (__fish_" ++ name ++ "_needs_command)", "\ttest -z \"$cmd\"", "\tand return 1",
    "\tcontains -- $cmd[1] $argv", "end", ""]
    ++ (tool.all.filter fun m => m.path.length ≤ 3).flatMap (lines name)

end Fish

/-!
## The scripts for elvish and PowerShell

Both scripts join the commands of the line by semicolons, look up that text, and find a list of
candidates with explanations.
-/

namespace Candidates

/-- Between apostrophes, an apostrophe is written twice. -/
def escaped (s : String) : String :=
  s.replace "'" "''"

/-- The words of an option, the short one first. -/
def words (o : MenuOption) : List String :=
  (o.short.map fun c => String.ofList ['-', c]).toList ++ ["--" ++ o.long]

/-- The options of a menu as words with explanations. -/
def optionWords (m : Menu) : List (String × String) :=
  (m.valued ++ m.flags).flatMap fun o => (words o).map fun word => (word, o.about)

def commandWords (m : Menu) : List (String × String) :=
  m.commands.map fun command => (command.name, command.about)

def key (m : Menu) : String :=
  "'" ++ ";".intercalate m.path ++ "'"

/-! ### Elvish -/

def elvishCase (m : Menu) : List String :=
  ["        &" ++ key m ++ "= \x7b"]
    ++ (optionWords m ++ commandWords m).map (fun (word, about) =>
      "            cand " ++ word ++ " '" ++ escaped about ++ "'")
    ++ ["        \x7d"]

def elvish (tool : Menu) : List String :=
  ["", "use builtin;", "use str;", "",
    "set edit:completion:arg-completer[" ++ tool.name ++ "] = \x7b|@words|",
    "    fn spaces \x7b|n|",
    "        builtin:repeat $n ' ' | str:join ''", "    \x7d", "    fn cand \x7b|text desc|",
    "        edit:complex-candidate $text &display=$text' '(spaces (- 14 (wcswidth $text)))$desc",
    "    \x7d", "    var command = '" ++ tool.name ++ "'", "    for word $words[1..-1] \x7b",
    "        if (str:has-prefix $word '-') \x7b", "            break", "        \x7d",
    "        set command = $command';'$word", "    \x7d", "    var completions = ["]
    ++ tool.all.flatMap elvishCase ++ ["    ]", "    $completions[$command]", "\x7d"]

/-! ### PowerShell -/

/-- Words that differ in case only are told apart by a blank. -/
def shown (word : String) : String :=
  match word.toList with
  | ['-', c] => if c.isUpper then word ++ " " else word
  | _ => word

def candidate (kind : String) : String × String → String
  | (word, about) =>
      "            [CompletionResult]::new('" ++ word ++ "', '" ++ shown word
        ++ "', [CompletionResultType]::" ++ kind ++ ", '" ++ escaped about ++ "')"

def powershellCase (m : Menu) : List String :=
  ["        " ++ key m ++ " \x7b"] ++ (optionWords m).map (candidate "ParameterName")
    ++ (commandWords m).map (candidate "ParameterValue") ++ ["            break", "        \x7d"]

def powershell (tool : Menu) : List String :=
  ["", "using namespace System.Management.Automation",
    "using namespace System.Management.Automation.Language", "",
    "Register-ArgumentCompleter -Native -CommandName '" ++ tool.name ++ "' -ScriptBlock \x7b",
    "    param($wordToComplete, $commandAst, $cursorPosition)", "",
    "    $commandElements = $commandAst.CommandElements", "    $command = @(",
    "        '" ++ tool.name ++ "'",
    "        for ($i = 1; $i -lt $commandElements.Count; $i++) \x7b",
    "            $element = $commandElements[$i]",
    "            if ($element -isnot [StringConstantExpressionAst] -or",
    "                $element.StringConstantType -ne [StringConstantType]::BareWord -or",
    "                $element.Value.StartsWith('-') -or",
    "                $element.Value -eq $wordToComplete) \x7b", "                break",
    "        \x7d", "        $element.Value", "    \x7d) -join ';'", "",
    "    $completions = @(switch ($command) \x7b"]
    ++ tool.all.flatMap powershellCase
    ++ ["    \x7d)", "",
      "    $completions.Where\x7b $_.CompletionText -like \"$wordToComplete*\" \x7d |",
      "        Sort-Object -Property ListItemText", "\x7d"]

end Candidates

/-! ## The script for a shell -/

def script : Shell → List String
  | .bash => Bash.script Menu.tool
  | .zsh => Zsh.script Menu.tool
  | .fish => Fish.script Menu.tool
  | .elvish => Candidates.elvish Menu.tool
  | .powershell => Candidates.powershell Menu.tool

end Completion
end Reflash
