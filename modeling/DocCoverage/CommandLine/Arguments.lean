import DocCoverage.CommandLine.Similarity

/-!
# Arguments of the program

The program has the command `check`, which takes no arguments, and the command `help`. Arguments are
read from left to right: the first flag that asks for help or for the version, or the first argument
that is refused, decides.
-/

namespace DocCoverage.CommandLine

/-- The commands by which help is given and arguments are refused. -/
inductive Command where
  /-- The program without a command. -/
  | top
  | check
  | help
  deriving DecidableEq, Repr

namespace Command

/-- The words that call a command. -/
def words : Command → String
  | top => "doccov"
  | check => "doccov check"
  | help => "doccov help"

/-- The usage of a command. -/
def usage : Command → String
  | top => "doccov [COMMAND]"
  | check => "doccov check"
  | help => "doccov help [COMMAND]..."

/-- The commands that may follow a command. -/
def subcommands : Command → List String
  | top => ["check", "help"]
  | _ => []

/-- The long flags of a command. -/
def flags : Command → List String
  | top => ["help", "version"]
  | check => ["help"]
  | help => []

/-- The help of a command. -/
def helpText : Command → String
  | top =>
    "A tool for checking documentation coverage\n\nUsage: doccov [COMMAND]\n\nCommands:\n" ++
      "  check  Check documentation coverage\n" ++
      "  help   Print this message or the help of the given subcommand(s)\n\nOptions:\n" ++
      "  -h, --help     Print help\n  -V, --version  Print version\n"
  | check =>
    "Check documentation coverage\n\nUsage: doccov check\n\nOptions:\n  -h, --help  Print help\n"
  | help =>
    "Print this message or the help of the given subcommand(s)\n\n" ++
      "Usage: doccov help [COMMAND]...\n\nArguments:\n" ++
      "  [COMMAND]...  Print help for the subcommand(s)\n"

end Command

/-- The version as it is shown. -/
def versionText : String := "doccov 0.1.0\n"

/-- Why arguments are refused. -/
inductive Refusal where
  | unknownCommand (word : String)
  | unknownArgument (word : String)
  /-- A flag that takes no value has one. -/
  | unneededValue (value flag : String)
  deriving DecidableEq, Repr

/-- The words for a refusal. -/
def Refusal.text : Refusal → String
  | unknownCommand word => "unrecognized subcommand '" ++ word ++ "'"
  | unknownArgument word => "unexpected argument '" ++ word ++ "' found"
  | unneededValue value flag =>
    "unexpected value '" ++ value ++ "' for '" ++ flag ++ "' found; no more were expected"

/-- What may have been meant by an argument that is refused. -/
inductive Tip where
  | similarCommands (words : List String)
  | similarFlag (flag : String)
  /-- A command stands behind two hyphens. -/
  | needlessHyphens (word : String)
  deriving DecidableEq, Repr

/-- A word in quotation marks. -/
def quoted (word : String) : String := "'" ++ word ++ "'"

/-- The words for a tip. -/
def Tip.text : Tip → String
  | similarCommands [word] => "a similar subcommand exists: " ++ quoted word
  | similarCommands words => "some similar subcommands exist: " ++ ", ".intercalate (words.map quoted)
  | similarFlag flag => "a similar argument exists: " ++ quoted flag
  | needlessHyphens word =>
    "subcommand " ++ quoted word ++ " exists; to use it, remove the '--' before it"

/-- A refusal with what is shown for it. -/
structure UsageError where
  refusal : Refusal
  tip : Option Tip
  usage : String
  /-- Whether a flag for help is named. -/
  namesHelp : Bool
  deriving DecidableEq, Repr

/-- The message of a refusal. -/
def UsageError.message (error : UsageError) : String :=
  let tip := (error.tip.map fun tip => "\n\n  tip: " ++ tip.text).getD ""
  let help := if error.namesHelp then "\n\nFor more information, try '--help'.\n" else "\n"
  "error: " ++ error.refusal.text ++ tip ++ "\n\nUsage: " ++ error.usage ++ help

/-- What arguments ask for. -/
inductive Request where
  | check
  /-- No command is named. -/
  | nothing
  | showHelp (command : Command)
  | showVersion
  | refused (error : UsageError)
  deriving DecidableEq, Repr

/-- Refuse an argument of a command. -/
def refuse (command : Command) (refusal : Refusal) (tip : Option Tip) : Request :=
  .refused ⟨refusal, tip, command.usage, command ≠ .help⟩

/-- Refuse an argument of a command that has to do with a flag. -/
def refuseFlag (command : Command) (refusal : Refusal) (tip : Option Tip) (flag : String) :
    Request :=
  .refused ⟨refusal, tip, command.words ++ " " ++ flag, true⟩

/-- What a known flag asks for. -/
def flagRequest (command : Command) (name : String) : Request :=
  if name == "version" then .showVersion else .showHelp command

/-- What a flag with two hyphens asks for, given the characters after them. -/
def longFlag (command : Command) (text : List Char) : Request :=
  let name := String.ofList (text.takeWhile (· != '='))
  let flag := "--" ++ name
  if command.flags.contains name then
    match text.dropWhile (· != '=') with
    | [] => flagRequest command name
    | _ :: value => refuseFlag command (.unneededValue (String.ofList value) flag) none flag
  else
    match (suggestions name command.flags).getLast? with
    | some similar =>
      refuseFlag command (.unknownArgument flag) (some (.similarFlag ("--" ++ similar)))
        ("--" ++ similar)
    | none => refuse command (.unknownArgument flag) none

/-- What flags of one character ask for, the first of which decides. -/
def shortFlag (command : Command) (c : Char) : Request :=
  if c = 'h' then .showHelp command
  else if c = 'V' ∧ command = .top then .showVersion
  else refuse command (.unknownArgument ("-" ++ String.ofList [c])) none

/-- Refuse an argument that is neither a command nor a flag. `afterHyphens` says that two hyphens
stand before it. -/
def refuseWord (command : Command) (afterHyphens : Bool) (word : String) : Request :=
  if command.subcommands.isEmpty then refuse command (.unknownArgument word) none
  else if afterHyphens && command.subcommands.contains word then
    refuse command (.unknownArgument word) (some (.needlessHyphens word))
  else
    match suggestions word command.subcommands with
    | [] => refuse command (.unknownCommand word) none
    | similar => refuse command (.unknownCommand word) (some (.similarCommands similar))

/-- The command with a name among those that may follow a command. -/
def subcommand? (command : Command) (name : String) : Option Command :=
  if command ≠ .top then none
  else if name == "check" then some .check
  else if name == "help" then some .help
  else none

/-- What the arguments after the command `help` ask for. -/
def helpRequest (command : Command) : List String → Request
  | [] => .showHelp command
  | name :: rest =>
    match subcommand? command name with
    | some next => helpRequest next rest
    | none => refuse command (.unknownCommand name) none

/-- What arguments of a command ask for. -/
def requestOf (command : Command) : List String → Request
  | [] => if command = .check then .check else .nothing
  | word :: rest =>
    match subcommand? command word with
    | some .help => helpRequest .top rest
    | some next => requestOf next rest
    | none =>
      match word.toList with
      | ['-', '-'] =>
        match rest with
        | [] => requestOf command []
        | next :: _ => refuseWord command true next
      | '-' :: '-' :: text => longFlag command text
      | '-' :: c :: _ => shortFlag command c
      | _ => refuseWord command false word

end DocCoverage.CommandLine
