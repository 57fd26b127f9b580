/-
# The command line

What the words behind the program's name ask for, and what the program then prints and returns.
Words are taken from left to right: a request for help is met at once, and the first word that fits
nowhere is an error.
-/
import Switchboard.Server.Run
import Switchboard.Settings.DotEnv

namespace Switchboard.CommandLine

/-- The help of the program. -/
def help : String :=
  "Slack webhook connector for conversational engines\n\n" ++
  "Usage: parley [COMMAND]\n\n" ++
  "Commands:\n" ++
  "  serve  Start the webhook server\n" ++
  "  check  Validate configuration and exit\n" ++
  "  help   Print this message or the help of the given subcommand(s)\n\n" ++
  "Options:\n" ++
  "  -h, --help     Print help\n" ++
  "  -V, --version  Print version\n"

/-- The help of the command that serves. -/
def serveHelp : String :=
  "Start the webhook server\n\n" ++
  "Usage: parley serve [OPTIONS]\n\n" ++
  "Options:\n" ++
  "      --host <HOST>  Override the configured bind host\n" ++
  "      --port <PORT>  Override the configured port\n" ++
  "  -h, --help         Print help\n"

/-- The help of the command that checks. -/
def checkHelp : String :=
  "Validate configuration and exit\n\n" ++
  "Usage: parley check\n\n" ++
  "Options:\n" ++
  "  -h, --help  Print help\n"

/-- The help of the command that prints help. -/
def helpHelp : String :=
  "Print this message or the help of the given subcommand(s)\n\n" ++
  "Usage: parley help [COMMAND]...\n\n" ++
  "Arguments:\n" ++
  "  [COMMAND]...  Print help for the subcommand(s)\n"

/-- The name and version of the program. -/
def version : String := "parley 0.1.0\n"

/-- What is asked for. -/
inductive Command where
  | print (text : String)
  | serve (overrides : Server.Overrides)
  | check
  deriving DecidableEq, Repr

/-- Whether a word asks for an option with this letter, perhaps with more letters behind it. -/
def isShort (letter : Char) (word : String) : Bool := ['-', letter].isPrefixOf word.toList

/-- Whether a word asks for help. -/
def asksHelp (word : String) : Bool := word = "--help" || isShort 'h' word

/-- Whether a word can be the value of an option. -/
def isValue (word : String) : Bool := word.toList.head? ≠ some '-' || word = "-"

/-- The value in a word that joins an option and its value by an equals sign. -/
def joined? (option : String) (word : String) : Option String :=
  let start := option.toList ++ ['=']
  if start.isPrefixOf word.toList then some (String.ofList (word.toList.drop start.length))
  else none

/-- A port. -/
def port? (s : String) : Option Nat :=
  match Number.integer64? s.toList with
  | some (.ofNat n) => if n < 65536 then some n else none
  | _ => none

/-- The overrides with a host, which may be given once. -/
def setHost? (o : Server.Overrides) (value : String) : Option Server.Overrides :=
  if o.host.isSome then none else some { o with host := some value }

/-- The overrides with a port, which may be given once. -/
def setPort? (o : Server.Overrides) (value : String) : Option Server.Overrides :=
  if o.port.isSome then none else (port? value).map fun n => { o with port := some n }

/-- The overrides with an option that takes a value. -/
def setOption? (o : Server.Overrides) (option value : String) : Option Server.Overrides :=
  if option = "--host" then setHost? o value
  else if option = "--port" then setPort? o value
  else none

/-- The overrides with an option and its value in one word. -/
def setJoined? (o : Server.Overrides) (word : String) : Option Server.Overrides :=
  match joined? "--host" word, joined? "--port" word with
  | some value, _ => setHost? o value
  | none, some value => setPort? o value
  | none, none => none

/-- Whether no words are left, or only the one that ends the options. -/
def isEnd (words : List String) : Bool := words.isEmpty || words = ["--"]

/-- The words of the command that serves. -/
def serveWords (o : Server.Overrides) : List String → Option Command
  | [] => some (.serve o)
  | word :: rest =>
    if asksHelp word then some (.print serveHelp)
    else if word = "--" then if rest.isEmpty then some (.serve o) else none
    else
      match setJoined? o word with
      | some o => serveWords o rest
      | none =>
        match rest with
        | value :: rest =>
          if isValue value then
            match setOption? o word value with
            | some o => serveWords o rest
            | none => none
          else none
        | [] => none

/-- The words of the command that checks. -/
def checkWords : List String → Option Command
  | [] => some .check
  | word :: rest =>
    if asksHelp word then some (.print checkHelp)
    else if isEnd (word :: rest) then some .check
    else none

/-- The words of the command that prints help. -/
def helpWords : List String → Option Command
  | [] => some (.print help)
  | ["serve"] => some (.print serveHelp)
  | ["check"] => some (.print checkHelp)
  | ["help"] => some (.print helpHelp)
  | _ => none

/-- What the words ask for; `none` if they make no sense.  Without words the help is printed, with
an empty line behind it. -/
def command? : List String → Option Command
  | [] => some (.print (help ++ "\n"))
  | word :: rest =>
    if asksHelp word then some (.print help)
    else if word = "--version" || isShort 'V' word then some (.print version)
    else if isEnd (word :: rest) then some (.print (help ++ "\n"))
    else if word = "serve" then serveWords {} rest
    else if word = "check" then checkWords rest
    else if word = "help" then helpWords rest
    else none

/-- What the program has done in the end. -/
structure Exit where
  code : Nat
  stdout : String := ""
  stderr : String := ""
  log : List Log.Event := []
  deriving Repr

/-- The end of a program that broke down. -/
def brokenExit (log : List Log.Event) : Exit := { code := 101, log }

/-- The end after an error. -/
def failedExit (e : Server.RunError) (log : List Log.Event) : Exit :=
  if e.breaksDown then brokenExit log
  else { code := 1, stderr := s!"Error: {e.subject}\n\nCaused by:\n    {e.cause}\n", log }

/-- The end of a run. -/
def exitOf : Except Server.RunError Unit × List Log.Event → Exit
  | (.ok (), log) => { code := 0, log }
  | (.error e, log) => failedExit e log

/-- The file that may hold variables. -/
def variableFile : String := ".env"

/-- The environment with the variables of the file for them, if there is one; `none` if one of them
cannot be added. -/
def environment? (env : Settings.Environment) (files : Settings.Files) :
    Option Settings.Environment :=
  match files.text? variableFile.toList with
  | some text => Settings.DotEnv.load? env text
  | none => some env

/-- Notes the start of a command. -/
def startEvents (files : Settings.Files) : List Log.Event :=
  { level := .info, sentence := "Starting Parley v0.1.0" } ::
    if (files.text? variableFile.toList).isSome then []
    else [{ level := .warning,
            sentence := ".env file not found, relying on config files and environment" }]

/-- The end of a command that notes its start. -/
def started (files : Settings.Files) (exit : Exit) : Exit :=
  { exit with log := startEvents files ++ exit.log }

/-- Runs the program in an environment that is complete. -/
def runIn (words : List String) (env : Settings.Environment) (files : Settings.Files)
    (taken : Server.Taken) : Exit :=
  match command? words with
  | none => { code := 2, stderr := "error: unexpected arguments\n\n" ++
      "For more information, try '--help'.\n" }
  | some (.print text) => { code := 0, stdout := text }
  | some (.serve overrides) => started files (exitOf (Server.run env files overrides taken))
  | some .check => started files (exitOf (Server.check env files))

/-- Runs the program.  The file of variables is read before anything else. -/
def run (words : List String) (env : Settings.Environment) (files : Settings.Files)
    (taken : Server.Taken) : Exit :=
  match environment? env files with
  | some env => runIn words env files taken
  | none => brokenExit []

end Switchboard.CommandLine
