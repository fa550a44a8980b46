import Narrative.Disk
import Narrative.Lint
import Narrative.Player

/-!
# The command line

Two commands work on a bundle file: one plays it on the terminal, the other reports what is wrong
with it. Both take a file of settings. What a command reads is handed in as a function from paths
to contents, so that the commands themselves are functions.
-/

namespace Narrative.CommandLine

/-- What can be asked for. -/
inductive Command where
  /-- How to use the program. -/
  | help
  /-- Play a bundle. -/
  | play (bundle : String) (config : Option String)
  /-- Report what is wrong with a bundle. -/
  | check (bundle : String) (config : Option String)
  deriving DecidableEq, Repr

/-- Why the arguments ask for nothing. -/
inductive Refusal where
  /-- There is no argument. -/
  | noCommand
  /-- The first argument is no command. -/
  | unknownCommand (command : String)
  /-- No bundle is named. -/
  | noBundle
  deriving DecidableEq, Repr

/-- The complaint about arguments; none where showing the usage is enough. -/
def Refusal.complaint? : Refusal → Option String
  | noCommand => none
  | unknownCommand command => some s!"Unknown command '{command}'"
  | noBundle => some "Missing bundle file path"

/-- The argument after the first one of a name. -/
def optionValue? (name : String) : List String → Option String
  | [] => none
  | argument :: rest => if argument = name then rest.head? else optionValue? name rest

/-- The command of a list of arguments. Arguments that no command takes are passed over. -/
def Command.ofArguments : List String → Except Refusal Command
  | [] => .error .noCommand
  | "play" :: bundle :: rest => .ok (.play bundle (optionValue? "--config" rest))
  | "check" :: bundle :: rest => .ok (.check bundle (optionValue? "--config" rest))
  | ["play"] => .error .noBundle
  | ["check"] => .error .noBundle
  | "--help" :: _ => .ok .help
  | "-h" :: _ => .ok .help
  | command :: _ => .error (.unknownCommand command)

/-- The paths of the files that a command reads. -/
def Command.paths : Command → List String
  | help => []
  | play bundle config => bundle :: config.toList
  | check bundle config => bundle :: config.toList

/-- How to use the program. -/
def usage : List String :=
  ["shirube - Adventure game narrative engine", "", "USAGE:",
    "    shirube play <bundle.json> [--config <engine.json>]",
    "    shirube check <bundle.json> [--config <lint.json>]", "", "COMMANDS:",
    "    play <file>     Play a graph bundle in the terminal",
    "    check <file>    Report authoring errors in a graph bundle",
    "    --help, -h      Show this help message", "", "ENVIRONMENT:",
    "    RUST_LOG        Log filter (default: info)",
    "    SHIRUBE_DEBUG   Enable engine tracing", "", "EXAMPLES:",
    "    shirube play demos/haunted_house.json", "    shirube check demos/haunted_house.json"]

/-- What a run of the program comes to. -/
structure Outcome where
  /-- The exit code: 0 for success, 1 for a failure, 2 for a bundle with errors. -/
  code : Nat
  /-- The text on the standard output. -/
  output : String
  /-- The text on the standard error. -/
  complaint : String
  deriving DecidableEq, Repr

namespace Outcome

/-- Some lines, each with its end. -/
def textOf (lines : List String) : String := String.join (lines.map (· ++ "\n"))

/-- The usage, asked for or not. -/
def ofUsage : Outcome := ⟨0, textOf usage, ""⟩

/-- The usage, with a complaint about the arguments. -/
def ofRefusal (refusal : Refusal) : Outcome :=
  let complaint :=
    match refusal.complaint? with
    | some complaint => textOf ["Error: " ++ complaint, ""]
    | none => ""
  ⟨1, textOf usage, complaint⟩

/-- A failure, with its reason. -/
def failure (context reason : String) : Outcome :=
  ⟨1, "", textOf ["Error: " ++ context, "Reason: " ++ reason]⟩

/-- A report on a bundle. -/
def ofReport (path : String) (report : Lint.Report) : Outcome :=
  let errors := report.count .error
  let warnings := report.count .warning
  let infos := report.count .info
  let summary := s!"{path}: {errors} error(s), {warnings} warning(s), {infos} info"
  ⟨if report.hasErrors then 2 else 0,
    textOf (report.issues.map Lint.Issue.text ++ ["", summary]), ""⟩

end Outcome

/-- The contents of the file under a path, or the reason why it cannot be read. -/
abbrev Files := String → Except String ByteArray

/-- The files of a disk. -/
def filesOf (disk : Disk) : Files := fun path =>
  match disk.read path with
  | .ok text => .ok text.toUTF8
  | .error error => .error error.message

/-- The text of a file. -/
def readText (files : Files) (path : String) : Except String String := do
  let bytes ← files path
  match String.fromUTF8? bytes with
  | some text => .ok text
  | none => .error "stream did not contain valid UTF-8"

/-- The bundle of a file. -/
def readBundle (files : Files) (path : String) : Except String Bundle := do
  let bytes ← (files path).mapError fun reason => s!"failed to read {path}: {reason}"
  (Bundle.load bytes).mapError fun error =>
    match error with
    | .encoding => s!"failed to load {path}: {error.message}"
    | .document cause => s!"failed to load {path}: {error.message}: {cause.message}"

/-- The settings of the lint in a file, or the standard ones. -/
def readSettings (files : Files) : Option String → Except String Lint.Settings
  | none => .ok .standard
  | some path => do
    let text ← readText files path
    (Lint.Settings.ofText text).mapError DocumentError.message

/-- The configuration of a game in a file, or the standard one. -/
def readConfig (files : Files) : Option String → Except String Config
  | none => .ok .standard
  | some path => do
    let text ← (readText files path).mapError fun reason =>
      s!"failed to read config '{path}': {reason}"
    (Config.ofText text).mapError fun cause => s!"{Config.refusal}: {cause.message}"

/-- Report what is wrong with a bundle. -/
def check (files : Files) (path : String) (config : Option String) : Outcome :=
  match readSettings files config with
  | .error reason => .failure "Failed to load lint configuration" reason
  | .ok settings =>
    match readBundle files path with
    | .error reason => .failure "Check failed" reason
    | .ok bundle => .ofReport path (Lint.report settings bundle)

/-- The player of a bundle at the first question. -/
def play (files : Files) (path : String) (config : Option String) :
    Logged (Except Outcome Player) :=
  match readConfig files config with
  | .error reason => pure (.error (.failure "Failed to load engine configuration" reason))
  | .ok config =>
    match readBundle files path with
    | .error reason => pure (.error (.failure "Player mode failed" reason))
    | .ok bundle => do
      match ← Player.start bundle config with
      | .error error => pure (.error (.failure "Player mode failed" error.message))
      | .ok player => pure (.ok player)

/-- Start a run: its outcome, or a player who is asked for commands. -/
def start (files : Files) (arguments : List String) : Logged (Except Outcome Player) :=
  match Command.ofArguments arguments with
  | .error refusal => pure (.error (.ofRefusal refusal))
  | .ok .help => pure (.error .ofUsage)
  | .ok (.check bundle config) => pure (.error (check files bundle config))
  | .ok (.play bundle config) => play files bundle config

/-- A whole run on lines of input, which ends with them if the player does not leave before. -/
def run (files : Files) (arguments input : List String) : Logged Outcome := do
  match ← start files arguments with
  | .error outcome => pure outcome
  | .ok player => do
    let player ← player.enterAll input
    pure ⟨0, player.takeScreen.1, ""⟩

end Narrative.CommandLine
