import TellerTerminal.Config.Reading
import TellerTerminal.Replay.ReportText
import TellerTerminal.Settings.File

/-!
# The command line

The program replays a script of events on one terminal. Its arguments name a configuration file and
a script; it reads the configuration, opens the log and the settings, and then prints a report for
each event.
-/

namespace TellerTerminal.CommandLine

structure Arguments where
  config : Option String := none
  script : Option String := none
  deriving DecidableEq, Repr

inductive Invocation
  | run (arguments : Arguments)
  | version
  | help
  | wrong
  deriving DecidableEq, Repr

inductive ValueOption
  | config
  | script
  deriving DecidableEq, Repr

def ValueOption.ofLong? (name : String) : Option ValueOption :=
  if name = "config" then some .config
  else if name = "script" then some .script
  else none

def ValueOption.ofShort? : Char → Option ValueOption
  | 'c' => some .config
  | 's' => some .script
  | _ => none

namespace Arguments

/-- The arguments with the value of an option, which may be given once and must not be empty. -/
def set? (arguments : Arguments) (option : ValueOption) (value : String) : Option Arguments :=
  match option, value with
  | _, "" => none
  | .config, value =>
      if arguments.config.isNone then some { arguments with config := some value } else none
  | .script, value =>
      if arguments.script.isNone then some { arguments with script := some value } else none

end Arguments

/-- A word that is an option, so that it cannot be the value of one. A lone dash is no option. -/
def isOption (word : String) : Bool :=
  match word.toList with
  | '-' :: _ :: _ => true
  | _ => false

/-- What a word asks for: an option with its value or with the value in the next word, help, the
version, nothing, or something that there is not. -/
inductive Request
  | value (option : ValueOption) (value : String)
  | valueFollows (option : ValueOption)
  | help
  | version
  | endOfOptions
  | unknown

/-- The value of a short option in the same word, where an equals sign may come first. -/
def attachedValue : List Char → String
  | '=' :: rest => String.ofList rest
  | rest => String.ofList rest

def ofShort : List Char → Request
  | 'h' :: _ => .help
  | 'V' :: _ => .version
  | c :: rest =>
      match ValueOption.ofShort? c with
      | none => .unknown
      | some option =>
          if rest.isEmpty then .valueFollows option else .value option (attachedValue rest)
  | [] => .unknown

def ofLong (word : List Char) : Request :=
  let name := String.ofList (word.takeWhile (· ≠ '='))
  match ValueOption.ofLong? name, word.dropWhile (· ≠ '=') with
  | some option, [] => .valueFollows option
  | some option, _ :: value => .value option (String.ofList value)
  | none, [] => if name = "help" then .help else if name = "version" then .version else .unknown
  | none, _ => .unknown

def requestOf (word : String) : Request :=
  match word.toList with
  | ['-', '-'] => .endOfOptions
  | '-' :: '-' :: rest => ofLong rest
  | '-' :: c :: rest => ofShort (c :: rest)
  | _ => .unknown

/-- Reads the words from left to right. The first that asks for help or the version, or that is
wrong, decides. -/
def invocationFrom (arguments : Arguments) : List String → Invocation
  | [] => .run arguments
  | word :: rest =>
      match requestOf word with
      | .help => .help
      | .version => .version
      | .unknown => .wrong
      -- There are no words but options, so nothing may follow.
      | .endOfOptions => if rest.isEmpty then .run arguments else .wrong
      | .value option value =>
          match arguments.set? option value with
          | some arguments => invocationFrom arguments rest
          | none => .wrong
      -- The next word is the value, unless it is an option itself.
      | .valueFollows option =>
          match rest with
          | [] => .wrong
          | value :: rest =>
              if isOption value then .wrong
              else
                match arguments.set? option value with
                | some arguments => invocationFrom arguments rest
                | none => .wrong

def invocation (words : List String) : Invocation :=
  invocationFrom {} words

def versionText : String := "ndc-terminal 0.1.0"

/-- Why a run ends early. -/
inductive Failure
  | configuration
  | settings
  | scriptMissing (path : String)
  | script
  deriving DecidableEq, Repr

def Failure.message : Failure → String
  | configuration => "Failed to load configuration"
  | settings => "Failed to open settings"
  | scriptMissing path => s!"Failed to open script {path}"
  | script => "Failed to read script"

/-- What a run says besides its reports. -/
inductive Notice
  | logUnavailable (path : String)
  | skipped (line : Nat)
  deriving DecidableEq, Repr

/-- A run between two lines of its script. -/
structure Run where
  terminal : Terminal
  settings : Settings
  settingsPath : Option String
  line : Nat := 0

/-- What a run needs around it. -/
structure Surroundings (m : Type → Type) where
  files : Files m
  print : String → m Unit
  notify : Notice → m Unit

/-- The configuration in a file. -/
def configOfContent (content : Content) : Except ConfigError Config :=
  match content.text? with
  | some text => Config.ofText text
  | none => .error .unreadable

/-- The configuration at the default path, where there need not be one. -/
def defaultConfigOfContent : Content → Except ConfigError Config
  | .missing => .ok {}
  | content => configOfContent content

/-- The default path of the configuration, below the directory for configurations. -/
def defaultConfigPath (directory : String) : String :=
  directory ++ "/ndc-terminal/config.toml"

variable {m : Type → Type} [Monad m]

def readConfig (files : Files m) (path? : Option String) (configDirectory : String) :
    m (Except ConfigError Config) := do
  match path? with
  | some path => return configOfContent (← files.read path)
  | none => return defaultConfigOfContent (← files.read (defaultConfigPath configDirectory))

def readSettings (files : Files m) : Option String → m (Except SettingsError Settings)
  | some path => return Settings.ofContent (← files.read path)
  | none => return .ok {}

def openLog (surroundings : Surroundings m) : Option String → m Unit
  | some path => do
      unless ← surroundings.files.append path do
        surroundings.notify (.logUnavailable path)
  | none => return

/-- Starts a run: configuration, log, settings and terminal, in this order. -/
def start (surroundings : Surroundings m) (arguments : Arguments) (configDirectory : String) :
    m (Except Failure Run) := do
  match ← readConfig surroundings.files arguments.config configDirectory with
  | .error _ => return .error .configuration
  | .ok config =>
      -- A log that cannot be opened is only noted.
      openLog surroundings config.logging.file
      match ← readSettings surroundings.files config.settings.path with
      | .error _ => return .error .settings
      | .ok settings =>
          return .ok {
            terminal := Terminal.start config.terminal settings
            settings, settingsPath := config.settings.path }

/-- A line that holds no event: blanks only, or a comment. -/
def isIdleLine : List Char → Bool
  | [] => true
  | c :: _ => c = '#'

/-- Writes changed settings to their file, if there is one. -/
def saveSettings (files : Files m) (run : Run) : m Run := do
  match run.settingsPath with
  | some path => return { run with settings := ← run.settings.save files path }
  | none => return run

/-- Takes the next line of the script. A line that is no event is skipped with a notice, and one
that is no text ends the run. -/
def takeLine (surroundings : Surroundings m) (run : Run) (data : ByteArray) :
    m (Except Failure Run) := do
  let run := { run with line := run.line + 1 }
  match String.fromUTF8? data with
  | none => return .error .script
  | some text =>
      let chars := Text.trim text.toList
      if isIdleLine chars then
        return .ok run
      match Event.ofText? chars with
      | none =>
          surroundings.notify (.skipped run.line)
          return .ok run
      | some event =>
          -- The settings are on disk before the report is shown.
          let (report, terminal, settings) := event.apply run.terminal run.settings
          let run ← saveSettings surroundings.files { run with terminal, settings }
          surroundings.print report.line
          return .ok run

/-- Takes lines until the script ends or the run does. -/
def takeLines (surroundings : Surroundings m) (run : Run) :
    List ByteArray → m (Except Failure Run)
  | [] => return .ok run
  | data :: rest => do
      match ← takeLine surroundings run data with
      | .ok run => takeLines surroundings run rest
      | .error failure => return .error failure

end TellerTerminal.CommandLine
