import TellerTerminal.CommandLine

/-!
# The program

The command line on the real files and streams.
-/

namespace TellerTerminal.CommandLine

/-- The content at a path. What cannot be opened for another reason than its absence is there, but
cannot be read. -/
def readContent (path : String) : IO Content := do
  try
    return .bytes (← IO.FS.readBinFile path)
  catch
    | .noFileOrDirectory .. => return .missing
    | .inappropriateType .. => return .unreadable
    | _ => return .unreadable

/-- Whether an action succeeds. -/
def succeeds (action : IO Unit) : IO Bool := do
  try
    action
    return true
  catch _ =>
    return false

def realFiles : Files IO where
  read := readContent
  makeDirectories path := succeeds (IO.FS.createDirAll path)
  write path data := succeeds (IO.FS.writeBinFile path data)
  append path := succeeds do
    let _ ← IO.FS.Handle.mk path .append

def Notice.text : Notice → String
  | logUnavailable path => s!"Warning: Failed to open log file {path}"
  | skipped line => s!"line {line}: no event"

def realSurroundings : Surroundings IO where
  files := realFiles
  print line := do
    let out ← IO.getStdout
    out.putStrLn line
    out.flush
  notify notice := IO.eprintln notice.text

/-- The directory for configurations: the one that is named for it, or the usual one in the home
directory, or the working directory. -/
def configDirectory : IO String := do
  match ← IO.getEnv "XDG_CONFIG_HOME" with
  | some path =>
      if path.startsWith "/" then
        return path
  | none => pure ()
  match ← IO.getEnv "HOME" with
  | some home => return if home.isEmpty then "." else home ++ "/.config"
  | none => return "."

/-- Takes the lines of a stream until it ends or the run does. -/
def takeStream (run : Run) (stream : IO.FS.Stream) : IO (Except Failure Unit) := do
  let mut run := run
  repeat
    let line ← try stream.getLine catch _ => return .error .script
    if line.isEmpty then
      break
    match ← takeLine realSurroundings run line.toUTF8 with
    | .ok next => run := next
    | .error failure => return .error failure
  return .ok ()

def openScript : Option String → IO (Except Failure IO.FS.Stream)
  | none => return .ok (← IO.getStdin)
  | some path =>
      try
        return .ok (.ofHandle (← IO.FS.Handle.mk path .read))
      catch _ =>
        return .error (.scriptMissing path)

def runProgram (arguments : Arguments) : IO (Except Failure Unit) := do
  match ← start realSurroundings arguments (← configDirectory) with
  | .error failure => return .error failure
  | .ok run =>
      match ← openScript arguments.script with
      | .error failure => return .error failure
      | .ok stream => takeStream run stream

def usage : String :=
  "Usage: ndc-terminal [--config <CONFIG>] [--script <SCRIPT>]"

end TellerTerminal.CommandLine

open TellerTerminal.CommandLine in
def main (words : List String) : IO UInt32 := do
  match invocation words with
  | .version =>
      IO.println versionText
      return 0
  | .help =>
      IO.println usage
      return 0
  | .wrong =>
      IO.eprintln usage
      return 2
  | .run arguments =>
      match ← runProgram arguments with
      | .ok _ => return 0
      | .error failure =>
          IO.eprintln ("Error: " ++ failure.message)
          return 1
