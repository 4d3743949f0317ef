import TellerTerminal.Files
import TellerTerminal.Files.Path
import TellerTerminal.Settings

/-!
# Settings in a file

The whole store is written after every change. A file that cannot be written changes nothing for
the terminals: the store in memory keeps the value.
-/

namespace TellerTerminal

inductive SettingsError
  | unreadable
  | malformed
  deriving DecidableEq, Repr

namespace Settings

/-- The store of a settings file; a missing file is an empty store. -/
def ofContent : Content → Except SettingsError Settings
  | .missing => .ok {}
  | content =>
      match content.text? with
      | none => .error .unreadable
      | some text =>
          match ofFileText? text with
          | some settings => .ok settings
          | none => .error .malformed

variable {m : Type → Type} [Monad m]

/-- Makes the directory of a file, and then the file. -/
def writeFile (files : Files m) (path text : String) : m Bool := do
  -- A file beside the program needs no directory.
  let ready ← match parentPath? path with
    | some parent => files.makeDirectories parent
    | none => pure true
  if ready then files.write path text.toUTF8 else pure false

/-- The store after its changes were written to a file, or lost if that failed. -/
def save (files : Files m) (path : String) (settings : Settings) : m Settings := do
  if settings.unsaved then
    let _ ← writeFile files path settings.fileText
  return settings.saved

end Settings

end TellerTerminal
