import TellerTerminal.Config
import TellerTerminal.Toml.Reading

/-!
# Reading configurations

A configuration is a TOML text with the tables `terminal`, `logging` and `settings`, in which every
entry may be missing. Entries of other names are passed over, though their numbers must be readable.
A section may also be a list of its values in order, where nothing behind these values is looked at;
a date in the place of a section sets nothing.
-/

namespace TellerTerminal

open Toml (Value)

/-- Why there is no configuration. -/
inductive ConfigError
  | unreadable
  | malformed
  | invalid (fault : ConfigFault)
  deriving DecidableEq, Repr

namespace Config

/-- Whether the numbers under all names but these can be read. -/
def othersReadable (names : List String) (entries : Toml.Entries) : Bool :=
  entries.all fun entry => names.contains entry.1 || entry.2.isReadable

/-- The values of a section under these names; `none` if the value is no section. -/
def sectionValues? (names : List String) : Value → Option (List (Option Value))
  | .table _ entries =>
      if othersReadable names entries then some (names.map fun name => entries.lookup name)
      else none
  | .array items => some (names.zipIdx.map fun name => items[name.2]?)
  | .tables items =>
      some (names.zipIdx.map fun name => items[name.2]?.map (Value.table .header))
  -- A date has no entry of any of the names.
  | .dateTime => some (names.map fun _ => none)
  | _ => none

def text? : Value → Option String
  | .string text => some text
  | _ => none

def boolean? : Value → Option Bool
  | .boolean value => some value
  | _ => none

/-- The value of an entry that may be missing: `some none` if it is, `none` if it is no value of
the right type. -/
def entry? {α : Type} (read? : Value → Option α) : Option Value → Option (Option α)
  | none => some none
  | some value => (read? value).map some

def terminal? (value : Value) : Option TerminalConfig := do
  match ← sectionValues? ["initial_state", "restore_state_tables"] value with
  | [initialState, restore] =>
      let initialState ← entry? text? initialState
      let restore ← entry? boolean? restore
      return { initialState := initialState.getD "000", restoreStateTables := restore.getD true }
  | _ => none

def logging? (value : Value) : Option LoggingConfig := do
  match ← sectionValues? ["filter", "file"] value with
  | [filter, file] =>
      let filter ← entry? text? filter
      let file ← entry? text? file
      return { filter := filter.getD "info", file }
  | _ => none

def settings? (value : Value) : Option SettingsConfig := do
  match ← sectionValues? ["path"] value with
  | [path] => return { path := ← entry? text? path }
  | _ => none

/-- The configuration of a table, before it is checked. -/
def ofEntries? (entries : Toml.Entries) : Option Config := do
  guard (othersReadable ["terminal", "logging", "settings"] entries)
  let terminal ← entry? terminal? (entries.lookup "terminal")
  let logging ← entry? logging? (entries.lookup "logging")
  let settings ← entry? settings? (entries.lookup "settings")
  return {
    terminal := terminal.getD {}, logging := logging.getD {}, settings := settings.getD {} }

def ofText (text : String) : Except ConfigError Config :=
  match (Toml.ofText? text).bind ofEntries? with
  | none => .error .malformed
  | some config =>
      match config.validate with
      | .ok _ => .ok config
      | .error fault => .error (.invalid fault)

end Config

end TellerTerminal
