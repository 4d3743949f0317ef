import TellerTerminal.Ascending
import TellerTerminal.Json.Printing
import TellerTerminal.Json.Reading

/-!
# The settings store

A store maps keys to JSON values and is shared by the terminals that are given it. Reading a key
that has no value gives an empty object. A store remembers whether it has been written since it was
last saved.
-/

namespace TellerTerminal

/-- The entries stand in ascending order of their keys. -/
structure Settings where
  entries : List (String × Json) := []
  unsaved : Bool := false

namespace Settings

def find? (settings : Settings) (key : String) : Option Json :=
  (settings.entries.find? fun entry => entry.1 = key).map Prod.snd

def get (settings : Settings) (key : String) : Json :=
  (settings.find? key).getD (.object [])

def set (settings : Settings) (key : String) (value : Json) : Settings where
  entries := Ascending.insert Prod.fst (key, value) settings.entries
  unsaved := true

def saved (settings : Settings) : Settings :=
  { settings with unsaved := false }

/-- The keys in ascending order. -/
def keys (settings : Settings) : List String :=
  settings.entries.map Prod.fst

/-- The text of a settings file, which holds the whole store as one JSON object. -/
def fileText (settings : Settings) : String :=
  String.ofList (Json.object settings.entries).pretty

def ofFileText? (text : String) : Option Settings :=
  match Json.ofText? text.toList with
  | some (.object entries) => some { entries }
  | _ => none

end Settings

end TellerTerminal
