import TellerTerminal.Toml.Value

/-!
# TOML tables

How pairs and headers build up a table. A key is given a value once. A header opens a table once,
though it may be a part of longer headers before. A dotted key ends in a table that dotted keys
made, and on its way there goes through no table that has a header of its own, save the last one of
an array of tables. Nothing is added to a table in braces.
-/

namespace TellerTerminal.Toml

namespace Entries

def find? (entries : Entries) (key : String) : Option Value :=
  entries.lookup key

/-- The entries with another value for a key that is there. -/
def replace (entries : Entries) (key : String) (value : Value) : Entries :=
  entries.map fun entry => if entry.1 = key then (key, value) else entry

/-- Defines the value of a dotted key. -/
def define? (value : Value) : List String → Entries → Option Entries
  | [], _ => none
  | [key], entries =>
      if (entries.find? key).isNone then some (entries ++ [(key, value)]) else none
  | key :: next :: path, entries =>
      match entries.find? key with
      | none => do
          let inner ← define? value (next :: path) []
          return entries ++ [(key, .table .dotted inner)]
      | some (.table .dotted inner) => do
          let inner ← define? value (next :: path) inner
          return entries.replace key (.table .dotted inner)
      -- The next two take no pair themselves, though a dotted table below them does.
      | some (.table .implicit inner) =>
          if path.isEmpty then none
          else do
            let inner ← define? value (next :: path) inner
            return entries.replace key (.table .implicit inner)
      | some (.tables items) =>
          if path.isEmpty then none
          else do
            let last ← define? value (next :: path) (← items.getLast?)
            return entries.replace key (.tables (items.dropLast ++ [last]))
      | some _ => none

/-- Changes the table at the end of a path of headers, making the tables on the way. Of an array of
tables the last one is meant. -/
def descend? (change : Entries → Option Entries) : List String → Entries → Option Entries
  | [], entries => change entries
  | key :: path, entries =>
      match entries.find? key with
      | none => do
          let inner ← descend? change path []
          return entries ++ [(key, .table .implicit inner)]
      | some (.table .inline _) => none
      | some (.table kind inner) => do
          let inner ← descend? change path inner
          return entries.replace key (.table kind inner)
      | some (.tables items) => do
          let last ← items.getLast?
          let last ← descend? change path last
          return entries.replace key (.tables (items.dropLast ++ [last]))
      | some _ => none

/-- Opens the table of a header. -/
def openTable? (key : String) (entries : Entries) : Option Entries :=
  match entries.find? key with
  | none => some (entries ++ [(key, .table .header [])])
  | some (.table .implicit inner) => some (entries.replace key (.table .header inner))
  | some _ => none

/-- Opens a further table of an array of tables. -/
def openItem? (key : String) (entries : Entries) : Option Entries :=
  match entries.find? key with
  | none => some (entries ++ [(key, .tables [[]])])
  | some (.tables items) => some (entries.replace key (.tables (items ++ [[]])))
  | some _ => none

end Entries

/-- A line of a document: a header, a header of an array of tables, or a pair. -/
inductive Statement
  | header (path : List String)
  | itemHeader (path : List String)
  | pair (path : List String) (value : Value)

/-- The table built so far, and the path of the last header. -/
structure Document where
  entries : Entries := []
  path : List String := []

namespace Document

def add? (document : Document) : Statement → Option Document
  | .header path => do
      let key ← path.getLast?
      let entries ← Entries.descend? (Entries.openTable? key) path.dropLast document.entries
      return { entries, path }
  | .itemHeader path => do
      let key ← path.getLast?
      let entries ← Entries.descend? (Entries.openItem? key) path.dropLast document.entries
      return { entries, path }
  | .pair path value => do
      let entries ←
        Entries.descend? (Entries.define? value path) document.path document.entries
      return { document with entries }

def ofStatements? (statements : List Statement) : Option Document :=
  statements.foldlM add? {}

end Document

end TellerTerminal.Toml
