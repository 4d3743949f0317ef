import TellerTerminal.Files
import TellerTerminal.Files.Path

/-!
# File trees

A tree of files and directories with a working directory, on which the requests of a program can be
carried out. There are no links, so a place in the tree is the list of names that leads to it.
-/

namespace TellerTerminal

inductive FileTree
  | file (data : ByteArray)
  | directory (entries : List (String × FileTree))
  deriving Inhabited

namespace FileTree

def child? (name : String) : FileTree → Option FileTree
  | directory entries => entries.lookup name
  | file _ => none

/-- What stands at a place. -/
def get? (tree : FileTree) : List String → Option FileTree
  | [] => some tree
  | name :: place => (tree.child? name).bind fun child => child.get? place

def setEntry (name : String) (child : FileTree) :
    List (String × FileTree) → List (String × FileTree)
  | [] => [(name, child)]
  | entry :: rest =>
      if entry.1 = name then (name, child) :: rest else entry :: setEntry name child rest

/-- Puts something at a place whose directory is there. -/
def put (item : FileTree) : List String → FileTree → FileTree
  | [], _ => item
  | name :: place, directory entries =>
      let inner := (entries.lookup name).getD (directory [])
      directory (setEntry name (put item place inner) entries)
  | _ :: _, file data => file data

def isDirectory : FileTree → Bool
  | directory _ => true
  | file _ => false

end FileTree

/-- A file tree and the place of the working directory. -/
structure Workspace where
  tree : FileTree
  place : List String

namespace Workspace

def hasDirectory (workspace : Workspace) (place : List String) : Bool :=
  (workspace.tree.get? place).any FileTree.isDirectory

/-- The place that the steps lead to from a directory. Every step but the last must end in a
directory, and the place itself must be there. -/
def walk? (workspace : Workspace) : List String → List PathStep → Option (List String)
  | place, [] => if (workspace.tree.get? place).isSome then some place else none
  | place, step :: steps =>
      if workspace.hasDirectory place then
        match step with
        | .here => workspace.walk? place steps
        | .up => workspace.walk? place.dropLast steps
        | .name name => workspace.walk? (place ++ [name]) steps
      else
        none

def origin (workspace : Workspace) (path : Path) : List String :=
  if path.absolute then [] else workspace.place

/-- The greatest size of a path in bytes. -/
def pathLimit : Nat := 4095

/-- The path of a text. The empty text is none, and no path contains the character zero. -/
def path? (text : String) : Option Path :=
  if text.isEmpty ∨ '\x00' ∈ text.toList ∨ pathLimit < text.utf8ByteSize then none
  else some (.ofText text)

/-- Whether a file or directory may have this name. -/
def allowsName (name : String) : Bool :=
  name.utf8ByteSize ≤ 255

/-- The place of a path that is there. -/
def locate? (workspace : Workspace) (text : String) : Option (List String) := do
  let path ← path? text
  workspace.walk? (workspace.origin path) path.steps

/-- The place where a file of this path is or could be made: its directory is there, and the last
step is a name. -/
def filePlace? (workspace : Workspace) (text : String) : Option (List String) := do
  let path ← path? text
  match path.steps.getLast? with
  | some (.name name) =>
      let directory ← workspace.walk? (workspace.origin path) path.steps.dropLast
      if workspace.hasDirectory directory ∧ allowsName name then some (directory ++ [name])
      else none
  | _ => none

def read (workspace : Workspace) (path : String) : Content :=
  match (workspace.locate? path).bind workspace.tree.get? with
  | none => .missing
  | some (.file data) => .bytes data
  | some (.directory _) => .unreadable

def putAt (workspace : Workspace) (place : List String) (item : FileTree) : Workspace :=
  { workspace with tree := FileTree.put item place workspace.tree }

/-- The workspace with other data in the file of a path, which is made if it is missing. -/
def write? (workspace : Workspace) (path : String) (data : ByteArray) : Option Workspace := do
  let place ← workspace.filePlace? path
  match workspace.tree.get? place with
  | some (.directory _) => none
  | _ => return workspace.putAt place (.file data)

/-- The workspace with a file at a path, which keeps what it holds. -/
def append? (workspace : Workspace) (path : String) : Option Workspace := do
  let place ← workspace.filePlace? path
  match workspace.tree.get? place with
  | some (.directory _) => none
  | some (.file _) => return workspace
  | none => return workspace.putAt place (.file .empty)

/-- Goes along the steps from a directory and makes the directories that are missing, up to a step
that leads to a file. -/
def makeAlong (workspace : Workspace) : List String → List PathStep → Bool × Workspace
  | _, [] => (true, workspace)
  | place, .here :: steps => workspace.makeAlong place steps
  -- The directory that is left again is there by now.
  | place, .up :: steps => workspace.makeAlong place.dropLast steps
  | place, .name name :: steps =>
      match workspace.tree.get? (place ++ [name]) with
      | some (.directory _) => workspace.makeAlong (place ++ [name]) steps
      | some (.file _) => (false, workspace)
      | none =>
          if allowsName name then
            (workspace.putAt (place ++ [name]) (.directory [])).makeAlong (place ++ [name]) steps
          else
            (false, workspace)

def makeDirectories (workspace : Workspace) (text : String) : Bool × Workspace :=
  match path? text with
  | some path => workspace.makeAlong (workspace.origin path) path.steps
  | none => (false, workspace)

/-- The changed workspace if a change is granted, and the same one if not. -/
def granted (workspace : Workspace) : Option Workspace → Bool × Workspace
  | some changed => (true, changed)
  | none => (false, workspace)

/-- The files of a workspace. -/
def files : Files (StateM Workspace) where
  read path := fun workspace => (workspace.read path, workspace)
  makeDirectories path := fun workspace => workspace.makeDirectories path
  write path data := fun workspace => workspace.granted (workspace.write? path data)
  append path := fun workspace => workspace.granted (workspace.append? path)

end Workspace

end TellerTerminal
