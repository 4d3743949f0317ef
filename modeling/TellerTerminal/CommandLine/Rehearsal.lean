import TellerTerminal.CommandLine
import TellerTerminal.Files.Tree

/-!
# Rehearsals

A rehearsal runs the whole program on a workspace in memory, and gives everything that can be seen
of the run afterwards.
-/

namespace TellerTerminal.CommandLine

/-- The workspace and what has been said so far. -/
structure Stage where
  workspace : Workspace
  printed : Array String := #[]
  notices : Array Notice := #[]

namespace Stage

/-- Does something with the workspace only. -/
def onWorkspace {α : Type} (action : StateM Workspace α) : StateM Stage α := fun stage =>
  let (value, workspace) := action.run stage.workspace
  (value, { stage with workspace })

def surroundings : Surroundings (StateM Stage) where
  files := {
    read := fun path => onWorkspace (Workspace.files.read path)
    makeDirectories := fun path => onWorkspace (Workspace.files.makeDirectories path)
    write := fun path data => onWorkspace (Workspace.files.write path data)
    append := fun path => onWorkspace (Workspace.files.append path) }
  print line := modify fun stage => { stage with printed := stage.printed.push line }
  notify notice := modify fun stage => { stage with notices := stage.notices.push notice }

end Stage

/-- How a run ended. Help and wrong arguments have texts of their own, which are not part of the
rehearsal. -/
inductive Ending
  | finished
  | failed (failure : Failure)
  | wrongArguments
  deriving DecidableEq, Repr

def Ending.exitCode : Ending → Nat
  | finished => 0
  | failed _ => 1
  | wrongArguments => 2

/-- The lines of a script; a line end at the end of the script starts no further line. -/
def linesOf (data : ByteArray) : List ByteArray :=
  -- The byte 10 ends a line.
  let pieces := data.toList.splitOn 10
  let pieces := if pieces.getLast? = some [] then pieces.dropLast else pieces
  pieces.map fun piece => ⟨piece.toArray⟩

/-- The lines of the script: from a file if there is a path, else from standard input. -/
def scriptLines (path? : Option String) (input : ByteArray) :
    StateM Stage (Except Failure (List ByteArray)) := do
  match path? with
  | none => return .ok (linesOf input)
  | some path =>
      match ← Stage.surroundings.files.read path with
      | .missing => return .error (.scriptMissing path)
      | .unreadable => return .error .script
      | .bytes data => return .ok (linesOf data)

/-- A run from its arguments to its end. -/
def rehearseRun (arguments : Arguments) (configDirectory : String) (input : ByteArray) :
    StateM Stage Ending := do
  match ← start Stage.surroundings arguments configDirectory with
  | .error failure => return .failed failure
  | .ok run =>
      match ← scriptLines arguments.script input with
      | .error failure => return .failed failure
      | .ok lines =>
          match ← takeLines Stage.surroundings run lines with
          | .error failure => return .failed failure
          | .ok _ => return .finished

/-- Runs the program with these words as its arguments. -/
def rehearse (words : List String) (configDirectory : String) (input : ByteArray)
    (workspace : Workspace) : Ending × Stage :=
  match invocation words with
  | .run arguments => (rehearseRun arguments configDirectory input).run { workspace }
  | .version => (.finished, { workspace, printed := #[versionText] })
  | .help => (.finished, { workspace })
  | .wrong => (.wrongArguments, { workspace })

end TellerTerminal.CommandLine
