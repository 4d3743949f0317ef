import TellerTerminal.Files.Tree

/-!
# Files keep what is written

`Files.Faithful` is what a program relies on when it reads its own files: reading changes nothing,
and after a granted write the new content is read.  The files of a workspace are faithful for every
path.  A write puts a file where none or another file was, so the directories stay the same, and
the path still leads to the place where the file was put.
-/

namespace TellerTerminal

variable {σ : Type}

structure Files.Faithful (files : Files (StateM σ)) : Prop where
  read_keeps : ∀ path disk, ((files.read path).run disk).2 = disk
  read_write : ∀ path data disk, ((files.write path data).run disk).1 = true →
    ((files.read path).run ((files.write path data).run disk).2).1 = .bytes data

namespace FileTree

theorem lookup_cons_eq (name key : String) (child : FileTree)
    (entries : List (String × FileTree)) :
    ((key, child) :: entries).lookup name =
      if name = key then some child else entries.lookup name := by
  by_cases h : name = key
  · subst h
    simp
  · have hbeq : (name == key) = false := beq_false_of_ne h
    simp [List.lookup_cons, h, hbeq]

theorem lookup_setEntry (name other : String) (child : FileTree)
    (entries : List (String × FileTree)) :
    (setEntry name child entries).lookup other =
      if other = name then some child else entries.lookup other := by
  induction entries with
  | nil => simp [setEntry, lookup_cons_eq]
  | cons entry rest ih =>
      obtain ⟨key, value⟩ := entry
      by_cases hkey : key = name
      · subst hkey
        by_cases h : other = key
        · simp [setEntry, h]
        · simp [setEntry, lookup_cons_eq, h]
      · by_cases h : other = key
        · simp [setEntry, hkey, h]
        · simp [setEntry, lookup_cons_eq, hkey, h, ih]

variable {tree : FileTree} {place : List String}

/-- A place below a directory is reached through its first entry. -/
theorem exists_of_isDirectory_cons {name : String}
    (h : (tree.get? (name :: place)).any isDirectory) :
    ∃ entries child, tree = directory entries ∧ entries.lookup name = some child ∧
      (child.get? place).any isDirectory := by
  cases tree with
  | file data => simp [get?, child?] at h
  | directory entries =>
      cases hchild : entries.lookup name with
      | none => simp [get?, child?, hchild] at h
      | some child => exact ⟨entries, child, rfl, hchild, by simpa [get?, child?, hchild] using h⟩

/-- Below a file there is no directory. -/
theorem isDirectory_get?_of_file (h : tree.isDirectory = false) (place : List String) :
    (tree.get? place).any isDirectory = false := by
  cases tree with
  | directory entries => simp [isDirectory] at h
  | file data =>
      cases place with
      | nil => rfl
      | cons name place => rfl

theorem get?_put (item : FileTree) (name : String) (h : (tree.get? place).any isDirectory) :
    (put item (place ++ [name]) tree).get? (place ++ [name]) = some item := by
  induction place generalizing tree with
  | nil =>
      cases tree with
      | file data => simp [get?, isDirectory] at h
      | directory entries => simp [put, get?, child?, lookup_setEntry]
  | cons first place ih =>
      obtain ⟨entries, child, rfl, hchild, hrest⟩ := exists_of_isDirectory_cons h
      simpa [put, get?, child?, lookup_setEntry, hchild] using ih hrest

/-- Where no directory was a file is put, and there is none after it. -/
theorem isDirectory_put (data : ByteArray) (name : String)
    (h : (tree.get? place).any isDirectory)
    (hfile : ¬ (tree.get? (place ++ [name])).any isDirectory) (other : List String) :
    ((put (file data) (place ++ [name]) tree).get? other).any isDirectory =
      (tree.get? other).any isDirectory := by
  induction place generalizing tree other with
  | nil =>
      cases tree with
      | file data => simp [get?, isDirectory] at h
      | directory entries =>
          cases other with
          | nil => rfl
          | cons head other =>
              by_cases hhead : head = name
              · subst hhead
                have hput : ((put (file data) [head] (directory entries)).get? (head :: other)).any
                    isDirectory = false := by
                  have hfresh : (file data).isDirectory = false := rfl
                  simpa [put, get?, child?, lookup_setEntry] using
                    isDirectory_get?_of_file hfresh other
                cases hchild : entries.lookup head with
                | none => simpa [get?, child?, hchild] using hput
                | some child =>
                    have hchildFile : child.isDirectory = false := by
                      simpa [get?, child?, hchild] using hfile
                    have hold := isDirectory_get?_of_file hchildFile other
                    simpa [get?, child?, hchild, hold] using hput
              · simp [put, get?, child?, lookup_setEntry, hhead]
  | cons first place ih =>
      obtain ⟨entries, child, rfl, hchild, hrest⟩ := exists_of_isDirectory_cons h
      cases other with
      | nil => rfl
      | cons head other =>
          by_cases hhead : head = first
          · subst hhead
            have hchildFile : ¬ (child.get? (place ++ [name])).any isDirectory := by
              simpa [get?, child?, hchild] using hfile
            simpa [put, get?, child?, lookup_setEntry, hchild] using ih hrest hchildFile other
          · simp [put, get?, child?, lookup_setEntry, hhead]

end FileTree

/-- The place that a step leads to. -/
def PathStep.lead (place : List String) : PathStep → List String
  | .here => place
  | .up => place.dropLast
  | .name text => place ++ [text]

namespace Workspace

variable {workspace after : Workspace} {place directory : List String} {steps : List PathStep}

theorem walk?_cons (workspace : Workspace) (place : List String) (step : PathStep)
    (steps : List PathStep) :
    workspace.walk? place (step :: steps) =
      if workspace.hasDirectory place then workspace.walk? (step.lead place) steps else none := by
  cases step with
  | here => rfl
  | up => rfl
  | name name => rfl

theorem walk?_nil (workspace : Workspace) (place : List String) :
    workspace.walk? place [] =
      if (workspace.tree.get? place).isSome then some place else none := by
  rfl

/-- The steps lead to the same directory wherever the directories are the same. -/
theorem walk?_of_hasDirectory
    (hsame : ∀ place, after.hasDirectory place = workspace.hasDirectory place)
    (hwalk : workspace.walk? place steps = some directory)
    (hdirectory : workspace.hasDirectory directory) : after.walk? place steps = some directory := by
  induction steps generalizing place with
  | nil =>
      obtain ⟨-, rfl⟩ : _ ∧ place = directory := by simpa [walk?_nil] using hwalk
      have hsome : (after.tree.get? place).isSome :=
        Option.isSome_of_any ((hsame place).trans hdirectory)
      rw [walk?_nil, if_pos hsome]
  | cons step steps ih =>
      rw [walk?_cons] at hwalk ⊢
      rw [hsame place]
      by_cases hplace : workspace.hasDirectory place
      · rw [if_pos hplace] at hwalk ⊢
        exact ih hwalk
      · simp [hplace] at hwalk

/-- A last step to a name leads to what is there. -/
theorem walk?_concat (hwalk : workspace.walk? place steps = some directory)
    (hdirectory : workspace.hasDirectory directory) (name : String) :
    workspace.walk? place (steps ++ [.name name]) =
      workspace.walk? (directory ++ [name]) [] := by
  induction steps generalizing place with
  | nil =>
      obtain ⟨-, rfl⟩ : _ ∧ place = directory := by simpa [walk?_nil] using hwalk
      rw [List.nil_append, walk?_cons, if_pos hdirectory, PathStep.lead]
  | cons step steps ih =>
      rw [walk?_cons] at hwalk
      by_cases hplace : workspace.hasDirectory place
      · rw [if_pos hplace] at hwalk
        rw [List.cons_append, walk?_cons, if_pos hplace, ih hwalk]
      · simp [hplace] at hwalk

/-- What a place for a file of a path is. -/
theorem exists_of_filePlace? {text : String} (h : workspace.filePlace? text = some place) :
    ∃ path steps directory name, path? text = some path ∧ path.steps = steps ++ [.name name] ∧
      workspace.walk? (workspace.origin path) steps = some directory ∧
      workspace.hasDirectory directory ∧ place = directory ++ [name] := by
  simp only [filePlace?, Option.bind_eq_bind, Option.bind_eq_some_iff] at h
  obtain ⟨path, hpath, h⟩ := h
  split at h
  next name hlast =>
    obtain ⟨directory, hwalk, h⟩ := Option.bind_eq_some_iff.mp h
    obtain ⟨⟨hdirectory, -⟩, rfl⟩ : (_ ∧ _) ∧ directory ++ [name] = place := by simpa using h
    obtain ⟨steps, hsteps⟩ := List.getLast?_eq_some_iff.mp hlast
    rw [hsteps, List.dropLast_concat] at hwalk
    exact ⟨path, steps, directory, name, hpath, hsteps, hwalk, hdirectory, rfl⟩
  next => simp at h

/-- A granted write puts the file at the place of its path, where no directory is. -/
theorem exists_of_write? {path : String} {data : ByteArray}
    (h : workspace.write? path data = some after) :
    ∃ place, workspace.filePlace? path = some place ∧ ¬ workspace.hasDirectory place ∧
      after = workspace.putAt place (.file data) := by
  obtain ⟨place, hplace, h⟩ := Option.bind_eq_some_iff.mp h
  refine ⟨place, hplace, ?_⟩
  cases hitem : workspace.tree.get? place with
  | none => simpa [hasDirectory, hitem, eq_comm] using h
  | some item =>
      cases item with
      | file old => simpa [hasDirectory, hitem, FileTree.isDirectory, eq_comm] using h
      | directory entries => simp [hitem] at h

/-- Where a path leads to once a file has been put at its place. -/
theorem locate?_putAt {path : String} (data : ByteArray)
    (hplace : workspace.filePlace? path = some place) (hfile : ¬ workspace.hasDirectory place) :
    (workspace.putAt place (.file data)).locate? path = some place ∧
      (workspace.putAt place (.file data)).tree.get? place = some (.file data) := by
  obtain ⟨parsed, steps, directory, name, hpath, hsteps, hwalk, hdirectory, rfl⟩ :=
    exists_of_filePlace? hplace
  have hget : (workspace.putAt (directory ++ [name]) (.file data)).tree.get?
      (directory ++ [name]) = some (.file data) := FileTree.get?_put _ name hdirectory
  have hsame (place : List String) :
      (workspace.putAt (directory ++ [name]) (.file data)).hasDirectory place =
        workspace.hasDirectory place :=
    FileTree.isDirectory_put data name hdirectory hfile place
  have hlast := walk?_concat (walk?_of_hasDirectory hsame hwalk hdirectory)
    ((hsame directory).trans hdirectory) name
  rw [walk?_nil, if_pos (by simp [hget]), ← hsteps] at hlast
  refine ⟨?_, hget⟩
  simp only [locate?, hpath, Option.bind_eq_bind, Option.bind_some]
  exact hlast

/-- After a granted write the new data is read. -/
theorem read_of_write? {path : String} {data : ByteArray}
    (h : workspace.write? path data = some after) : after.read path = .bytes data := by
  obtain ⟨place, hplace, hfile, rfl⟩ := exists_of_write? h
  obtain ⟨hlocate, hget⟩ := locate?_putAt data hplace hfile
  rw [read, hlocate, Option.bind_some, hget]

theorem faithful_files : files.Faithful where
  read_keeps path workspace := rfl
  read_write path data workspace h := by
    change ((workspace.granted (workspace.write? path data)).1 = true) at h
    change (workspace.granted (workspace.write? path data)).2.read path = .bytes data
    cases hwrite : workspace.write? path data with
    | none => simp [hwrite, granted] at h
    | some after => exact read_of_write? hwrite

end Workspace

end TellerTerminal
