import TellerTerminal.CommandLine
import TellerTerminal.Proofs.Json.RoundTrip
import TellerTerminal.Proofs.Store
import TellerTerminal.Proofs.Workspace

/-!
# A store with a file

A store with a file is asked to set and to get values, and now and then it is opened again.  As
long as its writes are granted it cannot be told from a store in memory: `Mirrors` says that both
hold the same entries and that the file, if it were opened now, would give them back.  When writes
fail the file falls behind, but the entries stay the same.
-/

namespace TellerTerminal

variable {σ : Type}

/-- What is asked of a settings store. -/
inductive StoreStep
  | set (key : String) (value : Json)
  | get (key : String)
  | reopen

/-- What it answers; only an attempt to open it again can be refused. -/
inductive StoreAnswer
  | done
  | value (value : Json)
  | refused (error : SettingsError)

namespace StoreStep

/-- The step on a store in memory, which needs no reopening. -/
def inMemory (memory : Settings) : StoreStep → StoreAnswer × Settings
  | set key value => (.done, memory.set key value)
  | get key => (.value (memory.get key), memory)
  | reopen => (.done, memory)

/-- The step on a store whose changes are written to a file at once.  A file that cannot be opened
again leaves the store as it was. -/
def inFile (files : Files (StateM σ)) (path : String) (store : Settings) (disk : σ) :
    StoreStep → StoreAnswer × Settings × σ
  | set key value =>
      let (store, disk) := ((store.set key value).save files path).run disk
      (.done, store, disk)
  | get key => (.value (store.get key), store, disk)
  | reopen =>
      match (CommandLine.readSettings files (some path)).run disk with
      | (.ok store, disk) => (.done, store, disk)
      | (.error error, disk) => (.refused error, store, disk)

/-- Whether the write of the step is granted, if there is one. -/
def isGranted (files : Files (StateM σ)) (path : String) (store : Settings) (disk : σ) :
    StoreStep → Bool
  | set key value =>
      ((Settings.writeFile files path (store.set key value).fileText).run disk).1
  | _ => true

def runInMemory (memory : Settings) : List StoreStep → List StoreAnswer × Settings
  | [] => ([], memory)
  | step :: rest =>
      let (answer, memory) := step.inMemory memory
      let (answers, memory) := runInMemory memory rest
      (answer :: answers, memory)

def runInFile (files : Files (StateM σ)) (path : String) (store : Settings) (disk : σ) :
    List StoreStep → List StoreAnswer × Settings × σ
  | [] => ([], store, disk)
  | step :: rest =>
      let (answer, store, disk) := step.inFile files path store disk
      let (answers, store, disk) := runInFile files path store disk rest
      (answer :: answers, store, disk)

/-- Whether every write of a run is granted. -/
def allGranted (files : Files (StateM σ)) (path : String) (store : Settings) (disk : σ) :
    List StoreStep → Bool
  | [] => true
  | step :: rest =>
      let (_, store', disk') := step.inFile files path store disk
      step.isGranted files path store disk && allGranted files path store' disk' rest

/-- The value that is set under a key. -/
def valueFor? (key : String) : StoreStep → Option Json
  | set other value => if other = key then some value else none
  | _ => none

/-- The last value that was set under a key. -/
def lastValue? (key : String) (steps : List StoreStep) : Option Json :=
  (steps.filterMap (valueFor? key)).getLast?

/-- The answer to a step by the values that were set before it. -/
def lastAnswer (before : List StoreStep) : StoreStep → StoreAnswer
  | get key => .value ((lastValue? key before).getD (.object []))
  | _ => .done

/-- The answers to steps, each by the values that were set before it. -/
def lastAnswers (before : List StoreStep) : List StoreStep → List StoreAnswer
  | [] => []
  | step :: rest => lastAnswer before step :: lastAnswers (before ++ [step]) rest

end StoreStep

/-- The greatest depth of a value that can be read back from a store. -/
def Settings.valueDepth : Nat := 126

theorem Content.text?_toUTF8 (text : String) : text? (.bytes text.toUTF8) = some text := by
  rw [text?, String.toUTF8_eq_toByteArray, String.fromUTF8?, dif_pos text.isValidUTF8]
  rfl

namespace Settings

theorem get_congr {store memory : Settings} (h : store.entries = memory.entries) (key : String) :
    store.get key = memory.get key := by
  simp only [get, find?, h]

theorem entries_set_congr {store memory : Settings} (h : store.entries = memory.entries)
    (key : String) (value : Json) :
    (store.set key value).entries = (memory.set key value).entries := by
  simp only [set, h]

/-- The text of a store can be read back if its values are plain. -/
theorem ofContent_fileText {store : Settings} (hascending : Json.IsAscending store.entries)
    (hplain : ∀ entry ∈ store.entries, entry.2.Plain valueDepth) :
    ofContent (.bytes store.fileText.toUTF8) = .ok { entries := store.entries } := by
  have hobject : (Json.object store.entries).Plain Json.Node.depthLimit :=
    .object hascending hplain
  have hfile : ofFileText? store.fileText = some { entries := store.entries } := by
    rw [ofFileText?, fileText, String.toList_ofList, hobject.ofText?_pretty (Nat.le_refl _)]
  simp only [ofContent, Content.text?_toUTF8, hfile]

variable {files : Files (StateM σ)} {path : String} {disk : σ}

/-- Makes the directory of a file, if it is named. -/
def makeParent (files : Files (StateM σ)) (path : String) (disk : σ) : Bool × σ :=
  match parentPath? path with
  | some parent => (files.makeDirectories parent).run disk
  | none => (true, disk)

/-- The file is written only if its directory was granted. -/
theorem writeFile_run (text : String) :
    (writeFile files path text).run disk =
      if (makeParent files path disk).1 then
        (files.write path text.toUTF8).run (makeParent files path disk).2
      else (false, (makeParent files path disk).2) := by
  unfold writeFile makeParent
  cases parentPath? path with
  | none => rfl
  | some parent =>
      simp only [StateT.run_bind]
      cases (files.makeDirectories parent).run disk with
      | mk ready disk' =>
          cases ready with
          | true => rfl
          | false => rfl

theorem read_of_writeFile (hfiles : files.Faithful) {text : String}
    (h : ((writeFile files path text).run disk).1 = true) :
    ((files.read path).run ((writeFile files path text).run disk).2).1 =
      .bytes text.toUTF8 := by
  rw [writeFile_run] at h ⊢
  split at h
  next hready =>
    rw [if_pos hready]
    exact hfiles.read_write path text.toUTF8 _ h
  next => simp at h

/-- A store that has just been changed is written. -/
theorem save_set (store : Settings) (key : String) (value : Json) :
    ((store.set key value).save files path).run disk =
      ((store.set key value).saved,
        ((writeFile files path (store.set key value).fileText).run disk).2) := by
  rfl

theorem readSettings_run (hfiles : files.Faithful) :
    (CommandLine.readSettings files (some path)).run disk =
      (ofContent ((files.read path).run disk).1, disk) := by
  have hrun : (CommandLine.readSettings files (some path)).run disk =
      (ofContent ((files.read path).run disk).1, ((files.read path).run disk).2) := rfl
  rw [hrun, hfiles.read_keeps]

end Settings

namespace StoreStep

variable {files : Files (StateM σ)} {path : String} {store memory : Settings} {disk : σ}

/-- A store with a file holds the same entries as a store in memory, and so does its file. -/
structure Mirrors (files : Files (StateM σ)) (path : String) (store memory : Settings)
    (disk : σ) : Prop where
  entries : store.entries = memory.entries
  ascending : Json.IsAscending memory.entries
  plain : ∀ entry ∈ memory.entries, entry.2.Plain Settings.valueDepth
  opened : Settings.ofContent ((files.read path).run disk).1 = .ok { entries := memory.entries }

theorem mirrors_of_missing (h : ((files.read path).run disk).1 = .missing) :
    Mirrors files path {} {} disk where
  entries := rfl
  ascending := .nil
  plain := by simp
  opened := by rw [h]; rfl

/-- A granted write brings the file up to date. -/
theorem Mirrors.set (h : Mirrors files path store memory disk) (hfiles : files.Faithful)
    {key : String} {value : Json} (hvalue : value.Plain Settings.valueDepth)
    (hgranted : (StoreStep.set key value).isGranted files path store disk) :
    Mirrors files path (store.set key value).saved (memory.set key value)
      ((Settings.writeFile files path (store.set key value).fileText).run disk).2 := by
  have hentries := Settings.entries_set_congr h.entries key value
  have hascending : Json.IsAscending (memory.set key value).entries :=
    Ascending.pairwise_insert (key, value) h.ascending
  have hplain : ∀ entry ∈ (memory.set key value).entries,
      entry.2.Plain Settings.valueDepth := by
    intro entry hentry
    rcases Ascending.mem_of_mem_insert hentry with rfl | hold
    · exact hvalue
    · exact h.plain entry hold
  refine ⟨hentries, hascending, hplain, ?_⟩
  -- The whole store is in the new text, so nothing is asked of the text before it.
  rw [Settings.read_of_writeFile hfiles hgranted, ← hentries]
  exact Settings.ofContent_fileText (hentries ▸ hascending) (hentries ▸ hplain)

/-- With a granted write or none, the step is answered as in memory and the file keeps up. -/
theorem Mirrors.step (h : Mirrors files path store memory disk) (hfiles : files.Faithful)
    {step : StoreStep}
    (hplain : ∀ key value, step = .set key value → value.Plain Settings.valueDepth)
    (hgranted : step.isGranted files path store disk) :
    (step.inFile files path store disk).1 = (step.inMemory memory).1 ∧
      Mirrors files path (step.inFile files path store disk).2.1 (step.inMemory memory).2
        (step.inFile files path store disk).2.2 := by
  cases step with
  | set key value =>
      simp only [inFile, Settings.save_set]
      exact ⟨rfl, h.set hfiles (hplain key value rfl) hgranted⟩
  | get key => exact ⟨congrArg StoreAnswer.value (Settings.get_congr h.entries key), h⟩
  | reopen =>
      simp only [inFile, Settings.readSettings_run hfiles, h.opened]
      exact ⟨rfl, rfl, h.ascending, h.plain, h.opened⟩

theorem Mirrors.run (h : Mirrors files path store memory disk) (hfiles : files.Faithful)
    {steps : List StoreStep}
    (hplain : ∀ key value, .set key value ∈ steps → value.Plain Settings.valueDepth)
    (hgranted : allGranted files path store disk steps) :
    (runInFile files path store disk steps).1 = (runInMemory memory steps).1 ∧
      Mirrors files path (runInFile files path store disk steps).2.1 (runInMemory memory steps).2
        (runInFile files path store disk steps).2.2 := by
  induction steps generalizing store memory disk with
  | nil => exact ⟨rfl, h⟩
  | cons step rest ih =>
      obtain ⟨hstep, hrest⟩ := Bool.and_eq_true_iff.mp hgranted
      obtain ⟨hanswer, hmirrors⟩ := h.step hfiles
        (fun key value heq => hplain key value (heq ▸ .head _)) hstep
      obtain ⟨hanswers, hlast⟩ := ih hmirrors
        (fun key value hmem => hplain key value (.tail _ hmem)) hrest
      exact ⟨List.cons_eq_cons.mpr ⟨hanswer, hanswers⟩, hlast⟩

/-- Without reopening the answers are those of the memory, whatever becomes of the writes. -/
theorem answers_of_entries (h : store.entries = memory.entries) {steps : List StoreStep}
    (hreopen : .reopen ∉ steps) :
    (runInFile files path store disk steps).1 = (runInMemory memory steps).1 := by
  induction steps generalizing store memory disk with
  | nil => rfl
  | cons step rest ih =>
      obtain ⟨hstep, hrest⟩ : step ≠ .reopen ∧ .reopen ∉ rest := by
        simpa [eq_comm] using hreopen
      -- A refused write changes the disk only, and without reopening the disk is never read.
      have hkept : (step.inFile files path store disk).1 = (step.inMemory memory).1 ∧
          (step.inFile files path store disk).2.1.entries = (step.inMemory memory).2.entries := by
        cases step with
        | set key value =>
            simp only [inFile, Settings.save_set]
            exact ⟨rfl, Settings.entries_set_congr h key value⟩
        | get key => exact ⟨congrArg StoreAnswer.value (Settings.get_congr h key), h⟩
        | reopen => exact absurd rfl hstep
      exact List.cons_eq_cons.mpr ⟨hkept.1, ih hkept.2 hrest⟩

theorem runInFile_append (before after : List StoreStep) :
    (runInFile files path store disk (before ++ after)).1 =
      (runInFile files path store disk before).1 ++
        (runInFile files path (runInFile files path store disk before).2.1
          (runInFile files path store disk before).2.2 after).1 := by
  induction before generalizing store disk with
  | nil => rfl
  | cons step rest ih => exact congrArg _ ih

theorem runInMemory_append (before after : List StoreStep) :
    (runInMemory memory (before ++ after)).1 =
      (runInMemory memory before).1 ++ (runInMemory (runInMemory memory before).2 after).1 := by
  induction before generalizing memory with
  | nil => rfl
  | cons step rest ih => exact congrArg _ ih

theorem lastValue?_concat (key : String) (before : List StoreStep) (step : StoreStep) :
    lastValue? key (before ++ [step]) = (step.valueFor? key).or (lastValue? key before) := by
  cases hvalue : step.valueFor? key with
  | none => simp [lastValue?, List.filterMap_append, hvalue]
  | some value => simp [lastValue?, List.filterMap_append, hvalue]

theorem find?_inMemory (memory : Settings) (step : StoreStep) (key : String) :
    (step.inMemory memory).2.find? key = (step.valueFor? key).or (memory.find? key) := by
  cases step with
  | set other value =>
      simp only [inMemory, Settings.find?_set, valueFor?]
      split
      next => rfl
      next => rfl
  | get other => rfl
  | reopen => rfl

/-- A store in memory answers by the values that were set last. -/
theorem answers_eq_lastAnswers {before : List StoreStep}
    (h : ∀ key, memory.find? key = lastValue? key before) (steps : List StoreStep) :
    (runInMemory memory steps).1 = lastAnswers before steps := by
  induction steps generalizing memory before with
  | nil => rfl
  | cons step rest ih =>
      have hanswer : (step.inMemory memory).1 = lastAnswer before step := by
        cases step with
        | set key value => rfl
        | get key => simp only [inMemory, lastAnswer, Settings.get, h key]
        | reopen => rfl
      have hafter (key : String) :
          (step.inMemory memory).2.find? key = lastValue? key (before ++ [step]) := by
        rw [find?_inMemory, lastValue?_concat, h key]
      exact List.cons_eq_cons.mpr ⟨hanswer, ih hafter⟩

theorem start_congr (h : store.entries = memory.entries) (config : TerminalConfig) :
    Terminal.start config store = Terminal.start config memory := by
  simp only [Terminal.start, Settings.get_congr h]

/-- A store with a file refines a store in memory.  It is opened where no file is yet, and then
asked for anything, also to be opened again, as long as its writes are granted; after that writes
may fail, and it is not opened again.  Every answer is that of a store in memory: every reopening
succeeds, and a value that is read is the last one that was set, or the empty object.  If the store
is opened after the granted writes, a terminal starts on it as it does on the store in memory. -/
theorem file_store_refines_memory (hfiles : files.Faithful)
    (hmissing : ((files.read path).run disk).1 = .missing) {granted failing : List StoreStep}
    (hplain : ∀ key value, .set key value ∈ granted → value.Plain Settings.valueDepth)
    (hgranted : allGranted files path {} disk granted) (hfailing : .reopen ∉ failing) :
    (CommandLine.readSettings files (some path)).run disk = (.ok {}, disk) ∧
      (runInFile files path {} disk (granted ++ failing)).1 =
        (runInMemory {} (granted ++ failing)).1 ∧
      (runInMemory {} (granted ++ failing)).1 = lastAnswers [] (granted ++ failing) ∧
      ∃ reopened,
        ((CommandLine.readSettings files (some path)).run
          (runInFile files path {} disk granted).2.2).1 = .ok reopened ∧
          ∀ config, Terminal.start config reopened =
            Terminal.start config (runInMemory {} granted).2 := by
  have hstart : Mirrors files path {} {} disk := mirrors_of_missing hmissing
  obtain ⟨hanswers, hmirrors⟩ := hstart.run hfiles hplain hgranted
  have hopen : (CommandLine.readSettings files (some path)).run disk = (.ok {}, disk) := by
    rw [Settings.readSettings_run hfiles, hstart.opened]
  have hrefines : (runInFile files path {} disk (granted ++ failing)).1 =
      (runInMemory {} (granted ++ failing)).1 := by
    rw [runInFile_append, runInMemory_append, hanswers,
      answers_of_entries hmirrors.entries hfailing]
  have hlast : (runInMemory {} (granted ++ failing)).1 = lastAnswers [] (granted ++ failing) :=
    answers_eq_lastAnswers (fun key => rfl) (granted ++ failing)
  refine ⟨hopen, hrefines, hlast, { entries := (runInMemory {} granted).2.entries }, ?_,
    start_congr rfl⟩
  rw [Settings.readSettings_run hfiles, hmirrors.opened]

end StoreStep

/-- The files of a workspace on a disk that takes so many writes and is full then. -/
def Workspace.limitedFiles : Files (StateM (Nat × Workspace)) where
  read path := fun (left, workspace) => (workspace.read path, left, workspace)
  makeDirectories path := fun (left, workspace) =>
    let (granted, workspace) := workspace.makeDirectories path
    (granted, left, workspace)
  write path data := fun (left, workspace) =>
    match left with
    | 0 => (false, 0, workspace)
    | left + 1 =>
        let (granted, workspace) := workspace.granted (workspace.write? path data)
        (granted, left, workspace)
  append path := fun (left, workspace) =>
    let (granted, workspace) := workspace.granted (workspace.append? path)
    (granted, left, workspace)

theorem Workspace.faithful_limitedFiles : limitedFiles.Faithful where
  read_keeps _ _ := rfl
  read_write path data disk h := by
    obtain ⟨left, workspace⟩ := disk
    cases left with
    | zero => exact absurd h Bool.false_ne_true
    | succ left => exact faithful_files.read_write path data workspace h

namespace StoreStep

/-- Steps with two writes: a table, and a setting after the store was opened again. -/
def savedSteps : List StoreStep :=
  [.get "luno", .set Terminal.tableKey (.strings ["001K003004004127127127127127"]), .reopen,
    .get Terminal.tableKey, .set "luno" (.integer 7), .reopen, .get "luno"]

/-- Steps with a write that is one too many. -/
def lostSteps : List StoreStep :=
  [.set "luno" .null, .get "luno", .get Terminal.tableKey]

theorem plain_of_mem_savedSteps {key : String} {value : Json}
    (h : .set key value ∈ savedSteps) : value.Plain Settings.valueDepth := by
  have hvalue : key = Terminal.tableKey ∧ value = .strings ["001K003004004127127127127127"] ∨
      key = "luno" ∧ value = .integer 7 := by
    simpa [savedSteps] using h
  rcases hvalue with ⟨-, rfl⟩ | ⟨-, rfl⟩
  · exact .array (by simp [Json.Plain.string])
  · exact .integer (by decide) (by decide)

theorem file_store_refines_memory_full_disk :
    let disk : Nat × Workspace := (2, ⟨.directory [], []⟩)
    let path := "nested/settings.json"
    ((Workspace.limitedFiles.read path).run disk).1 = .missing ∧
      allGranted Workspace.limitedFiles path {} disk savedSteps ∧
      ¬ allGranted Workspace.limitedFiles path {} disk (savedSteps ++ lostSteps) ∧
      (runInFile Workspace.limitedFiles path {} disk (savedSteps ++ lostSteps)).1 =
        lastAnswers [] (savedSteps ++ lostSteps) ∧
      ∃ reopened,
        ((CommandLine.readSettings Workspace.limitedFiles (some path)).run
          (runInFile Workspace.limitedFiles path {} disk savedSteps).2.2).1 = .ok reopened ∧
          (Terminal.start {} reopened).table.size = 1 := by
  intro disk path
  have hnowhere : disk.2.locate? path = none := by decide +kernel
  have hmissing : ((Workspace.limitedFiles.read path).run disk).1 = .missing := by
    change disk.2.read path = .missing
    rw [Workspace.read, hnowhere]
    rfl
  have hgranted : allGranted Workspace.limitedFiles path {} disk savedSteps := by
    decide +kernel
  have hrefused : ¬ allGranted Workspace.limitedFiles path {} disk (savedSteps ++ lostSteps) := by
    decide +kernel
  have hlost : .reopen ∉ lostSteps := by simp [lostSteps]
  have hsize : (Terminal.start {} (runInMemory {} savedSteps).2).table.size = 1 := by
    decide +kernel
  obtain ⟨-, hrefines, hlast, reopened, hopened, hstart⟩ :=
    file_store_refines_memory Workspace.faithful_limitedFiles hmissing
      (fun _ _ => plain_of_mem_savedSteps) hgranted hlost
  rw [← hstart] at hsize
  exact ⟨hmissing, hgranted, hrefused, hrefines.trans hlast, reopened, hopened, hsize⟩

end StoreStep

end TellerTerminal
