import CodeIndex.Command.Run
import CodeIndex.Proofs.SnapshotNormalForm
import CodeIndex.Proofs.StoredForm
import CodeIndex.Proofs.TableLaws
import CodeIndex.Proofs.TreeGrowth

/-! What a command line does to the files. Only the database and the target of an export are ever
written, and the database only by a command that ends well. To install completion is something else:
it writes what the shell needs. -/
namespace CodeIndex

/-! Saving -/

namespace Database

variable {database : Database} {tree after : FileTree} {path temporary target : String}
  {content : List UInt8} {failure : Failure}

/-- If a file cannot be put in its place there is no trace of it. -/
theorem entryAt_of_writeVia_error
    (hWrite : writeVia tree temporary target content = (after, .error failure)) :
    after.workingDirectory = tree.workingDirectory ∧
      ∀ place, after.entryAt place = tree.entryAt place := by
  rw [writeVia] at hWrite
  split at hWrite
  · obtain ⟨rfl, -⟩ := Prod.mk.inj hWrite
    exact ⟨rfl, fun _ => rfl⟩
  · next made hMake =>
    obtain ⟨cleared, hCleared, hSame⟩ := FileTree.removeFile_of_makeFile hMake
    rw [hCleared] at hWrite
    split at hWrite
    · cases hWrite
    · obtain ⟨rfl, -⟩ := Prod.mk.inj hWrite
      exact hSame

/-- A file that is put in its place is all that changes. -/
theorem entryAt_of_writeVia (hWrite : writeVia tree temporary target content = (after, .ok ())) :
    ∃ place, tree.LeadsTo false target place ∧
      ∀ other, other ≠ place → after.entryAt other = tree.entryAt other := by
  rw [writeVia] at hWrite
  split at hWrite
  · cases hWrite
  · next made hMake =>
    obtain ⟨cleared, hCleared, -⟩ := FileTree.removeFile_of_makeFile hMake
    rw [hCleared] at hWrite
    split at hWrite
    · next moved hMoved =>
      obtain ⟨rfl, -⟩ := Prod.mk.inj hWrite
      exact FileTree.entryAt_of_replace_made hMake hMoved
    · cases hWrite

/-- Saving makes directories first. Then it fails, or a file is written by way of another. -/
theorem exists_of_save {result : Except Failure Unit}
    (hSave : database.save tree path = (after, result)) :
    ∃ made, FileTree.GrowsInto (fun _ => False) tree made ∧
      ((after = made ∧ result ≠ .ok ()) ∨ ∃ temporary content,
        writeVia made temporary (Path.simplify path) content = (after, result)) := by
  rw [save] at hSave
  split at hSave
  · obtain ⟨rfl, rfl⟩ := Prod.mk.inj hSave
    exact ⟨tree, .refl, .inl ⟨rfl, nofun⟩⟩
  · next content _ =>
    dsimp only at hSave
    have hMade := FileTree.growsInto_makeDirectories tree (Path.parent (Path.simplify path))
    split at hSave
    · next made _ hDirectories =>
      obtain ⟨rfl, rfl⟩ := Prod.mk.inj hSave
      rw [hDirectories] at hMade
      exact ⟨made, hMade, .inl ⟨rfl, nofun⟩⟩
    · next made hDirectories =>
      rw [hDirectories] at hMade
      exact ⟨made, hMade, .inr ⟨_, _, hSave⟩⟩

/-- Saving that fails makes directories at most. -/
theorem growsInto_of_save_error (hSave : database.save tree path = (after, .error failure)) :
    FileTree.GrowsInto (fun _ => False) tree after := by
  obtain ⟨made, hMade, ⟨rfl, -⟩ | ⟨temporary, content, hWrite⟩⟩ := exists_of_save hSave
  · exact hMade
  · obtain ⟨hWorking, hSame⟩ := entryAt_of_writeVia_error hWrite
    exact hMade.trans ⟨hWorking, fun place => .inl (hSame place)⟩

/-- Saving that succeeds makes directories at most, apart from what it puts at the place to which
the path leads. -/
theorem entryAt_of_save (hSave : database.save tree path = (after, .ok ())) :
    ∃ made place, FileTree.GrowsInto (fun _ => False) tree made ∧
      tree.LeadsTo false (Path.simplify path) place ∧
      ∀ other, other ≠ place → after.entryAt other = made.entryAt other := by
  obtain ⟨made, hMade, ⟨-, hFailed⟩ | ⟨temporary, content, hWrite⟩⟩ := exists_of_save hSave
  · exact absurd rfl hFailed
  · obtain ⟨place, hLeads, hOthers⟩ := entryAt_of_writeVia hWrite
    exact ⟨made, place, hMade, hLeads.of_growsInto hMade, hOthers⟩

end Database

/-! What a command line asks for -/

namespace Settings

open Yaml (Value)

theorem get?_addOption_of_ne {values : Table Value} {name key : String} (hNe : key ≠ name)
    (value : Value) : (addOption values name value).get? key = values.get? key := by
  have hInsert (value : Value) : (values.insert name value).get? key = values.get? key := by
    rw [Table.get?_insert, if_neg hNe]
  unfold addOption
  split
  · rfl
  · exact hInsert _
  · exact hInsert _

/-- Sound settings write if their values say so. -/
theorem single_of_ofValues {values : Table Value} {settings : Settings}
    (hSettings : ofValues values = .ok settings) :
    single values "write" true truthOf = .ok settings.writes := by
  rw [ofValues] at hSettings
  dsimp only at hSettings
  split at hSettings
  · next found hChecked =>
    -- The settings are read in their order, and this one is the sixth.
    obtain rfl := Except.ok.inj hSettings
    obtain ⟨_, -, hChecked⟩ := bind_eq_ok_iff.mp hChecked
    obtain ⟨_, -, hChecked⟩ := bind_eq_ok_iff.mp hChecked
    obtain ⟨_, -, hChecked⟩ := bind_eq_ok_iff.mp hChecked
    obtain ⟨_, -, hChecked⟩ := bind_eq_ok_iff.mp hChecked
    obtain ⟨_, -, hChecked⟩ := bind_eq_ok_iff.mp hChecked
    obtain ⟨_, hWrites, hChecked⟩ := bind_eq_ok_iff.mp hChecked
    obtain ⟨_, -, hChecked⟩ := bind_eq_ok_iff.mp hChecked
    obtain ⟨_, -, hChecked⟩ := bind_eq_ok_iff.mp hChecked
    obtain ⟨_, -, hChecked⟩ := bind_eq_ok_iff.mp hChecked
    obtain rfl := Except.ok.inj hChecked
    exact hWrites
  · cases hSettings

theorem exists_of_ofParts {entries : List (Value × Value)} {options : List (String × Value)}
    {settings : Settings} (hSettings : ofParts entries options = .ok settings) :
    ∃ values, ofValues (options.foldl (fun values (name, value) => addOption values name value)
      values) = .ok settings := by
  rw [ofParts] at hSettings
  split at hSettings
  · exact ⟨_, hSettings⟩
  · cases hSettings

end Settings

namespace Command

open JsonValue Snapshot

variable {tree : FileTree} {options : CommonOptions} {settings : Settings}

/-- The option not to write is stronger than the settings file. -/
theorem writes_of_ofProject (hSettings : Settings.ofProject tree options.toValues = .ok settings)
    (hOption : options.writes = some false) : settings.writes = false := by
  obtain ⟨entries, -, hSettings⟩ := bind_eq_ok_iff.mp hSettings
  obtain ⟨values, hSettings⟩ := Settings.exists_of_ofParts hSettings
  have hWrites := Settings.single_of_ofValues hSettings
  have hValue : (options.toValues.foldl
      (fun values (name, value) => Settings.addOption values name value) values).get? "write" =
      some (.bool false) := by
    simp only [CommonOptions.toValues, hOption, List.foldl_cons, List.foldl_nil]
    rw [Settings.get?_addOption_of_ne (by decide), Settings.get?_addOption_of_ne (by decide),
      Settings.get?_addOption_of_ne (by decide), Settings.get?_addOption_of_ne (by decide),
      Settings.get?_addOption_of_ne (by decide)]
    exact (Table.get?_insert _ _ _ _).trans (if_pos rfl)
  rw [Settings.single, hValue] at hWrites
  exact (Except.ok.inj hWrites).symm

/-- A command line that makes sense asks for an action under settings that are sound. -/
inductive Asks (tree : FileTree) (words : List String) :
    CommonOptions → Settings → Action → Prop where
  | intro {options : CommonOptions} {word : String} {rest : List String} {name : CommandName}
      {settings : Settings} {action : Action}
      (hWords : readWords CommonOptions.rules false words {} = some (options, word :: rest))
      (hHelp : options.help = false) (hCompletion : options.completion = none)
      (hName : CommandName.ofText? word = some name)
      (hSettings : Settings.ofProject tree options.toValues = .ok settings)
      (hAction : name.action? rest = some action) :
      Asks tree words options settings action

/-- The settings and the action are those of the one command line. -/
theorem Asks.unique {words : List String} {other : CommonOptions} {otherSettings : Settings}
    {action otherAction : Action} (hFirst : Asks tree words options settings action)
    (hSecond : Asks tree words other otherSettings otherAction) :
    settings = otherSettings ∧ action = otherAction := by
  obtain ⟨hWords, -, -, hName, hSettings, hAction⟩ := hFirst
  obtain ⟨hOtherWords, -, -, hOtherName, hOtherSettings, hOtherAction⟩ := hSecond
  simp_all

/-- The option not to write holds for the settings. -/
theorem Asks.writes_of_option {words rest : List String} {given : CommonOptions} {action : Action}
    (hAsks : Asks tree words options settings action)
    (hWords : readWords CommonOptions.rules false words {} = some (given, rest))
    (hOption : given.writes = some false) : settings.writes = false := by
  obtain ⟨hAsked, -, -, -, hSettings, -⟩ := hAsks
  rw [hWords, Option.some.injEq, Prod.mk.injEq] at hAsked
  exact writes_of_ofProject hSettings (hAsked.1 ▸ hOption)

/-- Whether a command line asks to install completion. If it asks for help too, help is all that it
gets. -/
def installsCompletion (words : List String) : Bool :=
  match readWords CommonOptions.rules false words {} with
  | some (options, _) => !options.help && options.completion == some .install
  | none => false

/-- What the options before the command say about completion. -/
theorem installsCompletion_eq {words rest : List String}
    (hWords : readWords CommonOptions.rules false words {} = some (options, rest)) :
    installsCompletion words = (!options.help && options.completion == some .install) := by
  rw [installsCompletion, hWords]

/-- A command line that asks to install completion asks for no action. -/
theorem not_asks_of_installsCompletion {words : List String} {action : Action}
    (hInstalls : installsCompletion words = true) :
    ¬Asks tree words options settings action := by
  rintro ⟨hWords, -, hCompletion, -, -, -⟩
  simp [installsCompletion_eq hWords, hCompletion] at hInstalls

/-- A command line installs completion, or it runs an action that it asks for, or it leaves the tree
alone. -/
theorem run_cases (completion : Completion) (tree : FileTree) (words : List String) :
    installsCompletion words = true ∧ run tree words completion = completion.install tree ∨
      installsCompletion words = false ∧ ((run tree words completion).1 = tree ∨
        ∃ options settings action, Asks tree words options settings action ∧
          run tree words completion = runChecked settings tree action) := by
  rw [run]
  split
  · next hWords => exact .inr ⟨by rw [installsCompletion, hWords], .inl rfl⟩
  · next options rest hWords =>
    rw [installsCompletion_eq hWords]
    split
    · next hHelp => exact .inr ⟨by simp [hHelp], .inl rfl⟩
    · next hHelp =>
      split
      · next hRequest => exact .inl ⟨by simp [hHelp, hRequest], rfl⟩
      · next hRequest => exact .inr ⟨by simp [hRequest], .inl rfl⟩
      · next hRequest => exact .inr ⟨by simp [hRequest], .inl rfl⟩
      · next word rest hRequest =>
        refine .inr ⟨by simp [hRequest], ?_⟩
        split
        · exact .inl rfl
        · next name hName =>
          split
          · exact .inl rfl
          · next settings hSettings =>
            split
            · exact .inl rfl
            · next action hAction =>
              exact .inr ⟨options, settings, action,
                .intro hWords (by simpa using hHelp) hRequest hName hSettings hAction, rfl⟩

/-- The path that an action exports to. -/
def Action.exportPath? : Action → Option String
  | .exports format output => some (Path.simplify (output.getD ((exportFile? format).getD "")))
  | _ => none

/-- The place that an action exports to. -/
def Action.ExportsTo (action : Action) (tree : FileTree) (place : List String) : Prop :=
  ∃ path, action.exportPath? = some path ∧ tree.locate true path = .ok place

/-- An export writes one file, in either format. -/
theorem exists_write_of_exportTo {format path : String} {database : Database} {after : FileTree}
    (hExport : exportTo format database tree path = .ok after) :
    ∃ content, tree.write (Path.simplify path) content = .ok after := by
  rw [exportTo] at hExport
  split at hExport
  · obtain ⟨text, -, hWrite⟩ := bind_eq_ok_iff.mp hExport
    exact ⟨_, hWrite⟩
  · obtain ⟨text, -, hWrite⟩ := bind_eq_ok_iff.mp hExport
    exact ⟨_, hWrite⟩

/-- An action writes to the target of an export at most. -/
theorem perform_effect (action : Action) (database : Database) (tree : FileTree) :
    FileTree.GrowsInto (action.ExportsTo tree) tree (perform action database tree).1 ∧
      ∀ place, ¬action.ExportsTo tree place →
        (perform action database tree).1.entryAt place = tree.entryAt place := by
  have hSame : FileTree.GrowsInto (action.ExportsTo tree) tree tree ∧
      ∀ place, ¬action.ExportsTo tree place → tree.entryAt place = tree.entryAt place :=
    ⟨.refl, fun _ _ => rfl⟩
  cases action with
  | scan paths => exact hSame
  | help => exact hSame
  | summary => exact hSame
  | query table key =>
    rw [perform]
    split <;> exact hSame
  | dump table =>
    rw [perform]
    split <;> exact hSame
  | exports format output =>
    rw [perform]
    split
    · next after hExport =>
      obtain ⟨content, hWrite⟩ := exists_write_of_exportTo hExport
      refine ⟨(FileTree.growsInto_write hWrite).mono fun place hPlace => ⟨_, rfl, hPlace⟩, ?_⟩
      intro place hPlace
      exact FileTree.entryAt_of_write hWrite fun hWritten => hPlace ⟨_, rfl, hWritten⟩
    · exact hSame

/-! Whole command lines -/

/-- What an action can do to a tree: write to the target of an export, make directories for the
database, and save it at the end. -/
inductive Effect (settings : Settings) (action : Action) (tree after : FileTree)
    (ending : Ending) : Prop where
  | unsaved (hGrows : FileTree.GrowsInto (action.ExportsTo tree) tree after)
      (hSame : ∀ place, ¬action.ExportsTo tree place → after.entryAt place = tree.entryAt place)
  | failed (hWrites : settings.writes = true)
      (hGrows : FileTree.GrowsInto (action.ExportsTo tree) tree after)
  | saved (hWrites : settings.writes = true) (hDone : ending = .done) {made : FileTree}
      {place : List String} (hGrows : FileTree.GrowsInto (action.ExportsTo tree) tree made)
      (hLeads : tree.LeadsTo false (Path.simplify settings.database) place)
      (hOthers : ∀ other, other ≠ place → after.entryAt other = made.entryAt other)

/-- An action on an open database is performed, and then the database is saved if all went well. -/
theorem runOpened_effect {action : Action} {database : Database} {after : FileTree}
    {outcome : Outcome} (hRun : runOpened settings tree action database = (after, outcome)) :
    Effect settings action tree after outcome.ending := by
  obtain ⟨hGrows, hSame⟩ := perform_effect action database tree
  rw [runOpened] at hRun
  split at hRun
  · next hPerform =>
    obtain ⟨rfl, rfl⟩ := Prod.mk.inj hRun
    rw [hPerform] at hGrows hSame
    exact .unsaved hGrows hSame
  · next exported _ hPerform =>
    rw [hPerform] at hGrows hSame
    split at hRun
    · next hWrites =>
      split at hRun
      · next hSave =>
        obtain ⟨rfl, rfl⟩ := Prod.mk.inj hRun
        obtain ⟨made, place, hMade, hLeads, hOthers⟩ := Database.entryAt_of_save hSave
        exact .saved hWrites rfl (hGrows.trans (hMade.mono nofun)) (hLeads.of_growsInto hGrows)
          hOthers
      · next hSave =>
        obtain ⟨rfl, rfl⟩ := Prod.mk.inj hRun
        have hMade := Database.growsInto_of_save_error hSave
        exact .failed hWrites (hGrows.trans (hMade.mono nofun))
    · obtain ⟨rfl, rfl⟩ := Prod.mk.inj hRun
      exact .unsaved hGrows hSame

/-- If the database cannot be opened nothing has happened yet. -/
theorem runAction_effect {action : Action} {after : FileTree} {outcome : Outcome}
    (hRun : runAction settings tree action = (after, outcome)) :
    Effect settings action tree after outcome.ending := by
  rw [runAction] at hRun
  split at hRun
  · obtain ⟨rfl, rfl⟩ := Prod.mk.inj hRun
    exact .unsaved .refl fun _ _ => rfl
  · exact runOpened_effect hRun

/-- Nothing happens either if help is asked for, or an export in an unknown format. -/
theorem runChecked_effect {action : Action} {after : FileTree} {outcome : Outcome}
    (hRun : runChecked settings tree action = (after, outcome)) :
    Effect settings action tree after outcome.ending := by
  unfold runChecked at hRun
  split at hRun
  · obtain ⟨rfl, rfl⟩ := Prod.mk.inj hRun
    exact .unsaved .refl fun _ _ => rfl
  · split at hRun
    · obtain ⟨rfl, rfl⟩ := Prod.mk.inj hRun
      exact .unsaved .refl fun _ _ => rfl
    · exact runAction_effect hRun
  · exact runAction_effect hRun

namespace Effect

variable {action : Action} {after : FileTree} {ending : Ending} {place : List String}

/-- Places that are neither exported to nor saved at hold what they held, apart from new
directories. -/
theorem entryAt (hEffect : Effect settings action tree after ending)
    (hExport : ¬action.ExportsTo tree place)
    (hDatabase : ending = .done → settings.writes = true →
      ¬tree.LeadsTo false (Path.simplify settings.database) place) :
    after.entryAt place = tree.entryAt place ∨
      tree.entryAt place = none ∧ after.entryAt place = some .directory := by
  have hGrown {made : FileTree}
      (hGrows : FileTree.GrowsInto (action.ExportsTo tree) tree made) :
      made.entryAt place = tree.entryAt place ∨
        tree.entryAt place = none ∧ made.entryAt place = some .directory := by
    rcases hGrows.entryAt place with hSame | hDirectory | ⟨hWritten, -⟩
    · exact .inl hSame
    · exact .inr hDirectory
    · exact absurd hWritten hExport
  cases hEffect with
  | unsaved hGrows _ => exact hGrown hGrows
  | failed _ hGrows => exact hGrown hGrows
  | saved hWrites hDone hGrows hLeads hOthers =>
    have hOther : place ≠ _ := fun hPlace => hDatabase hDone hWrites (hPlace ▸ hLeads)
    rw [hOthers place hOther]
    exact hGrown hGrows

/-- A tree has only grown after a failure, with files at the target of an export at most. -/
theorem growsInto (hEffect : Effect settings action tree after ending) (hFailed : ending ≠ .done) :
    FileTree.GrowsInto (action.ExportsTo tree) tree after := by
  cases hEffect with
  | unsaved hGrows _ => exact hGrows
  | failed _ hGrows => exact hGrows
  | saved _ hDone _ _ _ => exact absurd hDone hFailed

/-- Without leave to write nothing changes but the target of an export. -/
theorem entryAt_of_unwritten (hEffect : Effect settings action tree after ending)
    (hWrites : settings.writes = false) (hExport : ¬action.ExportsTo tree place) :
    after.entryAt place = tree.entryAt place := by
  cases hEffect with
  | unsaved _ hSame => exact hSame place hExport
  | failed hWritten _ => simp [hWrites] at hWritten
  | saved hWritten _ _ _ _ => simp [hWrites] at hWritten

end Effect

/-- A place that a command line exports to. -/
def IsExportPlace (tree : FileTree) (words : List String) (place : List String) : Prop :=
  ∃ options settings action, Asks tree words options settings action ∧ action.ExportsTo tree place

/-- A place where a command line saves the database. -/
def IsSavePlace (tree : FileTree) (words : List String) (place : List String) : Prop :=
  ∃ options settings action, Asks tree words options settings action ∧ settings.writes = true ∧
    tree.LeadsTo false (Path.simplify settings.database) place

/-- How a command line spares the files of a tree. -/
structure SparesFiles (tree : FileTree) (words : List String) (after : FileTree)
    (outcome : Outcome) : Prop where
  /-- Nothing changes but the target of an export and, if all goes well, the database. All else is
  new directories, so there is no temporary file left. -/
  others : ∀ place, ¬IsExportPlace tree words place →
    ¬(outcome.ending.exitCode = 0 ∧ IsSavePlace tree words place) →
    after.entryAt place = tree.entryAt place ∨
      tree.entryAt place = none ∧ after.entryAt place = some .directory
  /-- There is one target of an export at most. -/
  oneExport : ∀ first second, IsExportPlace tree words first → IsExportPlace tree words second →
    first = second
  /-- There is one place of the database at most. -/
  oneDatabase : ∀ first second, IsSavePlace tree words first → IsSavePlace tree words second →
    first = second
  /-- After a failure no file has changed but the target of an export, so that of the database has
  not. -/
  failedFiles : outcome.ending.exitCode ≠ 0 → ∀ place, ¬IsExportPlace tree words place →
    after.fileAt place = tree.fileAt place
  /-- After a failure every path, such as that of the database, still names what it named. What it
  names now is a place to which it led before, even if a directory on the way was missing. -/
  failedPaths : outcome.ending.exitCode ≠ 0 → ∀ followsLast path place,
    (tree.locate followsLast path = .ok place → after.locate followsLast path = .ok place) ∧
    (after.locate followsLast path = .ok place → tree.LeadsTo followsLast path place)
  /-- With the option not to write nothing changes but the target of an export. -/
  unwritten : ∀ options rest, readWords CommonOptions.rules false words {} = some (options, rest) →
    options.writes = some false → ∀ place, ¬IsExportPlace tree words place →
      after.entryAt place = tree.entryAt place

/-- The exit code is zero exactly if all went well. -/
theorem exitCode_eq_zero_iff {ending : Ending} : ending.exitCode = 0 ↔ ending = .done := by
  cases ending <;> simp [Ending.exitCode]

theorem oneExportPlace {words first second : List String} (hFirst : IsExportPlace tree words first)
    (hSecond : IsExportPlace tree words second) : first = second := by
  obtain ⟨_, _, _, hAsks, path, hPath, hFirst⟩ := hFirst
  obtain ⟨_, _, _, hOther, otherPath, hOtherPath, hSecond⟩ := hSecond
  obtain ⟨-, rfl⟩ := hAsks.unique hOther
  obtain rfl : path = otherPath := Option.some.inj (hPath.symm.trans hOtherPath)
  exact Except.ok.inj (hFirst.symm.trans hSecond)

theorem oneSavePlace {words first second : List String} (hFirst : IsSavePlace tree words first)
    (hSecond : IsSavePlace tree words second) : first = second := by
  obtain ⟨_, _, _, hAsks, -, hFirst⟩ := hFirst
  obtain ⟨_, _, _, hOther, -, hSecond⟩ := hSecond
  obtain ⟨rfl, -⟩ := hAsks.unique hOther
  exact hFirst.place_eq hSecond

/-- A command line that asks for nothing changes nothing. -/
theorem SparesFiles.refl (tree : FileTree) (words : List String) (outcome : Outcome) :
    SparesFiles tree words tree outcome where
  others := fun _ _ _ => .inl rfl
  oneExport := fun _ _ => oneExportPlace
  oneDatabase := fun _ _ => oneSavePlace
  failedFiles := fun _ _ _ => rfl
  failedPaths := fun _ _ _ _ => ⟨id, fun hPlace => ⟨tree, .refl, hPlace⟩⟩
  unwritten := fun _ _ _ _ _ _ => rfl

/-- What an action can do spares the files that the command line is not meant to write. -/
theorem Effect.sparesFiles {words : List String} {action : Action} {after : FileTree}
    {outcome : Outcome} (hEffect : Effect settings action tree after outcome.ending)
    (hAsks : Asks tree words options settings action) :
    SparesFiles tree words after outcome := by
  have hExport {place : List String} (hPlace : ¬IsExportPlace tree words place) :
      ¬action.ExportsTo tree place :=
    fun hExports => hPlace ⟨options, settings, action, hAsks, hExports⟩
  have hGrows (hFailed : outcome.ending.exitCode ≠ 0) :=
    hEffect.growsInto fun hDone => hFailed (exitCode_eq_zero_iff.mpr hDone)
  refine ⟨?_, fun _ _ => oneExportPlace, fun _ _ => oneSavePlace, ?_, ?_, ?_⟩
  · intro place hPlace hSaved
    refine hEffect.entryAt (hExport hPlace) fun hDone hWrites hLeads => hSaved ?_
    exact ⟨exitCode_eq_zero_iff.mpr hDone, options, settings, action, hAsks, hWrites, hLeads⟩
  · intro hFailed place hPlace
    exact (hGrows hFailed).fileAt_eq (hExport hPlace)
  · intro hFailed followsLast path place
    refine ⟨FileTree.locate_of_growsInto (hGrows hFailed), fun hPlace => ?_⟩
    exact ⟨_, (hGrows hFailed).mono fun _ _ => trivial, hPlace⟩
  · intro given rest hWords hOption place hPlace
    have hUnwritten := hAsks.writes_of_option hWords hOption
    exact hEffect.entryAt_of_unwritten hUnwritten (hExport hPlace)

/-! Installing completion -/

/-- A place that is written when completion is installed in bash. -/
def IsBashPlace (tree : FileTree) (home : String) (place : List String) : Prop :=
  tree.LeadsTo true (bashStart home) place ∨ tree.LeadsTo true (bashScript home) place

/-- A file that is written in a tree that has grown is at the place to which its path led before. -/
theorem growsInto_write_of_growsInto {middle after : FileTree} {written : List String → Prop}
    {path : String} {content : List UInt8} (hGrows : FileTree.GrowsInto written tree middle)
    (hWrite : middle.write path content = .ok after)
    (hWritten : ∀ place, tree.LeadsTo true path place → written place) :
    FileTree.GrowsInto written tree after :=
  hGrows.trans <| (FileTree.growsInto_write hWrite).mono fun place hPlace =>
    hWritten place ⟨middle, hGrows.mono fun _ _ => trivial, hPlace⟩

/-- To add a line writes one file. -/
theorem exists_write_of_addLine {path line : String} {after : FileTree}
    (hAdd : addLine tree path line = .ok after) :
    ∃ content, tree.write path content = .ok after := by
  rw [addLine] at hAdd
  split at hAdd
  · obtain ⟨content, -, hWrite⟩ := bind_eq_ok_iff.mp hAdd
    exact ⟨_, hWrite⟩
  · exact ⟨_, hAdd⟩

/-- In bash only the start file and the script are written, and directories are made. -/
theorem growsInto_installInBash (home script : String) (tree : FileTree) :
    FileTree.GrowsInto (IsBashPlace tree home) tree (installInBash home script tree).1 := by
  have hHome : FileTree.GrowsInto (IsBashPlace tree home) tree (tree.makeDirectories home).1 :=
    (FileTree.growsInto_makeDirectories tree home).mono nofun
  rw [installInBash]
  split
  · next hMade => rwa [hMade] at hHome
  · next middle hMade =>
    rw [hMade] at hHome
    split
    · exact hHome
    · next started hStart =>
      obtain ⟨_, hWrite⟩ := exists_write_of_addLine hStart
      have hStarted := growsInto_write_of_growsInto hHome hWrite fun _ => .inl
      have hAround := hStarted.trans <|
        (FileTree.growsInto_makeDirectories started (Path.parent (bashScript home))).mono nofun
      split
      · next hDirectory => rwa [hDirectory] at hAround
      · next hDirectory =>
        rw [hDirectory] at hAround
        split
        · exact hAround
        · next hScript => exact growsInto_write_of_growsInto hAround hScript fun _ => .inr

/-- Completion in bash changes nothing but the start file and the script. All else is new
directories. -/
theorem entryAt_install_ofBash {home : String} {place : List String}
    (hPlace : ¬IsBashPlace tree home place) (script : String) :
    ((Completion.ofBash home script).install tree).1.entryAt place = tree.entryAt place ∨
      tree.entryAt place = none ∧
        ((Completion.ofBash home script).install tree).1.entryAt place = some .directory := by
  have hInstall : ((Completion.ofBash home script).install tree).1 =
      (installInBash home script tree).1 := by
    simp only [Completion.ofBash]
    split
    · next hFailed => rw [hFailed]
    · next hDone => rw [hDone]
  rw [hInstall]
  rcases (growsInto_installInBash home script tree).entryAt place with
    hSame | hDirectory | ⟨hWritten, -⟩
  · exact .inl hSame
  · exact .inr hDirectory
  · exact absurd hWritten hPlace

/-- A command line spares all files but those that it is meant to write, and a failed one spares the
database. One that asks to install completion does so and nothing else, which in bash changes the
start file and the script only. -/
theorem run_sparesFiles (completion : Completion) (tree : FileTree) (words : List String) :
    (installsCompletion words = false →
      SparesFiles tree words (run tree words completion).1 (run tree words completion).2) ∧
    (installsCompletion words = true → run tree words completion = completion.install tree) ∧
    (installsCompletion words = true → ∀ home script, completion = .ofBash home script →
      ∀ place, ¬IsBashPlace tree home place →
        (run tree words completion).1.entryAt place = tree.entryAt place ∨
          tree.entryAt place = none ∧
            (run tree words completion).1.entryAt place = some .directory) := by
  rcases run_cases completion tree words with
    ⟨hInstalls, hRun⟩ | ⟨hInstalls, hSame | ⟨options, settings, action, hAsks, hRun⟩⟩
  · refine ⟨by simp [hInstalls], fun _ => hRun, ?_⟩
    rintro - home script rfl place hPlace
    rw [hRun]
    exact entryAt_install_ofBash hPlace script
  · rw [hSame]
    exact ⟨fun _ => .refl tree words _, by simp [hInstalls], by simp [hInstalls]⟩
  · refine ⟨fun _ => ?_, by simp [hInstalls], by simp [hInstalls]⟩
    rw [hRun]
    exact (runChecked_effect rfl).sparesFiles hAsks

/-! Commands that export and cannot save -/

/-- An export is there also if the database cannot be written in its format afterwards. -/
theorem runAction_of_refused_save {format : String} {output : Option String} {database : Database}
    {exported : FileTree} {failure : Failure}
    (hOpen : openDatabase settings tree [] = .ok database) (hWrites : settings.writes = true)
    (hExport : exportTo format database tree (output.getD ((exportFile? format).getD "")) =
      .ok exported)
    (hEncode : encode database.catalog database.tables = .error failure) :
    runAction settings tree (.exports format output) = (exported, ⟨"", workEnding failure⟩) := by
  have hPaths : (Action.exports format output).paths = [] := rfl
  have hSave : database.save exported settings.database = (exported, .error failure) := by
    rw [Database.save, hEncode]
  rw [runAction, hPaths, hOpen]
  simp only [runOpened, perform, hExport, hWrites, if_true, hSave]

/-- A catalog value with a number in it that can be read, as it is written as a text, but is too
wide to be written as a number. -/
def wideValue : JsonValue :=
  .object [("extractors", .object [("go", .text "99999999999999999999")])]

/-- The catalog that is read from it. -/
def wideCatalog : Catalog where
  extractorVersions := .ofList [("go", 99999999999999999999)]

/-- A snapshot of this catalog without tables. -/
def wideSnapshot : List UInt8 := [53] ++ 10 :: (valueLine wideValue ++ [10, 10])

theorem decode_wideSnapshot : decode wideSnapshot = .ok (.current wideCatalog ∅) := by
  have hWrite : writeJson wideValue = .ok (valueLine wideValue) := if_pos rfl
  have hRereads : Rereads .unbounded wideValue := by
    simp [wideValue, Rereads, FieldsReread]
  obtain ⟨hFeed, hRead⟩ := writeJson_line hRereads hWrite
  have hTag : readTag [53] = .ok 5 := rfl
  have hCatalog : Catalog.ofJson wideValue = .ok wideCatalog := rfl
  rw [wideSnapshot, decode_append _ (by decide) hTag, if_neg (by decide), if_pos (by decide),
    decodeCurrent_eq, splitLine_append _ hFeed, hRead, ok_bind, hCatalog]
  rfl

/-- The catalog cannot be written, since its number needs more than 64 bits. -/
theorem encode_wideCatalog : encode wideCatalog ∅ = .error .integerTooWide := by
  have hEntries : wideCatalog.extractorVersions.entries = [("go", 99999999999999999999)] := rfl
  have hFits : wideCatalog.toJson.fitsWord64 = false := by
    simp [Catalog.toJson, hEntries, fitsWord64, fieldsFitWord64]
  rw [encode, writeJson, hFits]
  rfl

/-- The command line of an export. -/
def exportWords : List String := ["export", "ctags", "-o", "tags"]

/-- Without a settings file, an export from a snapshot that cannot be saved again leaves the export
behind and fails. -/
theorem run_exportWords {exported : FileTree}
    (hProject : Settings.ofProject tree (CommonOptions.toValues {}) = .ok {})
    (hExists : tree.exists? ".symscope.db" = .ok true)
    (hBytes : tree.read ".symscope.db" >>= Gzip.unpack = .ok wideSnapshot)
    (hExport : tree.write "tags" (Utf8.encode Tags.header) = .ok exported) :
    run tree exportWords = (exported, { ending := .escaped .integerTooWide }) := by
  have hWords : readWords CommonOptions.rules false exportWords {} = some ({}, exportWords) := rfl
  have hName : CommandName.ofText? "export" = some .exports := rfl
  have hAction : CommandName.exports.action? ["ctags", "-o", "tags"] =
      some (.exports "ctags" (some "tags")) := rfl
  have hRun : run tree exportWords = runAction {} tree (.exports "ctags" (some "tags")) := by
    rw [run, hWords]
    simp only [exportWords, hName, hProject, hAction]
    rfl
  have hFile : Path.simplify ".symscope.db" = ".symscope.db" := by decide
  have hLoad : Database.load (Extractor.available []) tree {} ".symscope.db" =
      ⟨⟨wideCatalog, ∅⟩, [], .ok ()⟩ := by
    rw [Database.load, hBytes, ok_bind, decode_wideSnapshot]
    rfl
  have hOpen : openDatabase {} tree [] = .ok ⟨wideCatalog, ∅⟩ := by
    simp only [openDatabase, hFile, hExists, if_true, ok_bind, hLoad]
    rfl
  have hText : Database.tagsText ⟨wideCatalog, ∅⟩ = .ok Tags.header := by
    have hNone : (∅ : Table (List Record)).get? defsTable = none := rfl
    simp [Database.tagsText, hNone, Tags.render, Record.sortByKey]
    rfl
  have hTags : exportTo "ctags" ⟨wideCatalog, ∅⟩ tree
      ((some "tags").getD ((exportFile? "ctags").getD "")) = .ok exported := by
    have hTarget : Path.simplify "tags" = "tags" := by decide
    rw [Option.getD_some, exportTo, if_pos rfl, Database.exportTags, hText,
      Database.writeText, ok_bind, hTarget, hExport]
  rw [hRun]
  exact runAction_of_refused_save hOpen rfl hTags encode_wideCatalog

/-- A tree with the snapshot as its database. -/
def wideTree : FileTree where
  entries := [([".symscope.db"], .file (Gzip.pack wideSnapshot) 1000)]

/-- A tree with the same snapshot, where the path of the database is a link to the target of the
export. -/
def linkedTree : FileTree where
  entries := [(["tags"], .file (Gzip.pack wideSnapshot) 1000), ([".symscope.db"], .link "tags")]

/-- A home directory with a start file. -/
def homeTree : FileTree where
  entries := [(["root"], .directory), (["root", ".bashrc"], .file (Utf8.encode "umask 022\n") 1000)]

/-- The completion of the user of that directory, in bash. -/
def rootCompletion : Completion := .ofBash "/root" "complete -F _symscope_completion symscope"

/-- The entry that the export makes. -/
def exportEntry : Entry := .file (Utf8.encode Tags.header) 0

theorem run_wideTree :
    run wideTree exportWords =
      (wideTree.insert ["tags"] exportEntry, { ending := .escaped .integerTooWide }) := by
  have hPlace : wideTree.locate true "tags" = .ok ["tags"] := rfl
  have hEntry : wideTree.entryAt ["tags"] = none := rfl
  refine run_exportWords rfl (by decide) (by decide +kernel) ?_
  simp only [FileTree.write, hPlace, hEntry]
  rfl

theorem run_linkedTree :
    run linkedTree exportWords =
      (linkedTree.insert ["tags"] exportEntry, { ending := .escaped .integerTooWide }) := by
  have hPlace : linkedTree.locate true "tags" = .ok ["tags"] := rfl
  have hEntry : linkedTree.entryAt ["tags"] = some (.file (Gzip.pack wideSnapshot) 1000) := rfl
  refine run_exportWords rfl (by decide) (by decide +kernel) ?_
  simp only [FileTree.write, hPlace, hEntry]
  rfl

/-- A command that has exported and cannot save fails. The export is there, and the database is what
it was. A command line that asks for completion gets that alone. -/
theorem run_wideTree_sparesDatabase :
    (run wideTree exportWords).2.ending.exitCode = 1 ∧
      (run wideTree exportWords).1.fileAt ["tags"] = some exportEntry ∧
      (run wideTree exportWords).1.fileAt [".symscope.db"] = wideTree.fileAt [".symscope.db"] ∧
      run homeTree ["--install-completion"] rootCompletion = rootCompletion.install homeTree := by
  have hAsks : Asks wideTree exportWords {} {} (.exports "ctags" (some "tags")) :=
    .intro rfl rfl rfl rfl rfl rfl
  have hTags : IsExportPlace wideTree exportWords ["tags"] := ⟨_, _, _, hAsks, "tags", rfl, rfl⟩
  have hDatabase : ¬IsExportPlace wideTree exportWords [".symscope.db"] :=
    fun hPlace => absurd (oneExportPlace hPlace hTags) (by decide)
  have hExit : (run wideTree exportWords).2.ending.exitCode = 1 := by
    rw [run_wideTree]
    rfl
  have hSpares := (run_sparesFiles .ofUnknownShell wideTree exportWords).1 rfl
  have hInstalls := (run_sparesFiles rootCompletion homeTree ["--install-completion"]).2.1 rfl
  refine ⟨hExit, ?_, hSpares.failedFiles (by simp [hExit]) _ hDatabase, hInstalls⟩
  rw [run_wideTree]
  rfl

/-- To install completion changes a file of the user. A failed export changes the file that the path
of the database names if that path is a link to the target, although the paths differ. -/
theorem install_and_link_change_files :
    ((run homeTree ["--install-completion"] rootCompletion).2.ending.exitCode = 0 ∧
      (run homeTree ["--install-completion"] rootCompletion).1.fileAt ["root", ".bashrc"] ≠
        homeTree.fileAt ["root", ".bashrc"] ∧
      ∀ place, ¬IsExportPlace homeTree ["--install-completion"] place ∧
        ¬IsSavePlace homeTree ["--install-completion"] place) ∧
    linkedTree.locate true "tags" = .ok ["tags"] ∧
      linkedTree.locate false ".symscope.db" = .ok [".symscope.db"] ∧
      (run linkedTree exportWords).2.ending.exitCode = 1 ∧
      (run linkedTree exportWords).1.read ".symscope.db" ≠ linkedTree.read ".symscope.db" := by
  refine ⟨⟨by decide +kernel, by decide +kernel, fun place => ⟨?_, ?_⟩⟩, rfl, rfl, ?_, ?_⟩
  · rintro ⟨_, _, _, hAsks, -⟩
    exact not_asks_of_installsCompletion rfl hAsks
  · rintro ⟨_, _, _, hAsks, -⟩
    exact not_asks_of_installsCompletion rfl hAsks
  · rw [run_linkedTree]
    rfl
  · rw [run_linkedTree]
    decide +kernel

end Command

end CodeIndex
