import CodeIndex.Proofs.RootVisits

/-! An update leaves nothing to do for another one on the same files, whatever the database was
before: each tracked file is as it was read, and each listed file was visited. Trees hold files,
directories and links, so that whatever can be read is still a file when it is looked at again. -/
namespace CodeIndex.Database

variable {scene : Scene} {database : Database} {path : String}

/-- A file is not outdated right after it was read. -/
theorem isOutdated_of_scan? {view : FileView} {entry : TrackedFile × List Record}
    (hScan : scene.scan? path = some entry) (hFile : view.file = some entry.1) :
    view.isOutdated scene path = false := by
  obtain ⟨extractor, modified, content, hSelect, hModified, hRead, hEntry, -⟩ :=
    Scene.scan?_eq_some_iff.mp hScan
  have hFresh : isStale scene.extractors scene.tree { entry.1 with path := path } = false := by
    rw [isStale_eq_false_iff _ hModified]
    refine ⟨extractor, hSelect, ?_⟩
    rw [hEntry]
    exact ⟨rfl, Int.le_refl _, Int.le_refl _⟩
  rw [FileView.isOutdated, FileTree.isFile_of_read hRead, hFile, Option.any_some, hFresh]
  rfl

/-- A tracked file that was brought in line and is still tracked is not outdated. -/
theorem isOutdated_refresh {view : FileView}
    (hFile : (view.refresh scene path).file.isSome = true) :
    (view.refresh scene path).isOutdated scene path = false := by
  rw [FileView.refresh] at hFile ⊢
  split_ifs at hFile ⊢ with hGone hStale
  · cases hFile
  · cases hScan : scene.scan? path with
    | none =>
      rw [hScan] at hFile
      cases hFile
    | some entry => exact isOutdated_of_scan? hScan rfl
  · rw [FileView.isOutdated, Bool.or_eq_false_iff]
    exact ⟨by simpa using hGone, by simpa using hStale⟩

/-- Nothing is left to do: no tracked file is outdated, and every listed file is settled. -/
structure IsInLine (scene : Scene) (database : Database) : Prop where
  upToDate : ∀ path ∈ database.catalog.files.keys,
    (database.viewOf path).isOutdated scene path = false
  settled : ∀ path ∈ (expandRoots scene.tree database.catalog.paths).1,
    IsSettled scene database path

/-- Files that are not outdated are reported and left as they are. -/
theorem updateFiles_of_upToDate {paths : List String}
    (hUpToDate : ∀ path ∈ paths, (database.viewOf path).isOutdated scene path = false) :
    updateFiles scene.extractors scene.tree database paths = (database, paths, false) := by
  induction paths with
  | nil => rfl
  | cons path rest ih =>
    have hFirst : updateFile scene.extractors scene.tree database path =
        (database, [path], false) := by
      have hFile := hUpToDate path List.mem_cons_self
      rw [FileView.isOutdated, Bool.or_eq_false_iff] at hFile
      have hStale : (database.catalog.files.get? path).any (fun file =>
          isStale scene.extractors scene.tree { file with path := path }) = false := hFile.2
      rw [updateFile, hFile.1, hStale]
      rfl
    rw [updateFiles, hFirst]
    simp only [ih fun other hOther => hUpToDate other (List.mem_cons_of_mem _ hOther)]
    rfl

/-- An update of a database that is in line reports its files and changes nothing. -/
theorem IsInLine.update_eq (hInLine : IsInLine scene database) :
    update scene.extractors scene.tree database =
      ⟨database, database.catalog.files.keys,
        resultOf false (expandRoots scene.tree database.catalog.paths).2⟩ := by
  have hVisits : (addRoots scene.extractors scene.tree database database.catalog.paths).1 =
      database := by
    rw [addRoots_fst]
    exact foldl_visit_of_isSettled hInLine.settled
  have hAdded : (addRoots scene.extractors scene.tree database database.catalog.paths).2.1 =
      [] := by
    have hKeys := @keys_addRoots scene database database.catalog.paths
    rw [hVisits] at hKeys
    exact List.self_eq_append_right.mp hKeys
  rw [update, updateFiles_of_upToDate hInLine.upToDate]
  change Change.mk (addRoots scene.extractors scene.tree database database.catalog.paths).1
    (_ ++ (addRoots scene.extractors scene.tree database database.catalog.paths).2.1)
    (resultOf (false || !(addRoots scene.extractors scene.tree database
      database.catalog.paths).2.1.isEmpty) _) = _
  rw [hVisits, hAdded, List.append_nil]
  rfl

/-- The database after an update is that of the visits to all files that its root paths list, after
its tracked files were brought in line. -/
theorem update_database :
    (update scene.extractors scene.tree database).database =
      (expandRoots scene.tree database.catalog.paths).1.foldl (visit scene)
        (updateFiles scene.extractors scene.tree database database.catalog.files.keys).1 := by
  have hSettings : (updateFiles scene.extractors scene.tree database
      database.catalog.files.keys).1.settings = database.settings := settings_updateFiles _
  rw [← (Prod.mk.inj hSettings).1, ← addRoots_fst]
  rfl

theorem settings_update :
    (update scene.extractors scene.tree database).database.settings = database.settings := by
  have hSettings : (updateFiles scene.extractors scene.tree database
      database.catalog.files.keys).1.settings = database.settings := settings_updateFiles _
  rw [← hSettings]
  exact settings_addRoots _

/-- An update brings every database in line. -/
theorem isInLine_update (scene : Scene) (database : Database) :
    IsInLine scene (update scene.extractors scene.tree database).database := by
  constructor
  · intro path hPath
    rw [mem_keys_iff_viewOf] at hPath
    rw [viewOf_update] at hPath ⊢
    split_ifs at hPath ⊢ with hNew
    · cases hScan : scene.scan? path with
      | none =>
        rw [hScan, FileView.add, hNew.2.1] at hPath
        cases hPath
      | some entry => exact isOutdated_of_scan? hScan rfl
    · rw [refreshedView] at hPath ⊢
      split_ifs at hPath ⊢ with hTracked
      · exact isOutdated_refresh hPath
      · exact absurd (mem_keys_iff_viewOf.mpr hPath) hTracked
  · intro path hPath
    rw [(Prod.mk.inj settings_update).1] at hPath
    rw [update_database]
    exact isSettled_foldl_visit hPath

/-- An update returns if all root paths can be expanded. It says whether a tracked file was outdated
or a listed one was added. -/
theorem update_result :
    (update scene.extractors scene.tree database).result =
      resultOf
        ((updateFiles scene.extractors scene.tree database database.catalog.files.keys).2.2 ||
          !(addRoots scene.extractors scene.tree (updateFiles scene.extractors scene.tree database
            database.catalog.files.keys).1 database.catalog.paths).2.1.isEmpty)
        (expandRoots scene.tree database.catalog.paths).2 := by
  have hSettings : (updateFiles scene.extractors scene.tree database
      database.catalog.files.keys).1.settings = database.settings := settings_updateFiles _
  rw [← (Prod.mk.inj hSettings).1]
  rfl

/-- If an update finds no change, nothing was left to do before it. -/
theorem isInLine_of_update
    (hResult : (update scene.extractors scene.tree database).result = .ok false) :
    IsInLine scene database := by
  rw [update_result, resultOf_eq_ok_iff, Bool.or_eq_false_iff] at hResult
  obtain ⟨-, hChanged, hAdded⟩ := hResult
  have hUpToDate : ∀ path ∈ database.catalog.files.keys,
      (database.viewOf path).isOutdated scene path = false := by
    intro path hPath
    by_contra hOutdated
    have hSome := (updateFiles_changed database.catalog.files.nodup_keys).mpr
      ⟨path, hPath, by simpa using hOutdated⟩
    rw [hChanged] at hSome
    cases hSome
  rw [updateFiles_of_upToDate hUpToDate] at hAdded
  have hKeys : (addRoots scene.extractors scene.tree database
      database.catalog.paths).1.catalog.files.keys = database.catalog.files.keys := by
    have hNone : (addRoots scene.extractors scene.tree database
        database.catalog.paths).2.1 = [] := by simpa using hAdded
    rw [keys_addRoots, hNone, List.append_nil]
  have hSettings := @settings_addRoots scene.extractors scene.tree database database.catalog.paths
  refine ⟨hUpToDate, fun path hPath => ?_⟩
  -- Every listed file is settled after the visits, and these have added none.
  have hSettled : IsSettled scene
      (addRoots scene.extractors scene.tree database database.catalog.paths).1 path := by
    rw [addRoots_fst]
    exact isSettled_foldl_visit hPath
  rw [IsSettled, hKeys, (Prod.mk.inj hSettings).2] at hSettled
  exact hSettled

/-- An update that returns leaves nothing to do: another one on the same files finds no change and
leaves the whole database as it is. An update that finds no change has left the database as it
was. -/
theorem update_settles {isChanged : Bool}
    (hResult : (update scene.extractors scene.tree database).result = .ok isChanged) :
    update scene.extractors scene.tree (update scene.extractors scene.tree database).database =
        ⟨(update scene.extractors scene.tree database).database,
          (update scene.extractors scene.tree database).database.catalog.files.keys, .ok false⟩ ∧
      (isChanged = false → (update scene.extractors scene.tree database).database = database) := by
  constructor
  · have hRoots : (expandRoots scene.tree database.catalog.paths).2 = none := by
      rw [update_result, resultOf_eq_ok_iff] at hResult
      exact hResult.1
    rw [(isInLine_update scene database).update_eq, (Prod.mk.inj settings_update).1, hRoots]
    rfl
  · rintro rfl
    rw [(isInLine_of_update hResult).update_eq]

/-- A new file, and one that may not be read. -/
def lockedScene : Scene :=
  ⟨[.go], { entries := [(["a.go"], .file (Utf8.encode "func f() \x7b\n") 1000),
    (["b.go"], .file [] 1000 false)] }⟩

/-- A database that no run leads to: one of its files is gone, the other one was read by an
extractor without a name, and a record belongs to a file that is not tracked. -/
def strayDatabase : Database where
  catalog := {
    paths := ["b.go", "a.go"]
    files := .ofList [("gone.go", ⟨"", 1, "go", 1⟩), ("b.go", ⟨"b.go", 5, "", 0⟩)] }
  tables := .ofList [("defs", [⟨"calls", [], "stray.go", none, none, none, none⟩])]

theorem strayDatabase_update_settles :
    (update lockedScene.extractors lockedScene.tree strayDatabase).result = .ok true ∧
    (update lockedScene.extractors lockedScene.tree strayDatabase).database.catalog.files.keys =
      ["a.go"] ∧
    update lockedScene.extractors lockedScene.tree
        (update lockedScene.extractors lockedScene.tree strayDatabase).database =
      ⟨(update lockedScene.extractors lockedScene.tree strayDatabase).database,
        (update lockedScene.extractors lockedScene.tree strayDatabase).database.catalog.files.keys,
        .ok false⟩ := by
  have hResult : (update lockedScene.extractors lockedScene.tree strayDatabase).result =
      .ok true := by rfl
  exact ⟨hResult, by decide, (update_settles hResult).1⟩

end CodeIndex.Database
