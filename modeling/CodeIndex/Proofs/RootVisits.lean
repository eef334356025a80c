import CodeIndex.Proofs.UpkeepResults

/-! Looking for new files is a series of visits, one for each file that the root paths list. A visit
settles its file: another one changes nothing, however many other files were visited in between. -/
namespace CodeIndex.Database

variable {scene : Scene} {database : Database} {path : String}

/-- Visits a listed file, which is read and added unless it is tracked or excluded. -/
def visit (scene : Scene) (database : Database) (path : String) : Database :=
  if path ∈ database.catalog.files.keys ∨ Path.isExcluded path database.catalog.excludes = true then
    database
  else (database.addFile? scene.extractors scene.tree path).getD database

/-- A visit has nothing to do: the file is tracked or excluded, or reading it brings nothing. -/
def IsSettled (scene : Scene) (database : Database) (path : String) : Prop :=
  path ∈ database.catalog.files.keys ∨ Path.isExcluded path database.catalog.excludes = true ∨
    scene.scan? path = none

/-- A visit to a file that is neither tracked nor excluded commits what a scan brings. -/
theorem visit_of_scan? {entry : TrackedFile × List Record}
    (hTracked : path ∉ database.catalog.files.keys)
    (hExcluded : ¬Path.isExcluded path database.catalog.excludes = true)
    (hScan : scene.scan? path = some entry) :
    visit scene database path = database.commit entry.1 entry.2 := by
  rw [visit, if_neg (not_or.mpr ⟨hTracked, hExcluded⟩), addFile?_eq_map_scan?, hScan]
  rfl

theorem path_of_scan? {entry : TrackedFile × List Record} (hScan : scene.scan? path = some entry) :
    entry.1.path = path := by
  obtain ⟨extractor, modified, content, -, -, -, hFile, -⟩ := Scene.scan?_eq_some_iff.mp hScan
  rw [hFile]

/-- A visit finds the file settled and changes nothing, or it commits what a scan brings. -/
theorem visit_cases (scene : Scene) (database : Database) (path : String) :
    (IsSettled scene database path ∧ visit scene database path = database) ∨
      (path ∉ database.catalog.files.keys ∧
        ¬Path.isExcluded path database.catalog.excludes = true ∧
        ∃ entry, scene.scan? path = some entry ∧ entry.1.path = path ∧
          visit scene database path = database.commit entry.1 entry.2) := by
  by_cases hKnown : path ∈ database.catalog.files.keys ∨
      Path.isExcluded path database.catalog.excludes = true
  · exact .inl ⟨hKnown.imp_right .inl, by rw [visit, if_pos hKnown]⟩
  · obtain ⟨hTracked, hExcluded⟩ := not_or.mp hKnown
    cases hScan : scene.scan? path with
    | none =>
      refine .inl ⟨.inr (.inr hScan), ?_⟩
      rw [visit, if_neg hKnown, addFile?_eq_map_scan?, hScan]
      rfl
    | some entry =>
      exact .inr ⟨hTracked, hExcluded, entry, rfl, path_of_scan? hScan,
        visit_of_scan? hTracked hExcluded hScan⟩

theorem mem_keys_commit {file : TrackedFile} {records : List Record} {other : String} :
    other ∈ (database.commit file records).catalog.files.keys ↔
      other = file.path ∨ other ∈ database.catalog.files.keys :=
  Table.mem_keys_insert

/-- A visit to a settled file does nothing. -/
theorem IsSettled.visit_eq (hSettled : IsSettled scene database path) :
    visit scene database path = database := by
  rcases visit_cases scene database path with ⟨-, hSame⟩ | ⟨hTracked, hExcluded, entry, hScan, -⟩
  · exact hSame
  · have hUnsettled : ¬IsSettled scene database path := by
      simp [IsSettled, hTracked, hExcluded, hScan]
    exact absurd hSettled hUnsettled

/-- What is settled stays so while other files are visited. -/
theorem IsSettled.visit (hSettled : IsSettled scene database path) (other : String) :
    IsSettled scene (visit scene database other) path := by
  rcases visit_cases scene database other with ⟨-, hSame⟩ | ⟨-, -, entry, -, -, hCommit⟩
  · rwa [hSame]
  · rw [hCommit]
    exact hSettled.imp_left fun hTracked => mem_keys_commit.mpr (.inr hTracked)

/-- A visit settles a file: it is tracked now, unless it is excluded or reading it brings
nothing. -/
theorem isSettled_visit : IsSettled scene (visit scene database path) path := by
  rcases visit_cases scene database path with ⟨hSettled, hSame⟩ | ⟨-, -, entry, -, hPath, hCommit⟩
  · rwa [hSame]
  · rw [hCommit]
    exact .inl (mem_keys_commit.mpr (.inl hPath.symm))

/-! Visits of several files -/

/-- Settled files stay so during further visits. -/
theorem IsSettled.foldl_visit (hSettled : IsSettled scene database path) (paths : List String) :
    IsSettled scene (paths.foldl (Database.visit scene) database) path := by
  induction paths generalizing database with
  | nil => exact hSettled
  | cons other rest ih => exact ih (hSettled.visit other)

/-- All files that were visited are settled in the end. -/
theorem isSettled_foldl_visit {paths : List String} (hPath : path ∈ paths) :
    IsSettled scene (paths.foldl (visit scene) database) path := by
  induction paths generalizing database with
  | nil => cases hPath
  | cons first rest ih =>
    rcases List.mem_cons.mp hPath with rfl | hRest
    · exact isSettled_visit.foldl_visit rest
    · exact ih hRest

/-- Visits to settled files do nothing. -/
theorem foldl_visit_of_isSettled {paths : List String}
    (hSettled : ∀ path ∈ paths, IsSettled scene database path) :
    paths.foldl (visit scene) database = database := by
  induction paths with
  | nil => rfl
  | cons first rest ih =>
    rw [List.foldl_cons, (hSettled first List.mem_cons_self).visit_eq]
    exact ih fun path hPath => hSettled path (List.mem_cons_of_mem _ hPath)

/-- A settled file may be left out of the visits. -/
theorem IsSettled.foldl_visit_filter (hSettled : IsSettled scene database path)
    (paths : List String) :
    (paths.filter fun other => !other == path).foldl (Database.visit scene) database =
      paths.foldl (Database.visit scene) database := by
  induction paths generalizing database with
  | nil => rfl
  | cons other rest ih =>
    by_cases hOther : other = path
    · subst hOther
      rw [List.foldl_cons, hSettled.visit_eq, ← ih hSettled]
      simp
    · rw [List.foldl_cons, ← ih (hSettled.visit other)]
      simp [hOther]

/-! Adding root paths -/

/-- What makes a listed file new. -/
theorem isNew_iff :
    (!database.catalog.files.contains path && !Path.isExcluded path database.catalog.excludes
        && (Extractor.select? scene.extractors path).isSome) = true ↔
      (path ∉ database.catalog.files.keys ∧
        ¬Path.isExcluded path database.catalog.excludes = true) ∧
      (Extractor.select? scene.extractors path).isSome = true := by
  have hTracked : database.catalog.files.contains path = true ↔
      path ∈ database.catalog.files.keys := by
    rw [Table.contains, Table.mem_keys_iff, Option.isSome_iff_exists]
  simp [← hTracked]

/-- Other files are new to a database or not as before after one was visited. -/
theorem untracked_visit (path : String) {files : List String} (hPath : path ∉ files) :
    untracked scene.extractors (visit scene database path) files =
      untracked scene.extractors database files := by
  rcases visit_cases scene database path with ⟨-, hSame⟩ | ⟨-, -, entry, -, hFile, hCommit⟩
  · rw [hSame]
  · rw [hCommit, untracked, untracked]
    apply List.filter_congr
    intro other hOther
    have hNe : other ≠ entry.1.path := by
      rw [hFile]
      exact ne_of_mem_of_not_mem (List.mem_eraseDups.mp hOther) hPath
    have hSame : (database.commit entry.1 entry.2).catalog.files.get? other =
        database.catalog.files.get? other := by
      rw [commit, Table.get?_insert, if_neg hNe]
    rw [Table.contains, Table.contains, hSame]
    rfl

/-- The first listed file is visited. It need not be looked at again further down the list. -/
theorem addFiles_untracked_cons (files : List String) :
    (addFiles scene.extractors scene.tree database
        (untracked scene.extractors database (path :: files))).1 =
      (addFiles scene.extractors scene.tree (visit scene database path)
        (untracked scene.extractors database (files.filter fun other => !other == path))).1 := by
  rw [untracked, List.eraseDups_cons, List.filter_cons, ← untracked]
  simp only [isNew_iff]
  split_ifs with hNew
  · rw [addFiles_cons, visit, if_neg (not_or.mpr hNew.1)]
  · have hSettled : IsSettled scene database path := by
      by_contra hUnsettled
      obtain ⟨hTracked, hUnsettled⟩ := not_or.mp hUnsettled
      obtain ⟨hExcluded, hScan⟩ := not_or.mp hUnsettled
      obtain ⟨⟨file, records⟩, hScan⟩ := Option.ne_none_iff_exists'.mp hScan
      obtain ⟨extractor, modified, content, hSelect, -⟩ := Scene.scan?_eq_some_iff.mp hScan
      exact hNew ⟨⟨hTracked, hExcluded⟩, by rw [hSelect]; rfl⟩
    rw [hSettled.visit_eq]

/-- Adding the new files among those listed is visiting each of them, once or several times. -/
theorem addFiles_untracked (database : Database) (files : List String) :
    (addFiles scene.extractors scene.tree database
      (untracked scene.extractors database files)).1 = files.foldl (visit scene) database := by
  cases files with
  | nil => rfl
  | cons path rest =>
    rw [addFiles_untracked_cons, ← untracked_visit path (by simp), addFiles_untracked,
      isSettled_visit.foldl_visit_filter, List.foldl_cons]
termination_by files.length
decreasing_by exact Nat.lt_succ_of_le (List.length_filter_le _ _)

/-- To read the files of root paths is to visit them in turn. -/
theorem addRoots_fst (roots : List String) :
    (addRoots scene.extractors scene.tree database roots).1 =
      (expandRoots scene.tree roots).1.foldl (visit scene) database :=
  addFiles_untracked database _

/-! Which files are added -/

/-- A new file goes to the end. -/
theorem entries_commit {file : TrackedFile} (records : List Record)
    (hNew : file.path ∉ database.catalog.files.keys) :
    (database.commit file records).catalog.files.entries =
      database.catalog.files.entries ++ [(file.path, file)] :=
  Table.setEntry_of_not_mem hNew

theorem keys_commit {file : TrackedFile} (records : List Record)
    (hNew : file.path ∉ database.catalog.files.keys) :
    (database.commit file records).catalog.files.keys =
      database.catalog.files.keys ++ [file.path] := by
  rw [Table.keys, entries_commit records hNew, List.map_append]
  rfl

/-- The files that are added stand after those that were there, in the order of the list. -/
theorem keys_addFiles {paths : List String} (hNodup : paths.Nodup)
    (hNew : ∀ path ∈ paths, path ∉ database.catalog.files.keys) :
    (addFiles scene.extractors scene.tree database paths).1.catalog.files.keys =
      database.catalog.files.keys ++
        (addFiles scene.extractors scene.tree database paths).2 := by
  induction paths generalizing database with
  | nil => simp [addFiles]
  | cons path rest ih =>
    obtain ⟨hFirst, hRest⟩ := List.nodup_cons.mp hNodup
    have hOthers : ∀ other ∈ rest, other ∉ database.catalog.files.keys :=
      fun other hOther => hNew other (List.mem_cons_of_mem _ hOther)
    rw [addFiles, addFile?_eq_map_scan?]
    cases hScan : Scene.scan? ⟨scene.extractors, scene.tree⟩ path with
    | none => exact ih hRest hOthers
    | some entry =>
      have hPath : entry.1.path = path := path_of_scan? hScan
      have hCommit := keys_commit entry.2 (hPath.symm ▸ hNew path List.mem_cons_self)
      have hStillNew : ∀ other ∈ rest,
          other ∉ (database.commit entry.1 entry.2).catalog.files.keys := by
        intro other hOther
        rw [mem_keys_commit, hPath]
        exact not_or.mpr ⟨ne_of_mem_of_not_mem hOther hFirst, hOthers other hOther⟩
      have hKeys := ih hRest hStillNew
      rw [hCommit, hPath, List.append_assoc] at hKeys
      exact hKeys

/-- The files that are reported are those that are new, in the order in which they are tracked. -/
theorem keys_addRoots (roots : List String) :
    (addRoots scene.extractors scene.tree database roots).1.catalog.files.keys =
      database.catalog.files.keys ++
        (addRoots scene.extractors scene.tree database roots).2.1 := by
  refine keys_addFiles ((nodup_eraseDups _).filter _) fun path hPath => ?_
  exact (isNew_iff.mp (List.mem_filter.mp hPath).2).1.1

/-! Results -/

theorem resultOf_eq_ok_iff {α : Type} {value result : α} {failure : Option Failure} :
    resultOf value failure = .ok result ↔ failure = none ∧ value = result := by
  cases failure <;> simp [resultOf]

theorem resultOf_eq_error_iff {α : Type} {value : α} {fault : Failure} {failure : Option Failure} :
    resultOf value failure = .error fault ↔ failure = some fault := by
  cases failure <;> simp [resultOf]

theorem map_resultOf {α β : Type} (f : α → β) (value : α) (failure : Option Failure) :
    (resultOf value failure).map f = resultOf (f value) failure := by
  cases failure <;> rfl

end CodeIndex.Database
