import CodeIndex.Proofs.RootVisits

/-! A request with several root paths, or with several patterns, does what the same request does in
two parts. What the first part has brought is known to the second one, and is passed over there. -/
namespace CodeIndex

/-! Items that are new to a list -/

/-- Leaving out repetitions and leaving out unfit items can be done in either order. -/
theorem eraseDups_filter (isFit : String → Bool) (items : List String) :
    (items.filter isFit).eraseDups = items.eraseDups.filter isFit := by
  cases items with
  | nil => rfl
  | cons item rest =>
    have hRest := eraseDups_filter isFit (rest.filter fun other => !other == item)
    rw [List.filter_filter] at hRest
    rw [List.eraseDups_cons, List.filter_cons, List.filter_cons, ← hRest]
    split_ifs with hFit
    · rw [List.eraseDups_cons, List.filter_filter]
      simp only [Bool.and_comm]
    · congr 1
      apply List.filter_congr
      intro other _
      by_cases hSame : other = item
      · simp [hSame, hFit]
      · simp [hSame]
termination_by items.length
decreasing_by exact Nat.lt_succ_of_le (List.length_filter_le _ _)

/-- Doubles in a second list are those of the first list too. -/
theorem eraseDups_append_filter (first second : List String) :
    (first ++ second).eraseDups =
      first.eraseDups ++ second.eraseDups.filter fun item => !first.eraseDups.contains item := by
  have hSame : second.removeAll first =
      second.filter fun item => !first.eraseDups.contains item := by
    apply List.filter_congr
    intro item _
    simp
  rw [List.eraseDups_append, hSame, eraseDups_filter]

/-- The fit items of two lists that are new to a third one: those of the first list, and those of
the second that are then still new. -/
theorem newItems_append (isFit : String → Bool) (known first second : List String) :
    ((first ++ second).eraseDups.filter fun item => isFit item && !known.contains item) =
      (first.eraseDups.filter fun item => isFit item && !known.contains item) ++
        second.eraseDups.filter fun item => isFit item && !(known ++ first.eraseDups.filter
          fun item => isFit item && !known.contains item).contains item := by
  rw [eraseDups_append_filter, List.filter_append, List.filter_filter]
  congr 1
  apply List.filter_congr
  intro item _
  cases hFit : isFit item with
  | false => rfl
  | true => by_cases hKnown : item ∈ known <;> simp [hKnown, hFit]

namespace Database

variable {scene : Scene} {database : Database}

/-! Root paths -/

/-- The database with the root paths that are new to it, and its files as they were. -/
def withRoots (database : Database) (roots : List String) : Database :=
  { database with catalog := { database.catalog with
    paths := database.catalog.paths ++
      roots.eraseDups.filter fun root => !database.catalog.paths.contains root } }

theorem withRoots_withRoots (first second : List String) :
    (database.withRoots first).withRoots second = database.withRoots (first ++ second) := by
  have hNew := newItems_append (fun _ => true) database.catalog.paths first second
  simp only [Bool.true_and] at hNew
  simp only [withRoots, hNew, List.append_assoc]

/-- Which root paths there are makes no difference to a visit. -/
theorem visit_withRoots (roots : List String) (path : String) :
    visit scene (database.withRoots roots) path = (visit scene database path).withRoots roots := by
  rcases visit_cases scene database path with
    ⟨hSettled, hSame⟩ | ⟨hTracked, hExcluded, entry, hScan, -, hCommit⟩
  · have hStill : IsSettled scene (database.withRoots roots) path := hSettled
    rw [hSame, hStill.visit_eq]
  · rw [hCommit]
    exact visit_of_scan? hTracked hExcluded hScan

/-- Visits do not look at the root paths. -/
theorem foldl_visit_withRoots (roots paths : List String) :
    paths.foldl (visit scene) (database.withRoots roots) =
      (paths.foldl (visit scene) database).withRoots roots := by
  induction paths generalizing database with
  | nil => rfl
  | cons path rest ih => rw [List.foldl_cons, visit_withRoots, ih, List.foldl_cons]

/-- The files that are added can be told from the tracked files before and after. -/
theorem added_eq {other : Database} {roots : List String} {added : List String}
    (hKeys : (addRoots scene.extractors scene.tree database roots).1.catalog.files.keys =
      other.catalog.files.keys ++ added)
    (hSame : database.catalog.files.keys = other.catalog.files.keys) :
    (addRoots scene.extractors scene.tree database roots).2.1 = added := by
  rw [keys_addRoots, hSame] at hKeys
  exact List.append_cancel_left hKeys

/-- The root paths of a database and those that are expanded have nothing to do with each other. -/
theorem addRoots_withRoots (roots expanded : List String) :
    addRoots scene.extractors scene.tree (database.withRoots roots) expanded =
      ((addRoots scene.extractors scene.tree database expanded).1.withRoots roots,
        (addRoots scene.extractors scene.tree database expanded).2) := by
  have hDatabase : (addRoots scene.extractors scene.tree (database.withRoots roots) expanded).1 =
      (addRoots scene.extractors scene.tree database expanded).1.withRoots roots := by
    rw [addRoots_fst, addRoots_fst, foldl_visit_withRoots]
  have hAdded : (addRoots scene.extractors scene.tree (database.withRoots roots) expanded).2.1 =
      (addRoots scene.extractors scene.tree database expanded).2.1 := by
    refine @added_eq scene (database.withRoots roots) database expanded _ ?_ rfl
    rw [hDatabase]
    exact keys_addRoots expanded
  exact Prod.ext hDatabase (Prod.ext hAdded rfl)

/-- Root paths are listed in turn, up to the first one that fails. -/
theorem expandRoots_append {first : List String} (second : List String)
    (hFirst : (expandRoots scene.tree first).2 = none) :
    expandRoots scene.tree (first ++ second) =
      ((expandRoots scene.tree first).1 ++ (expandRoots scene.tree second).1,
        (expandRoots scene.tree second).2) := by
  induction first with
  | nil => rfl
  | cons root rest ih =>
    rw [List.cons_append, expandRoots, expandRoots]
    rw [expandRoots] at hFirst
    cases hFiles : scene.tree.files root with
    | error failure =>
      rw [hFiles] at hFirst
      cases hFirst
    | ok files =>
      rw [hFiles] at hFirst
      simp only [ih hFirst, List.append_assoc]

/-- A root path that cannot be expanded ends the list, whatever comes after it. -/
theorem expandRoots_append_of_failure {first : List String} (second : List String)
    {failure : Failure} (hFirst : (expandRoots scene.tree first).2 = some failure) :
    expandRoots scene.tree (first ++ second) = expandRoots scene.tree first := by
  induction first with
  | nil => cases hFirst
  | cons root rest ih =>
    rw [List.cons_append, expandRoots, expandRoots]
    rw [expandRoots] at hFirst
    cases hFiles : scene.tree.files root with
    | error other => rfl
    | ok files =>
      rw [hFiles] at hFirst
      simp only [ih hFirst]

/-- Where no root path fails, all files of each of them are listed. -/
theorem exists_files_of_mem {roots : List String} (hRoots : (expandRoots scene.tree roots).2 = none)
    {root : String} (hRoot : root ∈ roots) :
    ∃ files, scene.tree.files root = .ok files ∧ files ⊆ (expandRoots scene.tree roots).1 := by
  induction roots with
  | nil => cases hRoot
  | cons first rest ih =>
    rw [expandRoots] at hRoots ⊢
    cases hFiles : scene.tree.files first with
    | error failure =>
      rw [hFiles] at hRoots
      cases hRoots
    | ok files =>
      rw [hFiles] at hRoots
      rcases List.mem_cons.mp hRoot with rfl | hRest
      · exact ⟨files, hFiles, List.subset_append_left _ _⟩
      · obtain ⟨others, hOthers, hSubset⟩ := ih hRoots hRest
        exact ⟨others, hOthers, List.Subset.trans hSubset (List.subset_append_right _ _)⟩

/-- Root paths whose files are all settled may be left out. -/
theorem foldl_visit_expandRoots_filter {isKnown : String → Bool}
    (hKnown : ∀ root, isKnown root = true → ∃ files, scene.tree.files root = .ok files ∧
      ∀ path ∈ files, IsSettled scene database path) (roots : List String) :
    (expandRoots scene.tree (roots.filter fun root => !isKnown root)).1.foldl (visit scene)
        database = (expandRoots scene.tree roots).1.foldl (visit scene) database ∧
      (expandRoots scene.tree (roots.filter fun root => !isKnown root)).2 =
        (expandRoots scene.tree roots).2 := by
  induction roots generalizing database with
  | nil => exact ⟨rfl, rfl⟩
  | cons root rest ih =>
    cases hRoot : isKnown root with
    | true =>
      obtain ⟨files, hFiles, hSettled⟩ := hKnown root hRoot
      rw [List.filter_cons_of_neg (by simp [hRoot]), expandRoots, hFiles]
      simp only [List.foldl_append, foldl_visit_of_isSettled hSettled]
      exact ih hKnown
    | false =>
      rw [List.filter_cons_of_pos (by simp [hRoot]), expandRoots, expandRoots]
      cases hFiles : scene.tree.files root with
      | error failure => exact ⟨rfl, rfl⟩
      | ok files =>
        simp only [List.foldl_append]
        apply ih
        intro other hOther
        obtain ⟨found, hFound, hSettled⟩ := hKnown other hOther
        exact ⟨found, hFound, fun path hPath => (hSettled path hPath).foldl_visit files⟩

/-- Root paths may be added in two parts. Those of the second part that were in the first one bring
nothing any more. -/
theorem addRoots_append {first : List String} (second : List String)
    (hFirst : (expandRoots scene.tree first).2 = none) :
    addRoots scene.extractors scene.tree database
        (first ++ second.filter fun root => !first.contains root) =
      (let found := addRoots scene.extractors scene.tree database first
      let others := addRoots scene.extractors scene.tree found.1 second
      (others.1, found.2.1 ++ others.2.1, others.2.2)) := by
  have hKnown : ∀ root, first.contains root = true →
      ∃ files, scene.tree.files root = .ok files ∧ ∀ path ∈ files,
        IsSettled scene (addRoots scene.extractors scene.tree database first).1 path := by
    intro root hRoot
    obtain ⟨files, hFiles, hSubset⟩ := exists_files_of_mem hFirst (List.contains_iff_mem.mp hRoot)
    refine ⟨files, hFiles, fun path hPath => ?_⟩
    rw [addRoots_fst]
    exact isSettled_foldl_visit (hSubset hPath)
  obtain ⟨hVisits, hFailure⟩ := foldl_visit_expandRoots_filter hKnown second
  have hExpand := expandRoots_append (second.filter fun root => !first.contains root) hFirst
  have hDatabase : (addRoots scene.extractors scene.tree database
      (first ++ second.filter fun root => !first.contains root)).1 =
      (addRoots scene.extractors scene.tree
        (addRoots scene.extractors scene.tree database first).1 second).1 := by
    rw [addRoots_fst, hExpand, List.foldl_append, ← @addRoots_fst scene database first, hVisits,
      ← addRoots_fst]
  have hAdded : (addRoots scene.extractors scene.tree database
      (first ++ second.filter fun root => !first.contains root)).2.1 =
      (addRoots scene.extractors scene.tree database first).2.1 ++
        (addRoots scene.extractors scene.tree
          (addRoots scene.extractors scene.tree database first).1 second).2.1 := by
    refine @added_eq scene database database _ _ ?_ rfl
    rw [hDatabase, keys_addRoots, keys_addRoots, List.append_assoc]
  have hFailures : (addRoots scene.extractors scene.tree database
      (first ++ second.filter fun root => !first.contains root)).2.2 =
      (addRoots scene.extractors scene.tree
        (addRoots scene.extractors scene.tree database first).1 second).2.2 := by
    change (expandRoots scene.tree _).2 = (expandRoots scene.tree second).2
    rw [hExpand, hFailure]
  exact Prod.ext hDatabase (Prod.ext hAdded hFailures)

/-- A request first takes down the root paths that are new, and then adds the files of all. -/
theorem addPaths_eq (paths : List String) :
    addPaths scene.extractors scene.tree database paths =
      (let roots := paths.map Path.normalize
      let found := addRoots scene.extractors scene.tree (database.withRoots roots) roots.eraseDups
      ⟨found.1, found.2.1, resultOf found.2.1.length found.2.2⟩) := rfl

/-- Root paths may be requested in two parts: the database, the files that are reported and the
number of added files are the same, and the second part fails if the whole does. -/
theorem addPaths_append {first : List String} (second : List String) {count : Nat}
    (hFirst : (addPaths scene.extractors scene.tree database first).result = .ok count) :
    addPaths scene.extractors scene.tree database (first ++ second) =
      (let found := addPaths scene.extractors scene.tree database first
      let others := addPaths scene.extractors scene.tree found.database second
      ⟨others.database, found.reported ++ others.reported, others.result.map (count + ·)⟩) := by
  obtain ⟨hRoots, hCount⟩ : (expandRoots scene.tree (first.map Path.normalize).eraseDups).2 = none ∧
      (addPaths scene.extractors scene.tree database first).reported.length = count :=
    resultOf_eq_ok_iff.mp hFirst
  subst hCount
  simp only [addPaths_eq, List.map_append, ← withRoots_withRoots, eraseDups_append_filter,
    addRoots_append _ hRoots, addRoots_withRoots, map_resultOf, List.length_append]

/-- If the first part of a request fails, the whole request does. -/
theorem addPaths_append_of_failure {first : List String} (second : List String) {failure : Failure}
    (hFirst : (addPaths scene.extractors scene.tree database first).result = .error failure) :
    (addPaths scene.extractors scene.tree database (first ++ second)).result = .error failure := by
  have hRoots : (expandRoots scene.tree (first.map Path.normalize).eraseDups).2 = some failure :=
    resultOf_eq_error_iff.mp hFirst
  refine resultOf_eq_error_iff.mpr ?_
  rw [List.map_append, eraseDups_append_filter, expandRoots_append_of_failure _ hRoots, hRoots]

end Database

/-! Patterns -/

namespace Table

variable {α : Type}

/-- The table with some of its keys only. -/
def keepKeys (table : Table α) (isKept : String → Bool) : Table α :=
  ⟨table.entries.filter fun entry => isKept entry.1,
    table.nodup.sublist (List.filter_sublist.map Prod.fst)⟩

theorem keys_keepKeys (table : Table α) (isKept : String → Bool) :
    (table.keepKeys isKept).keys = table.keys.filter isKept := by
  rw [keys, keys, List.filter_map]
  rfl

end Table

namespace Database

variable {database : Database}

/-- The database without some files and their records. Tables stay even if they are empty. -/
def withoutFiles (database : Database) (isGone : String → Bool) : Database :=
  { catalog := { database.catalog with
      files := database.catalog.files.keepKeys fun path => !isGone path }
    tables := database.tables.mapValues fun _ records =>
      records.filter fun record => !isGone record.file }

/-- Files may be taken away in two steps. -/
theorem withoutFiles_withoutFiles (isFirst isSecond : String → Bool) :
    (database.withoutFiles isFirst).withoutFiles isSecond =
      database.withoutFiles fun path => isFirst path || isSecond path := by
  have hFiles : (database.catalog.files.keepKeys fun path => !isFirst path).keepKeys
      (fun path => !isSecond path) =
      database.catalog.files.keepKeys fun path => !(isFirst path || isSecond path) := by
    ext1
    simp only [Table.keepKeys, List.filter_filter, Bool.not_or, Bool.and_comm]
  have hTables : (database.tables.mapValues fun _ records =>
      records.filter fun record => !isFirst record.file).mapValues (fun _ records =>
        records.filter fun record => !isSecond record.file) =
      database.tables.mapValues fun _ records =>
        records.filter fun record => !(isFirst record.file || isSecond record.file) := by
    ext1
    simp only [Table.mapValues, List.map_map, Function.comp_def, List.filter_filter, Bool.not_or,
      Bool.and_comm]
  simp only [withoutFiles, hFiles, hTables]

theorem withoutFiles_none : (database.withoutFiles fun _ => false) = database := by
  have hFiles : (database.catalog.files.keepKeys fun _ => !false) = database.catalog.files := by
    ext1
    simp [Table.keepKeys]
  have hTables : (database.tables.mapValues fun _ records => records.filter fun _ => !false) =
      database.tables := by
    ext1
    simp [Table.mapValues]
  simp only [withoutFiles, hFiles, hTables]

/-- Removing files in turn removes all of them at once. -/
theorem foldl_removeFile (removed : List String) :
    removed.foldl removeFile database = database.withoutFiles removed.contains := by
  induction removed generalizing database with
  | nil => exact withoutFiles_none.symm
  | cons path rest ih =>
    have hFirst : database.removeFile path = database.withoutFiles fun other => other == path := by
      have hNe (other : String) : decide (other ≠ path) = !(other == path) := by
        rw [Bool.eq_iff_iff]
        simp
      simp only [removeFile, withoutFiles, Table.erase, Table.keepKeys, hNe]
    rw [List.foldl_cons, ih, hFirst, withoutFiles_withoutFiles]
    rfl

theorem withPatterns_withPatterns (first second : List String) :
    (database.withPatterns first).withPatterns second =
      database.withPatterns (first ++ second) := by
  simp [withPatterns, List.filter_filter, Bool.and_comm]

/-- Whether more patterns take away a file: it is tracked, and a new one describes it. -/
def isPurged (database : Database) (patterns : List String) (path : String) : Bool :=
  database.catalog.files.keys.contains path && Path.isExcluded path (database.newPatterns patterns)

/-- To exclude patterns is to note them down and to take away the files that they exclude. -/
theorem addExcludes_eq_withoutFiles (patterns : List String) :
    (database.addExcludes patterns).1 =
      (database.withPatterns (database.newPatterns patterns)).withoutFiles
        (database.isPurged patterns) := by
  rw [addExcludes_fst, foldl_removeFile]
  congr 1
  funext path
  rw [Bool.eq_iff_iff]
  simp [isPurged]

/-- The files that stay are those that no new pattern excludes. -/
theorem keys_addExcludes (patterns : List String) :
    (database.addExcludes patterns).1.catalog.files.keys =
      database.catalog.files.keys.filter fun path =>
        !Path.isExcluded path (database.newPatterns patterns) := by
  rw [addExcludes_eq_withoutFiles]
  refine (Table.keys_keepKeys _ _).trans (List.filter_congr ?_)
  intro path (hPath : path ∈ database.catalog.files.keys)
  simp [isPurged, hPath]

/-- Of two lists of patterns those of the first are no longer new when the second comes. -/
theorem newPatterns_append (first second : List String) :
    database.newPatterns (first ++ second) =
      database.newPatterns first ++ (database.addExcludes first).1.newPatterns second := by
  have hExcludes := (Prod.mk.inj (database.settings_addExcludes first)).2
  rw [newPatterns, newPatterns, newPatterns, hExcludes]
  exact newItems_append (fun pattern => decide (pattern ≠ "")) _ first second

theorem isExcluded_append (path : String) (first second : List String) :
    Path.isExcluded path (first ++ second) =
      (Path.isExcluded path first || Path.isExcluded path second) :=
  List.any_append

/-- Two parts take away a file if the first one does, or the second one from what is left. -/
theorem isPurged_append (first second : List String) :
    database.isPurged (first ++ second) = fun path =>
      database.isPurged first path || (database.addExcludes first).1.isPurged second path := by
  funext path
  simp only [isPurged, keys_addExcludes, newPatterns_append, isExcluded_append]
  by_cases hPath : path ∈ database.catalog.files.keys
  · cases hFirst : Path.isExcluded path (database.newPatterns first) with
    | false => simp [hPath, hFirst]
    | true => simp [hPath]
  · simp [hPath]

theorem length_filter_or (isFirst isSecond : String → Bool) (items : List String) :
    (items.filter fun item => isFirst item || isSecond item).length =
      (items.filter isFirst).length +
        ((items.filter fun item => !isFirst item).filter isSecond).length := by
  induction items with
  | nil => rfl
  | cons item rest ih =>
    cases hFirst : isFirst item with
    | true =>
      simp [hFirst, ih]
      omega
    | false =>
      cases hSecond : isSecond item with
      | true =>
        simp [hFirst, hSecond, ih]
        omega
      | false => simp [hFirst, hSecond, ih]

/-- Patterns may be added in two parts: the database and the number of removed files are the
same. -/
theorem addExcludes_append (first second : List String) :
    database.addExcludes (first ++ second) =
      (let found := database.addExcludes first
      let others := found.1.addExcludes second
      (others.1, found.2 + others.2)) := by
  have hDatabase : (database.addExcludes (first ++ second)).1 =
      ((database.addExcludes first).1.addExcludes second).1 := by
    let after := (database.addExcludes first).1.newPatterns second
    calc (database.addExcludes (first ++ second)).1
      _ = (((database.withPatterns (database.newPatterns first)).withPatterns after).withoutFiles
            (database.isPurged first)).withoutFiles
              ((database.addExcludes first).1.isPurged second) := by
          rw [addExcludes_eq_withoutFiles, newPatterns_append, isPurged_append,
            withPatterns_withPatterns, withoutFiles_withoutFiles]
      _ = ((database.addExcludes first).1.withPatterns after).withoutFiles
            ((database.addExcludes first).1.isPurged second) := by
          rw [addExcludes_eq_withoutFiles first]
          rfl
      _ = ((database.addExcludes first).1.addExcludes second).1 :=
          (addExcludes_eq_withoutFiles second).symm
  have hCount : (database.addExcludes (first ++ second)).2 =
      (database.addExcludes first).2 + ((database.addExcludes first).1.addExcludes second).2 := by
    simp only [addExcludes_snd, newPatterns_append, isExcluded_append, length_filter_or,
      keys_addExcludes]
  exact Prod.ext hDatabase hCount

end Database

end CodeIndex
