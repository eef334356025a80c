import CodeIndex.Failure
import CodeIndex.Path.Parts

namespace CodeIndex

/-- What a place in a file tree holds. Times are in milliseconds, and some files may not be read. -/
inductive Entry where
  | file (content : List UInt8) (modified : Int) (isReadable : Bool := true)
  | directory
  | link (target : String)
  deriving DecidableEq, Repr

/-- A file tree. Places are named by their components from the root on, and relative paths start at
the working directory. Files that are written get the present time. -/
structure FileTree where
  entries : List (List String × Entry) := []
  workingDirectory : List String := []
  now : Int := 0
  deriving Repr

namespace FileTree

/-- The entry of a place. The root is a directory. -/
def entryAt (tree : FileTree) (place : List String) : Option Entry :=
  if place.isEmpty then some .directory else tree.entries.lookup place

/-- Removes what a place holds. -/
def erase (tree : FileTree) (place : List String) : FileTree :=
  { tree with entries := tree.entries.filter fun (other, _) => other ≠ place }

/-- Puts an entry at a place. -/
def insert (tree : FileTree) (place : List String) (entry : Entry) : FileTree :=
  { tree with entries := (place, entry) :: (tree.erase place).entries }

/-- What is put at a place is there. -/
theorem entryAt_insert_self {tree : FileTree} {place : List String} {entry : Entry}
    (hPlace : place ≠ []) : (tree.insert place entry).entryAt place = some entry := by
  simp [entryAt, insert, hPlace]

theorem lookup_filter_of_ne {entries : List (List String × Entry)} {place other : List String}
    (hNe : other ≠ place) :
    (entries.filter fun (name, _) => name ≠ place).lookup other = entries.lookup other := by
  induction entries with
  | nil => rfl
  | cons head rest ih =>
    obtain ⟨name, entry⟩ := head
    by_cases hName : name = place
    · subst hName
      simp only [ne_eq, not_true_eq_false, decide_false, Bool.false_eq_true, not_false_eq_true,
        List.filter_cons_of_neg, List.lookup_cons]
      rw [ih]
      simp [beq_eq_false_iff_ne.mpr hNe]
    · simp only [ne_eq, hName, not_false_eq_true, decide_true, List.filter_cons_of_pos,
        List.lookup_cons, ih]

/-- To clear a place leaves the others alone. -/
theorem entryAt_erase_of_ne {tree : FileTree} {place other : List String} (hNe : other ≠ place) :
    (tree.erase place).entryAt other = tree.entryAt other := by
  simp only [entryAt, erase, lookup_filter_of_ne hNe]

/-- To put something at a place leaves the others alone. -/
theorem entryAt_insert_of_ne {tree : FileTree} {place other : List String} {entry : Entry}
    (hNe : other ≠ place) : (tree.insert place entry).entryAt other = tree.entryAt other := by
  have hErase : (tree.erase place).entryAt other = tree.entryAt other := entryAt_erase_of_ne hNe
  simp only [entryAt, insert, List.lookup_cons, beq_eq_false_iff_ne.mpr hNe] at hErase ⊢
  exact hErase

/-- The names in a directory in ascending order. -/
def children (tree : FileTree) (place : List String) : List String :=
  let names := tree.entries.filterMap fun (other, _) =>
    match other.getLast? with
    | some name => if other.dropLast = place then some name else none
    | none => none
  names.mergeSort fun a b => decide (a ≤ b)

/-- The most bytes that a component may have. -/
def nameLimit : Nat := 255

/-- The most links that are followed on the way to a place. -/
def linkLimit : Nat := 40

/-- Goes down from a directory by components. Links are handed to `follow`; one at the end is only
followed if `followsLast` says so. The last component need not exist. -/
def descend (tree : FileTree) (followsLast : Bool)
    (follow : (place : List String) → List String → Except FileFault (List String)) :
    (place : List String) → List String → Except FileFault (List String)
  | place, [] => .ok place
  | place, component :: rest =>
    if component = "" || component = "." then descend tree followsLast follow place rest
    else if component = ".." then descend tree followsLast follow place.dropLast rest
    else if nameLimit < component.utf8ByteSize then .error .nameTooLong
    else
      let next := place ++ [component]
      match tree.entryAt next with
      | none => if rest.isEmpty then .ok next else .error .notFound
      | some .directory => descend tree followsLast follow next rest
      | some (.file _ _ _) => if rest.isEmpty then .ok next else .error .notDirectory
      | some (.link target) =>
        if rest.isEmpty && !followsLast then .ok next
        else follow (if Path.isAbsolute target then [] else place) (Path.components target ++ rest)

/-- Goes down from a directory by components and follows up to so many links. -/
def walk (tree : FileTree) (followsLast : Bool) :
    (links : Nat) → (place : List String) → List String → Except FileFault (List String)
  | 0 => descend tree followsLast fun _ _ => .error .linkLoop
  | links + 1 => descend tree followsLast (walk tree followsLast links)

/-- The place that a path names. It need not hold anything, but its directory exists. -/
def locate (tree : FileTree) (followsLast : Bool) (path : String) :
    Except FileFault (List String) :=
  if path.isEmpty then .error .notFound
  else tree.walk followsLast linkLimit
    (if Path.isAbsolute path then [] else tree.workingDirectory) (Path.components path)

/-- What a path names, with links followed. -/
def status (tree : FileTree) (path : String) : Except FileFault Entry := do
  match tree.entryAt (← tree.locate true path) with
  | some entry => return entry
  | none => throw .notFound

/-- Whether a path names a file. -/
def isFile (tree : FileTree) (path : String) : Bool :=
  match tree.status path with
  | .ok (.file _ _ _) => true
  | _ => false

/-- Whether a path names a directory. -/
def isDirectory (tree : FileTree) (path : String) : Bool :=
  match tree.status path with
  | .ok .directory => true
  | _ => false

/-- Whether a path names a link. -/
def isLink (tree : FileTree) (path : String) : Bool :=
  match tree.locate false path with
  | .ok place =>
    match tree.entryAt place with
    | some (.link _) => true
    | _ => false
  | .error _ => false

/-- Whether a path names anything, be it a link to nothing. -/
def isPresent (tree : FileTree) (path : String) : Bool :=
  match tree.locate false path with
  | .ok place => (tree.entryAt place).isSome
  | .error _ => false

/-- Whether a path names something after all links. Only a path that cannot exist is a failure. -/
def exists? (tree : FileTree) (path : String) : Except Failure Bool :=
  match tree.status path with
  | .ok _ => .ok true
  | .error .notFound | .error .notDirectory | .error .linkLoop => .ok false
  | .error fault => .error (.file path fault)

/-- The content of a file that may be read. -/
def read (tree : FileTree) (path : String) : Except Failure (List UInt8) :=
  match tree.status path with
  | .ok (.file content _ true) => .ok content
  | .ok (.file _ _ false) => .error (.file path .denied)
  | .ok _ => .error (.file path .isDirectory)
  | .error fault => .error (.file path fault)

/-- When a file was changed, in whole seconds. -/
def modifiedSeconds (tree : FileTree) (path : String) : Except Failure Int :=
  match tree.status path with
  | .ok (.file _ modified _) => .ok (Int.tdiv modified 1000)
  | .ok _ => .ok (Int.tdiv tree.now 1000)
  | .error fault => .error (.file path fault)

/-- Writes a file. Its directory has to exist, and a file that is there is as readable as before. -/
def write (tree : FileTree) (path : String) (content : List UInt8) : Except Failure FileTree :=
  match tree.locate true path with
  | .error fault => .error (.file path fault)
  | .ok place =>
    match tree.entryAt place with
    | some .directory => .error (.file path .isDirectory)
    | some (.link _) => .error (.file path .linkLoop)
    | some (.file _ _ isReadable) => .ok (tree.insert place (.file content tree.now isReadable))
    | none => .ok (tree.insert place (.file content tree.now))

/-- Sets the time of a file. -/
def touch (tree : FileTree) (path : String) (modified : Int) : Except Failure FileTree :=
  match tree.locate true path with
  | .error fault => .error (.file path fault)
  | .ok place =>
    match tree.entryAt place with
    | some (.file content _ isReadable) =>
      .ok (tree.insert place (.file content modified isReadable))
    | some _ => .ok tree
    | none => .error (.file path .notFound)

/-- Puts an entry at a path that names nothing yet, in a directory that exists. -/
def make (tree : FileTree) (path : String) (entry : Entry) : Except Failure FileTree :=
  match tree.locate false path with
  | .error fault => .error (.file path fault)
  | .ok place =>
    match tree.entryAt place with
    | some _ => .error (.file path .exists)
    | none => .ok (tree.insert place entry)

/-- Makes a link. -/
def makeLink (tree : FileTree) (path target : String) : Except Failure FileTree :=
  tree.make path (.link target)

/-- Makes a directory. -/
def makeDirectory (tree : FileTree) (path : String) : Except Failure FileTree :=
  tree.make path .directory

/-- Makes a file. -/
def makeFile (tree : FileTree) (path : String) (content : List UInt8) : Except Failure FileTree :=
  tree.make path (.file content tree.now)

/-- Takes a failure to make a directory back if the directory is there already. -/
def keepDirectory (tree : FileTree) (path : String) (failure : Failure) :
    FileTree × Except Failure Unit :=
  (tree, if tree.isDirectory path then .ok () else .error failure)

/-- Makes a directory and up to so many of those around it. The ones that could be made stay also if
another could not. -/
def makeDirectoriesWithin (tree : FileTree) :
    (depth : Nat) → (path : String) → FileTree × Except Failure Unit
  | depth, path =>
    match tree.makeDirectory path with
    | .ok tree => (tree, .ok ())
    | .error (.file file .notFound) =>
      match depth with
      | 0 => (tree, .error (.file file .notFound))
      | depth + 1 =>
        match makeDirectoriesWithin tree depth (Path.parent path) with
        | (tree, .error failure) => (tree, .error failure)
        | (tree, .ok ()) =>
          match tree.makeDirectory path with
          | .ok tree => (tree, .ok ())
          | .error (.file file .notFound) => (tree, .error (.file file .notFound))
          | .error failure => tree.keepDirectory path failure
    | .error failure => tree.keepDirectory path failure

/-- Makes a directory and those around it. One that is there already is kept. -/
def makeDirectories (tree : FileTree) (path : String) : FileTree × Except Failure Unit :=
  tree.makeDirectoriesWithin (Path.properComponents path).length path

/-- Removes the file or link at a path. -/
def removeFile (tree : FileTree) (path : String) : Except Failure FileTree :=
  match tree.locate false path with
  | .error fault => .error (.file path fault)
  | .ok place =>
    match tree.entryAt place with
    | some .directory => .error (.file path .isDirectory)
    | some _ => .ok (tree.erase place)
    | none => .error (.file path .notFound)

/-- Removes what a path names, with all that is below it. -/
def removeAll (tree : FileTree) (path : String) : Except Failure FileTree :=
  match tree.locate false path with
  | .error fault => .error (.file path fault)
  | .ok place =>
    match tree.entryAt place with
    | some _ => .ok { tree with
        entries := tree.entries.filter fun (other, _) => !place.isPrefixOf other }
    | none => .error (.file path .notFound)

/-- Moves a file to another path, in place of a file or link that is there. -/
def replace (tree : FileTree) (source target : String) : Except Failure FileTree := do
  let failed {α : Type} (fault : FileFault) : Except Failure α := .error (.file source fault)
  let name := Path.fileName target
  match tree.locate false source, tree.locate false target with
  | .error fault, _ | _, .error fault => failed fault
  | .ok old, .ok new =>
    if name = "" || name = ".." then failed .busy
    else match tree.entryAt old, tree.entryAt new with
      | none, _ => failed .notFound
      | _, some .directory => failed .isDirectory
      | some entry, _ => .ok ((tree.erase old).insert new entry)

end FileTree

end CodeIndex
