import CodeIndex.Command.Run

/-! The command line program. It takes in the files below the working directory and those that the
command line names, runs the command on them, and writes what has changed. It knows no shells, so
that it has no completion to install. -/
namespace CodeIndex.Program

/-- The path of a place. -/
def pathOf (place : List String) : String := Path.ofComponents true place

/-- The place of a path from the root. -/
def placeOf (path : String) : List String := Path.properComponents path

/-- The places around a place, from the outermost on. -/
def around (place : List String) : List (List String) :=
  (List.range place.length).map place.take

/-- Takes in what is at a place, and all that is below it. Links to files count as files, and links
to directories are left out. -/
partial def takeIn (tree : FileTree) (entry : IO.FS.DirEntry) : IO FileTree := do
  let path := entry.path
  let place := placeOf path.toString
  let isLink := (← path.symlinkMetadata).type matches .symlink
  match ← path.metadata.toBaseIO with
  | .error _ => return tree
  | .ok status =>
    match status.type with
    | .dir =>
      if isLink then return tree
      (← path.readDir).foldlM takeIn (tree.insert place .directory)
    | .file =>
      let modified := status.modified.sec * 1000 + Int.ofNat (status.modified.nsec.toNat / 1000000)
      match ← (IO.FS.readBinFile path).toBaseIO with
      | .ok content => return tree.insert place (.file content.data.toList modified)
      | .error _ => return tree.insert place (.file [] modified false)
    | _ => return tree

/-- Takes in what a path names, if there is anything. -/
def takeInPath (tree : FileTree) (path : String) : IO FileTree := do
  match ← (IO.FS.realPath path).toBaseIO with
  | .error _ => return tree
  | .ok real =>
    let place := placeOf real.toString
    if place.isEmpty || (tree.entryAt place).isSome then return tree
    let tree := (around place).foldl (fun tree place =>
      if (tree.entryAt place).isSome then tree else tree.insert place .directory) tree
    let entry : IO.FS.DirEntry := ⟨pathOf place.dropLast, place.getLast?.getD ""⟩
    match ← (takeIn tree entry).toBaseIO with
    | .ok tree => return tree
    | .error _ => return tree

/-- Writes a new file in a directory and returns its path. Names that are taken are passed over. -/
partial def writeAside (directory : String) (content : ByteArray) (number : Nat := 0) :
    IO String := do
  let aside := Database.temporaryPath directory "symscope" number
  match ← (IO.FS.Handle.mk aside .writeNew).toBaseIO with
  | .ok handle =>
    handle.write content
    return aside
  | .error (.alreadyExists ..) => writeAside directory content (number + 1)
  | .error failure => throw failure

/-- Writes what has changed: new directories first, then files, each moved into place when it is
complete. -/
def writeChanges (before after : FileTree) : IO Unit := do
  let changed := after.entries.filter fun (place, entry) => before.entryAt place ≠ some entry
  for (place, entry) in changed do
    if entry = .directory then IO.FS.createDirAll (pathOf place)
  for (place, entry) in changed do
    match entry with
    | .file content _ _ =>
      let aside ← writeAside (pathOf place.dropLast) ⟨content.toArray⟩
      IO.FS.rename aside (pathOf place)
    | _ => pure ()

/-- What the user is told about the end of a command. -/
def report : Command.Ending → Option String
  | .done | .aborted | .unsupported => none
  | .misused => some "error: wrong usage, see --help"
  | .reported failure => some ("error: " ++ failure.message)
  | .escaped failure => some ("error: unexpected failure " ++ failure.message)

end CodeIndex.Program

open CodeIndex in
/-- Runs a command line. -/
def main (words : List String) : IO UInt32 := do
  let directory := (← IO.currentDir).toString
  let start : FileTree := { workingDirectory := Program.placeOf directory }
  let named := words.flatMap fun word => [word, ((Command.splitValue word).2).getD word]
  let tree ← (directory :: named).foldlM Program.takeInPath start
  let (after, outcome) := Command.run tree words
  Program.writeChanges tree after
  IO.print outcome.output
  if let some message := Program.report outcome.ending then IO.eprintln message
  return UInt32.ofNat outcome.ending.exitCode
