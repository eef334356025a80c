import CodeIndex.FileTree
import CodeIndex.Path.Normal
import CodeIndex.Path.Wildcard

/-! The files that a root path stands for: a file, all files below a directory, or all that a
pattern with wildcards leads to. -/
namespace CodeIndex.FileTree

/-- Whether a text holds a wildcard. -/
def isPattern (path : String) : Bool := Wildcard.hasMagic path.toList

/-- Whether a name is hidden, that is, starts with a dot. -/
def isHidden (name : String) : Bool := name.toList.head? = some '.'

/-- Names in ascending order. -/
def sortNames (names : List String) : List String := names.mergeSort fun a b => decide (a ≤ b)

/-- The path of a name in a directory, either of which may be empty. -/
def joinParts (directory name : String) : String :=
  if directory.isEmpty then name
  else if name.isEmpty then directory
  else Path.join directory name

/-- The names in a directory, or those of directories only. The empty path stands for the working
directory. -/
def namesIn (tree : FileTree) (onlyDirectories : Bool) (directory : String) : List String :=
  let path := if directory.isEmpty then "." else directory
  if tree.isDirectory path then
    match tree.locate true path with
    | .ok place => (tree.children place).filter fun name =>
        !onlyDirectories || tree.isDirectory (Path.join path name)
    | .error _ => []
  else []

/-- The paths of all that is below a directory, hidden names apart. Links to directories are
followed. -/
def pathsBelow (tree : FileTree) (onlyDirectories : Bool) :
    (depth : Nat) → (directory : String) → List String
  | 0, _ => []
  | depth + 1, directory =>
    ((tree.namesIn onlyDirectories directory).filter fun name => !isHidden name).flatMap
      fun name => name ::
        (pathsBelow tree onlyDirectories depth (joinParts directory name)).map (joinParts name)

/-- How deep paths can go before too many links are in them. -/
def depthLimit (tree : FileTree) : Nat := (linkLimit + 1) * (tree.entries.length + 1)

/-- The names in a directory that the last part of a pattern describes. Two stars describe the
directory itself and all that is below it. A name without wildcards has to be there, and an empty
one stands for the directory. -/
def matchesIn (tree : FileTree) (onlyDirectories : Bool) (part directory : String) :
    List String :=
  if part = "**" then
    (if directory.isEmpty || tree.isDirectory directory then [""] else [])
      ++ tree.pathsBelow onlyDirectories tree.depthLimit directory
  else if isPattern part then
    (tree.namesIn onlyDirectories directory).filter fun name =>
      (isHidden part || !isHidden name) && Wildcard.isMatch part.toList name.toList
  else if part.isEmpty then if tree.isDirectory directory then [part] else []
  else if tree.isPresent (joinParts directory part) then [part]
  else []

/-- The paths that a pattern describes, one directory after the other. -/
def matchesOf (tree : FileTree) :
    (depth : Nat) → (onlyDirectories : Bool) → (pattern : String) → List String
  | 0, _, _ => []
  | depth + 1, onlyDirectories, pattern =>
    let (directory, part) := Path.splitLast pattern
    if !isPattern pattern then
      if part.isEmpty then if tree.isDirectory directory then [pattern] else []
      else if tree.isPresent pattern then [pattern]
      else []
    else if directory.isEmpty then tree.matchesIn onlyDirectories part ""
    else
      let directories :=
        if isPattern directory then matchesOf tree depth true directory else [directory]
      directories.flatMap fun directory =>
        (tree.matchesIn onlyDirectories part directory).map (Path.join directory)

/-- The paths that a pattern describes, in ascending order. The working directory itself, which two
stars at the start describe first, has no path. -/
def expandPattern (tree : FileTree) (pattern : String) : List String :=
  let found := tree.matchesOf (pattern.length + 1) false pattern
  sortNames (match found with
    | "" :: rest => if ['*', '*'].isPrefixOf pattern.toList then rest else found
    | _ => found)

/-- The files below a directory: first those in it, then those of its directories in turn. Links to
directories are not followed. -/
def filesBelow (tree : FileTree) : (depth : Nat) → (directory : String) → List String
  | 0, _ => []
  | depth + 1, directory =>
    let paths := (tree.namesIn false directory).map (Path.join directory)
    let files := paths.filter tree.isFile
    let directories := paths.filter fun path => tree.isDirectory path && !tree.isLink path
    files.map Path.normalize ++ directories.flatMap (filesBelow tree depth)

/-- The files of a root path. What a pattern describes may look like a pattern and is expanded in
turn, up to the given depth. -/
def filesFrom (tree : FileTree) : (depth : Nat) → (path : String) → Except Failure (List String)
  | 0, _ => .error .endlessExpansion
  | depth + 1, path =>
    if isPattern path then do
      return (← (tree.expandPattern path).mapM (filesFrom tree depth)).flatten
    else if tree.isFile path then .ok [Path.normalize path]
    else if tree.isDirectory path then .ok (tree.filesBelow (tree.entries.length + 1) path)
    else .ok []

/-- How often what a pattern describes is expanded in turn before it is taken for endless. -/
def expansionLimit : Nat := 900

/-- The files of a root path. -/
def files (tree : FileTree) (path : String) : Except Failure (List String) :=
  tree.filesFrom expansionLimit path

end CodeIndex.FileTree
