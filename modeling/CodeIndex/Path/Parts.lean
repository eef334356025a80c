import CodeIndex.Text.Trim

/-! Taking paths apart and putting them together, without a look at the files. -/
namespace CodeIndex.Path

/-- Whether a path starts at the root. -/
def isAbsolute (path : String) : Bool := path.toList.head? = some '/'

/-- The components of a path as it is written. There is an empty one before a slash at the start,
after one at the end, and between two. -/
def components (path : String) : List String := (splitAt '/' path.toList).map String.ofList

/-- The path of a name in a directory. A name that starts at the root stands for itself. -/
def join (directory name : String) : String :=
  if isAbsolute name then name
  else if directory.isEmpty || directory.toList.getLast? = some '/' then directory ++ name
  else directory ++ "/" ++ name

/-- The part of a path up to its last slash and the part after it. Slashes at the end of the first
part are left out unless it has nothing else. -/
def splitLast (path : String) : String × String :=
  let chars := path.toList
  let last := (chars.reverse.takeWhile (· ≠ '/')).reverse
  let head := chars.take (chars.length - last.length)
  let trimmed := trimEnd (· == '/') head
  (String.ofList (if trimmed.isEmpty then head else trimmed), String.ofList last)

/-- The components that count: neither empty nor a reference to the present directory. -/
def properComponents (path : String) : List String :=
  (components path).filter fun component => component ≠ "" && component ≠ "."

/-- The path of components, from the root or from the present directory. -/
def ofComponents (absolute : Bool) (components : List String) : String :=
  let path := "/".intercalate components
  if absolute then "/" ++ path
  else if components.isEmpty then "."
  else path

/-- The path without empty components and references to the present directory. -/
def simplify (path : String) : String := ofComponents (isAbsolute path) (properComponents path)

/-- The path from the root on, if relative paths start at the given components. What it refers to as
the directory above is left out as it is written, without a look at links. -/
def absolute (start : List String) (path : String) : String :=
  let ascend (place : List String) (component : String) : List String :=
    if component = ".." then place.dropLast else place ++ [component]
  ofComponents true ((properComponents path).foldl ascend (if isAbsolute path then [] else start))

/-- The directory of a path. -/
def parent (path : String) : String :=
  ofComponents (isAbsolute path) (properComponents path).dropLast

/-- The last component of a path. -/
def fileName (path : String) : String := (properComponents path).getLast?.getD ""

end CodeIndex.Path
