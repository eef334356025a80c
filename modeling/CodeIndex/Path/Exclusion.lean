import CodeIndex.Path.Normal
import CodeIndex.Path.Wildcard

namespace CodeIndex.Path

/-- Whether one pattern excludes a path: it describes the whole path, everything below some path,
or one component of it. The empty pattern excludes nothing. -/
def excludedBy (path : List Char) (pattern : List Char) : Bool :=
  let path := normalizeChars path
  let cleaned := trimEnd (· == '/') (normalizeChars pattern)
  let components := (splitAt '/' path).filter fun component => !component.isEmpty
  !pattern.isEmpty
    && (Wildcard.isMatch cleaned path || Wildcard.isMatch (cleaned ++ ['/', '*']) path
      || components.any (Wildcard.isMatch cleaned))

/-- Whether one of the patterns excludes the path. -/
def isExcluded (path : String) (patterns : List String) : Bool :=
  patterns.any fun pattern => excludedBy path.toList pattern.toList

end CodeIndex.Path
