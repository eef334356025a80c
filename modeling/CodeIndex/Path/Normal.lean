import CodeIndex.Text.Trim

namespace CodeIndex.Path

/-- Leaves out the references to the present directory at the start. -/
def dropDots : List Char → List Char
  | '.' :: '/' :: rest => dropDots rest
  | path => path

/-- The path with forward slashes and without references to the present directory at its start.
The present directory itself is a single dot. -/
def normalizeChars (path : List Char) : List Char :=
  let slashed := path.map fun c => if c = '\\' then '/' else c
  match dropDots slashed with
  | [] => ['.']
  | rest => rest

@[inherit_doc normalizeChars]
def normalize (path : String) : String := String.ofList (normalizeChars path.toList)

end CodeIndex.Path
