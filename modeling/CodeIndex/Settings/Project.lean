import CodeIndex.FileTree
import CodeIndex.Settings
import CodeIndex.SourceText

/-! The settings of the project in the working directory. -/
namespace CodeIndex.Settings

open Yaml (Value)

/-- The path of the settings file. -/
def projectFile (tree : FileTree) : String :=
  Path.join (Path.ofComponents true tree.workingDirectory) fileName

/-- The entries of the settings file. If there is none there are no entries. -/
def projectEntries (tree : FileTree) : Except Failure (List (Value × Value)) := do
  let path := projectFile tree
  if ← tree.exists? path then
    let content ← tree.read path
    match String.fromUTF8? ⟨content.toArray⟩ with
    | none => throw .undecodable
    | some text => entriesOf path (unifyLineEnds text.toList)
  else return []

/-- The settings of the project with options. -/
def ofProject (tree : FileTree) (options : List (String × Value)) : Except Failure Settings := do
  ofParts (← projectEntries tree) options

end CodeIndex.Settings
