import CodeIndex.Command.Request
import CodeIndex.Database.Storage
import CodeIndex.Settings.Project

/-! Running a command line on a file tree. -/
namespace CodeIndex.Command

/-- How a command ended. -/
inductive Ending where
  | done
  /-- The command line makes no sense. -/
  | misused
  /-- A failure was reported to the user. -/
  | reported (failure : Failure)
  /-- The command broke off at the early end of its data. -/
  | aborted
  /-- The shell cannot do what was asked for, as the output says. -/
  | unsupported
  /-- A failure that no command expects. -/
  | escaped (failure : Failure)
  deriving DecidableEq, Repr

/-- What a command printed, and how it ended. -/
structure Outcome where
  output : String := ""
  ending : Ending := .done
  deriving DecidableEq, Repr

/-- The completion of command lines by the shell. It depends on the shell and not on the index: what
sets it up, and the script that the shell runs. -/
structure Completion where
  install : FileTree → FileTree × Outcome
  script : Outcome

/-- The completion of a shell that is not known. -/
def Completion.ofUnknownShell : Completion :=
  let refusal : Outcome := { output := "The shell is not supported.\n", ending := .unsupported }
  { install := fun tree => (tree, refusal), script := refusal }

/-- Adds a line to a file unless the file has it already. Either way the file ends with a line break
more. -/
def addLine (tree : FileTree) (path line : String) : Except Failure FileTree := do
  let content ← if tree.isFile path then tree.read path else pure []
  let added := Utf8.encode line
  let isThere := (List.range content.length).any fun start => added.isPrefixOf (content.drop start)
  tree.write path ((if isThere then content else content ++ 10 :: added) ++ [10])

/-- The start file of bash in a home directory. -/
def bashStart (home : String) : String := home ++ "/.bashrc"

/-- The script for the completion in bash. -/
def bashScript (home : String) : String := home ++ "/.bash_completions/symscope.sh"

/-- Makes bash complete command lines: its start file is to read a script, which is put into a
directory beside it. -/
def installInBash (home script : String) (tree : FileTree) : FileTree × Except Failure Unit :=
  match tree.makeDirectories home with
  | (tree, .error failure) => (tree, .error failure)
  | (tree, .ok ()) =>
    match addLine tree (bashStart home) ("source '" ++ bashScript home ++ "'") with
    | .error failure => (tree, .error failure)
    | .ok tree =>
      match tree.makeDirectories (Path.parent (bashScript home)) with
      | (tree, .error failure) => (tree, .error failure)
      | (tree, .ok ()) =>
        match tree.write (bashScript home) (Utf8.encode script) with
        | .error failure => (tree, .error failure)
        | .ok tree => (tree, .ok ())

/-- The completion of bash, with the script that it runs. -/
def Completion.ofBash (home script : String) : Completion where
  install tree :=
    match installInBash home script tree with
    | (tree, .error failure) => (tree, { ending := .escaped failure })
    | (tree, .ok ()) =>
      (tree, { output := "bash completion installed in " ++ bashScript home ++ "\n" ++
        "Completion will take effect once you restart the terminal\n" })
  script := { output := script ++ "\n" }

/-- The exit code. -/
def Ending.exitCode : Ending → Nat
  | .done => 0
  | .misused => 2
  | _ => 1

/-- Whether a failure is one of the index or its settings, which have a message for the user. -/
def isExplained : Failure → Bool
  | .noTable _ | .unreadableFormat _ | .newerFormat _ | .settingsUnreadable _
  | .settingsNotMapping _ | .invalidSettings _ | .unknownExport _ => true
  | _ => false

/-- Whether a failure is one of files. -/
def isFileFailure : Failure → Bool
  | .file _ _ | .unsaved _ _ | .notCompressed _ | .corruptContainer _ => true
  | _ => false

/-- How a command ends with a failure that is reported only if it is of some kinds. -/
def endingOf (isReported : Failure → Bool) (failure : Failure) : Ending :=
  if isReported failure then .reported failure
  else if failure = .truncatedData then .aborted
  else .escaped failure

/-- How a command ends with a failure while settings are read. -/
def settingsEnding : Failure → Ending := endingOf isExplained

/-- How a command ends with a failure while it works on the index. -/
def workEnding : Failure → Ending :=
  endingOf fun failure => isExplained failure || isFileFailure failure

/-- Loads the database and brings it up to date: more excludes, more root paths, and changes of
tracked files. Without a database and root paths all files of the working directory are taken. -/
def openDatabase (settings : Settings) (tree : FileTree) (paths : List String) :
    Except Failure Database := do
  let extractors := Extractor.available settings.skippedExtractors
  let file := Path.simplify settings.database
  let requested := settings.paths ++ paths
  let isLoaded ← if settings.reads then tree.exists? file else pure false
  let database ← if isLoaded then do
      let change := Database.load extractors tree {} file
      change.result
      pure change.database
    else pure {}
  let database := (database.addExcludes settings.excludes).1
  let requested := if !isLoaded && requested.isEmpty then ["."] else requested
  let added := database.addPaths extractors tree requested
  let _ ← added.result
  if isLoaded && settings.updates then
    let change := added.database.update extractors tree
    let _ ← change.result
    return change.database
  else return added.database

/-- A line of output. -/
def lineOf (text : String) : String := text ++ "\n"

/-- A number of records with the name of its table before it in a column of ten characters. -/
def summaryLine (entry : String × Nat) : String :=
  let padding := String.ofList (List.replicate (10 - entry.1.length) ' ')
  lineOf (entry.1 ++ padding ++ " " ++ toString entry.2)

/-- Prints records up to the first one that cannot be shown. -/
def printRecords : List Record → String × Option Failure
  | [] => ("", none)
  | record :: rest =>
    match record.describe with
    | .error failure => ("", some failure)
    | .ok line =>
      let (others, failure) := printRecords rest
      (lineOf line ++ others, failure)

/-- The lines of a result, or its failure. -/
def printLines : Except Failure (List String) → String × Option Failure
  | .ok lines => (String.join (lines.map lineOf), none)
  | .error failure => ("", some failure)

/-- The default output file of an export format. -/
def exportFile? : String → Option String
  | "ctags" => some "tags"
  | "cscope" => some "cscope.out"
  | _ => none

/-- Exports a database in a format. -/
def exportTo (format : String) (database : Database) (tree : FileTree) (path : String) :
    Except Failure FileTree :=
  if format = "ctags" then database.exportTags tree path
  else database.exportCrossReference tree path

/-- What an action does with an open database: the tree after it, its output, and why it failed. -/
def perform (action : Action) (database : Database) (tree : FileTree) :
    FileTree × String × Option Failure :=
  match action with
  | .scan _ | .help => (tree, "", none)
  | .query table key =>
    match database.query table key with
    | .ok records => (tree, printRecords records)
    | .error failure => (tree, "", some failure)
  | .dump table =>
    match table.filter fun table => table ≠ "" with
    | some table => (tree, printLines (database.dumpTable table))
    | none => (tree, printLines database.dumpAll)
  | .summary => (tree, String.join (database.summary.map summaryLine), none)
  | .exports format output =>
    match exportTo format database tree (output.getD ((exportFile? format).getD "")) with
    | .ok tree => (tree, "", none)
    | .error failure => (tree, "", some failure)

/-- Runs an action with an open database, which is saved if all went well. -/
def runOpened (settings : Settings) (tree : FileTree) (action : Action) (database : Database) :
    FileTree × Outcome :=
  match perform action database tree with
  | (tree, output, some failure) => (tree, ⟨output, workEnding failure⟩)
  | (tree, output, none) =>
    if settings.writes then
      match database.save tree settings.database with
      | (tree, .ok ()) => (tree, ⟨output, .done⟩)
      | (tree, .error failure) => (tree, ⟨output, workEnding failure⟩)
    else (tree, ⟨output, .done⟩)

/-- The root paths that an action adds. -/
def Action.paths : Action → List String
  | .scan paths => paths
  | _ => []

/-- Opens the database and runs an action with it. -/
def runAction (settings : Settings) (tree : FileTree) (action : Action) : FileTree × Outcome :=
  match openDatabase settings tree action.paths with
  | .error failure => (tree, { ending := workEnding failure })
  | .ok database => runOpened settings tree action database

/-- What the command line can do. -/
def helpText : String :=
  "Usage: symscope [OPTIONS] COMMAND [ARGS]...\n\n" ++
  "  Index source trees into a queryable database of symbol facts.\n\n" ++
  "Commands:\n" ++
  "  scan [PATHS]...            Add paths to the database and bring it up to date.\n" ++
  "  query TABLE KEY            Print the records best matching a key.\n" ++
  "  dump [TABLE]               Print every record of one or all tables.\n" ++
  "  summary                    Print record counts per table.\n" ++
  "  export FORMAT [-o FILE]    Write the database as ctags or cscope file.\n\n" ++
  "Options:\n" ++
  "  --db FILE  --read/--no-read  --write/--no-write  --update/--no-update\n" ++
  "  -x, --exclude PATTERN  --skip-extractor NAME  --progress/--no-progress\n" ++
  "  --log-level LEVEL  --install-completion  --show-completion  --help\n"

/-- Runs an action. An export in an unknown format fails before anything is read. -/
def runChecked (settings : Settings) (tree : FileTree) (action : Action) : FileTree × Outcome :=
  match action with
  | .help => (tree, { output := helpText })
  | .exports format _ =>
    if (exportFile? format).isNone then
      (tree, { ending := .reported (.unknownExport format) })
    else runAction settings tree action
  | _ => runAction settings tree action

/-- Runs a command line on a file tree. The options and the name of the command come first, then the
settings, and then the words after the name. A command line that asks about completion runs no
command. -/
def run (tree : FileTree) (words : List String)
    (completion : Completion := .ofUnknownShell) : FileTree × Outcome :=
  match readWords CommonOptions.rules false words {} with
  | none => (tree, { ending := .misused })
  | some (options, words) =>
    if options.help then (tree, { output := helpText })
    else match options.completion, words with
      | some .install, _ => completion.install tree
      | some .script, _ => (tree, completion.script)
      | none, [] => (tree, { ending := .misused })
      | none, word :: words =>
        match CommandName.ofText? word with
        | none => (tree, { ending := .misused })
        | some name =>
          match Settings.ofProject tree options.toValues with
          | .error failure => (tree, { ending := settingsEnding failure })
          | .ok settings =>
            match name.action? words with
            | none => (tree, { ending := .misused })
            | some action => runChecked settings tree action

end CodeIndex.Command
