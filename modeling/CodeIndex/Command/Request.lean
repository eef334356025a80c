import CodeIndex.Command.Arguments
import CodeIndex.Settings

/-! What a command line asks for. -/
namespace CodeIndex.Command

/-- What can be asked about the completion of command lines by the shell, in place of a command. -/
inductive CompletionRequest where
  | install
  | script
  deriving DecidableEq, Repr

/-- The options before the name of a command. -/
structure CommonOptions where
  database : Option String := none
  reads : Option Bool := none
  writes : Option Bool := none
  updates : Option Bool := none
  excludes : List String := []
  skipped : List String := []
  showsProgress : Option Bool := none
  logLevel : Option String := none
  completion : Option CompletionRequest := none
  help : Bool := false
  deriving Repr

namespace CommonOptions

/-- Asks about completion. What was asked first counts. -/
def asking (request : CompletionRequest) (options : CommonOptions) : CommonOptions :=
  { options with completion := options.completion.or (some request) }

/-- The rules of these options. -/
def rules : OptionRules CommonOptions :=
  [("--db", .value fun value options => { options with database := some value }),
    ("--read", .flag fun options => { options with reads := some true }),
    ("--no-read", .flag fun options => { options with reads := some false }),
    ("--write", .flag fun options => { options with writes := some true }),
    ("--no-write", .flag fun options => { options with writes := some false }),
    ("--update", .flag fun options => { options with updates := some true }),
    ("--no-update", .flag fun options => { options with updates := some false }),
    ("--exclude", .value fun value options =>
      { options with excludes := options.excludes ++ [value] }),
    ("-x", .value fun value options => { options with excludes := options.excludes ++ [value] }),
    ("--skip-extractor", .value fun value options =>
      { options with skipped := options.skipped ++ [value] }),
    ("--progress", .flag fun options => { options with showsProgress := some true }),
    ("--no-progress", .flag fun options => { options with showsProgress := some false }),
    ("--log-level", .value fun value options => { options with logLevel := some value }),
    ("--install-completion", .flag (asking .install)),
    ("--show-completion", .flag (asking .script)),
    ("--help", .flag fun options => { options with help := true })]

/-- The options as values of settings. An option that is not given stands for nothing. -/
def toValues (options : CommonOptions) : List (String × Yaml.Value) :=
  let text (value : Option String) : Yaml.Value := (value.map .text).getD .null
  let truth (value : Option Bool) : Yaml.Value := (value.map .bool).getD .null
  let texts (values : List String) : Yaml.Value :=
    if values.isEmpty then .null else .list (values.map .text)
  [("db", text options.database), ("read", truth options.reads), ("write", truth options.writes),
    ("update", truth options.updates), ("excludes", texts options.excludes),
    ("skip_extractors", texts options.skipped), ("progress", truth options.showsProgress),
    ("log_level", text options.logLevel)]

end CommonOptions

/-- The names of the commands. -/
inductive CommandName where
  | scan
  | query
  | dump
  | summary
  | exports
  deriving DecidableEq, Repr

/-- The command of a name. -/
def CommandName.ofText? : String → Option CommandName
  | "scan" => some .scan
  | "query" => some .query
  | "dump" => some .dump
  | "summary" => some .summary
  | "export" => some .exports
  | _ => none

/-- What a command is to do. -/
inductive Action where
  | scan (paths : List String)
  | query (table key : String)
  | dump (table : Option String)
  | summary
  | exports (format : String) (output : Option String)
  | help
  deriving DecidableEq, Repr

/-- The options after the name of a command. -/
structure OwnOptions where
  output : Option String := none
  help : Bool := false

/-- The rules of the options after the name of a command. -/
def CommandName.rules (name : CommandName) : OptionRules OwnOptions :=
  let output : OptionRule OwnOptions := .value fun value options =>
    { options with output := some value }
  ("--help", .flag fun options => { options with help := true }) ::
    if name = .exports then [("--output", output), ("-o", output)] else []

/-- Reads the words after the name of a command. There is no result if there are too few or too many
of them. -/
def CommandName.action? (name : CommandName) (words : List String) : Option Action := do
  let (options, words) ← readWords name.rules true words {}
  if options.help then return .help
  match name, words with
  | .scan, paths => return .scan paths
  | .query, [table, key] => return .query table key
  | .dump, [] => return .dump none
  | .dump, [table] => return .dump (some table)
  | .summary, [] => return .summary
  | .exports, [format] => return .exports format options.output
  | _, _ => none

end CodeIndex.Command
