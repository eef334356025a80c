import CodeIndex.Json.Value
import CodeIndex.LogLevel
import CodeIndex.Table
import CodeIndex.Yaml.Value

/-! The settings of a project. They are given in a file and on the command line, and checked when
both are put together. -/
namespace CodeIndex

/-- The settings. -/
structure Settings where
  database : String := ".symscope.db"
  paths : List String := []
  excludes : List String := []
  skippedExtractors : List String := []
  reads : Bool := true
  writes : Bool := true
  updates : Bool := true
  showsProgress : Bool := false
  logLevel : LogLevel := .warning
  deriving DecidableEq, Repr

namespace Settings

open Yaml (Value)

/-- The name of the file with the settings. -/
def fileName : String := ".symscope.yaml"

mutual

/-- The value of a JSON value. -/
def ofJson : JsonValue → Value
  | .null => .null
  | .bool value => .bool value
  | .integer value => .integer value
  | .real value => .float value
  | .text value => .text value
  | .list items => .list (ofJsonItems items)
  | .object fields => .mapping (ofJsonFields fields)

/-- The values of JSON values. -/
def ofJsonItems : List JsonValue → List Value
  | [] => []
  | item :: rest => ofJson item :: ofJsonItems rest

/-- The entries of the fields of a JSON object. -/
def ofJsonFields : List (String × JsonValue) → List (Value × Value)
  | [] => []
  | (name, value) :: rest => (.text name, ofJson value) :: ofJsonFields rest

end

/-- The size of a number, if the value is one. Truth values count as zero and one. -/
def number? : Value → Option Binary64
  | .bool value => some (.ofDecimal false (if value then 1 else 0) 0)
  | .integer value => some (.ofDecimal (value < 0) value.natAbs 0)
  | .float value => some value
  | _ => none

mutual

/-- Whether two values are the same. Numbers are compared by size, and the order of the entries of a
mapping does not count. -/
def isSame : Value → Value → Bool
  | .null, .null => true
  | .text a, .text b => a = b
  | .bytes a, .bytes b => a = b
  | .integer a, .integer b => a = b
  | .list a, .list b => areSame a b
  | .mapping a, .mapping b => a.length = b.length && areAmong a b
  | a, b =>
    match number? a, number? b with
    | some x, some y => (x = y && x ≠ .undefined) || (x.isZero && y.isZero)
    | _, _ => false

/-- Whether two lists hold the same values in order. -/
def areSame : List Value → List Value → Bool
  | [], [] => true
  | a :: rest, b :: others => isSame a b && areSame rest others
  | _, _ => false

/-- Whether all of the entries are among others. -/
def areAmong : List (Value × Value) → List (Value × Value) → Bool
  | [], _ => true
  | (key, value) :: rest, entries =>
    (entries.any fun (other, content) => isSame key other && isSame value content)
      && areAmong rest entries

end

/-- Adds an option to the values so far. A list is added to the values that there are, without
those that are among them; anything else replaces them. -/
def addOption (values : Table Value) (name : String) (value : Value) : Table Value :=
  match value, values.get? name with
  | .null, _ => values
  | .list items, some present =>
    let present := match present with
      | .list items => items
      | other => if other.isFilled then [other] else []
    values.insert name (.list (present ++ items.filter fun item => !present.any (isSame item)))
  | value, _ => values.insert name value

/-- What is wrong with some settings, or a value. -/
abbrev Checked := Except (List (List String × SettingFault))

/-- The text of a value. Bytes are text if they are UTF-8. -/
def textOf : Value → Except SettingFault String
  | .text value => .ok value
  | .brokenText => .error .undecodableText
  | .bytes value =>
    match String.fromUTF8? ⟨value.toArray⟩ with
    | some text => .ok text
    | none => .error .undecodableText
  | _ => .error .notText

/-- The truth value of zero or one. -/
def truthOfInteger (value : Int) : Except SettingFault Bool :=
  if value = 0 then .ok false
  else if value = 1 then .ok true
  else .error .unreadableBool

/-- The truth value of a word, whatever the case of its letters. -/
def truthOfText (text : String) : Except SettingFault Bool :=
  let word := String.ofList (text.toList.map Char.toLower)
  if ["0", "off", "f", "false", "n", "no"].contains word then .ok false
  else if ["1", "on", "t", "true", "y", "yes"].contains word then .ok true
  else .error .unreadableBool

/-- The truth value of a value: a word for it, or a number that is zero or one. -/
def truthOf : Value → Except SettingFault Bool
  | .bool value => .ok value
  | .text value => truthOfText value
  | .brokenText => .error .undecodableText
  | .bytes value =>
    match String.fromUTF8? ⟨value.toArray⟩ with
    | some text => truthOfText text
    | none => .error .unreadableBool
  | .integer value =>
    if -0x8000000000000000 ≤ value ∧ value < 0x8000000000000000 then truthOfInteger value
    else .error .notBool
  | .float value =>
    match value.toInt? with
    | some whole =>
      if -0x8000000000000000 ≤ whole ∧ whole < 0x8000000000000000 then truthOfInteger whole
      else .error .notBool
    | none => .error .notBool
  | _ => .error .notBool

/-- The log level that a value names. -/
def levelOf (value : Value) : Except SettingFault LogLevel := do
  match LogLevel.ofText (← textOf value) with
  | .ok level => return level
  | .error _ => throw .refusedValue

/-- A setting of one part, or its default. -/
def single {α : Type} (values : Table Value) (name : String) (default : α)
    (read : Value → Except SettingFault α) : Checked α :=
  match values.get? name with
  | none => .ok default
  | some value => (read value).mapError fun fault => [([name], fault)]

/-- The texts of a list, and what is wrong with those that are none. -/
def textsFrom (name : String) : (index : Nat) → List Value → Checked (List String)
  | _, [] => .ok []
  | index, value :: rest =>
    match textOf value, textsFrom name (index + 1) rest with
    | .ok text, .ok texts => .ok (text :: texts)
    | .ok _, .error faults => .error faults
    | .error fault, .ok _ => .error [([name, toString index], fault)]
    | .error fault, .error faults => .error (([name, toString index], fault) :: faults)

/-- A setting that is a list of texts, or the empty list. -/
def several (values : Table Value) (name : String) : Checked (List String) :=
  match values.get? name with
  | none => .ok []
  | some (.list items) | some (.set items) => textsFrom name 0 items
  | some _ => .error [([name], .notList)]

/-- What is wrong with a setting. -/
def faultsOf {α : Type} : Checked α → List (List String × SettingFault)
  | .ok _ => []
  | .error faults => faults

/-- Checks the values of all settings. Faults are listed in ascending order of their paths. -/
def ofValues (values : Table Value) : Except Failure Settings :=
  let database := single values "db" ".symscope.db" textOf
  let paths := several values "paths"
  let excludes := several values "excludes"
  let skipped := several values "skip_extractors"
  let reads := single values "read" true truthOf
  let writes := single values "write" true truthOf
  let updates := single values "update" true truthOf
  let progress := single values "progress" false truthOf
  let level := single values "log_level" LogLevel.warning levelOf
  let checked : Checked Settings := do
    return ⟨← database, ← paths, ← excludes, ← skipped, ← reads, ← writes, ← updates, ← progress,
      ← level⟩
  match checked with
  | .ok settings => .ok settings
  | .error _ =>
    let faults := faultsOf database ++ faultsOf paths ++ faultsOf excludes ++ faultsOf skipped ++
      faultsOf reads ++ faultsOf writes ++ faultsOf updates ++ faultsOf progress ++ faultsOf level
    .error (.invalidSettings (faults.mergeSort fun a b => decide (List.le a.1 b.1)))

/-- The entries of the settings file at a path. A file without content has none. -/
def entriesOf (path : String) (content : List Char) : Except Failure (List (Value × Value)) := do
  let value ← match Value.ofText content with
    | .error .malformedYaml => throw (.settingsUnreadable path)
    | other => other
  match value with
  | .mapping entries => return entries
  | value => if value.isFilled then throw (.settingsNotMapping path) else return []

/-- The settings of the entries of a file and of options. Keys have to be texts. -/
def ofParts (entries : List (Value × Value)) (options : List (String × Value)) :
    Except Failure Settings := do
  let isTextKey : Value × Value → Bool
    | (.text _, _) | (.brokenText, _) => true
    | _ => false
  unless entries.all isTextKey do throw .settingsKeyNotText
  let named := entries.filterMap fun entry =>
    match entry with
    | (.text name, value) => some (name, value)
    | _ => none
  ofValues (options.foldl (fun values (name, value) => addOption values name value)
    (Table.ofList named))

end Settings

end CodeIndex
