import CodeIndex.Text.Quoted

namespace CodeIndex

/-- Why an operation on the file tree failed. -/
inductive FileFault where
  | notFound
  | exists
  | isDirectory
  | notDirectory
  | denied
  | notEmpty
  | linkLoop
  | nameTooLong
  | busy
  deriving DecidableEq, Repr

namespace FileFault

/-- The customary wording of a fault. -/
def message : FileFault → String
  | .notFound => "No such file or directory"
  | .exists => "File exists"
  | .isDirectory => "Is a directory"
  | .notDirectory => "Not a directory"
  | .denied => "Permission denied"
  | .notEmpty => "Directory not empty"
  | .linkLoop => "Too many levels of symbolic links"
  | .nameTooLong => "File name too long"
  | .busy => "Device or resource busy"

end FileFault

/-- What is wrong with one setting. -/
inductive SettingFault where
  | notText
  | notList
  | notBool
  | unreadableBool
  | undecodableText
  | refusedValue
  deriving DecidableEq, Repr

/-- Why an operation of the library fails. -/
inductive Failure where
  /-- A stored record lacks a required field. -/
  | missingField (name : String)
  /-- A value with fields was expected. -/
  | notMapping
  /-- A value with items was expected. -/
  | notIterable
  /-- A value that denotes an integer was expected. -/
  | notNumeric
  /-- A text does not denote an integer. -/
  | malformedInteger
  /-- An infinite number has no integer part. -/
  | infiniteInteger
  /-- A record with an empty name has no last segment. -/
  | emptyName
  /-- The source line of a record is no text. -/
  | lineNotText
  /-- A text is no JSON. -/
  | malformedJson
  /-- An integer is too wide to be stored. -/
  | integerTooWide
  /-- The format tag of a snapshot is no number. -/
  | unreadableFormat (tag : String)
  /-- The format tag of a snapshot is above the present one. -/
  | newerFormat (tag : Nat)
  /-- The named table was never filled. -/
  | noTable (name : String)
  /-- A search pattern does not follow the grammar of patterns. -/
  | malformedPattern
  /-- A repetition in a search pattern is too large. -/
  | repetitionTooLarge
  /-- A number in a search pattern has too many digits. -/
  | repetitionTooLong
  /-- A search pattern asks for ASCII and for Unicode matching. -/
  | flagConflict
  /-- A text is no YAML. -/
  | malformedYaml
  /-- A text names a character by a number that is too large. -/
  | codeTooLarge
  /-- A text that is marked as a truth value is none. -/
  | unknownTruth (text : String)
  /-- A text that is marked as a number has nothing in it. -/
  | emptyNumber
  /-- A text that is marked as a number is none. -/
  | malformedNumber
  /-- A text that is marked as a time is none. -/
  | malformedTime
  /-- There is no such day or time of day. -/
  | impossibleTime
  /-- The settings file is no YAML. -/
  | settingsUnreadable (file : String)
  /-- The settings file holds something else than a mapping. -/
  | settingsNotMapping (file : String)
  /-- The settings file has a key that is no text. -/
  | settingsKeyNotText
  /-- Some settings have values of a wrong kind. Each is named by its path. -/
  | invalidSettings (faults : List (List String × SettingFault))
  /-- The log level has no such name. -/
  | unknownLevel (name : String)
  /-- Bytes that should be text are no UTF-8. -/
  | undecodable
  /-- An operation on a file failed. -/
  | file (path : String) (fault : FileFault)
  /-- There is no export format of such a name. -/
  | unknownExport (format : String)
  /-- A finished snapshot could not be moved into place from its temporary file. -/
  | unsaved (temporary : String) (fault : FileFault)
  /-- The files that a pattern stands for include a pattern that leads back to itself. -/
  | endlessExpansion
  /-- Compressed data has a wrong signature. -/
  | notCompressed (signature : List UInt8)
  /-- Compressed data is of an unknown kind, or its check values do not fit. -/
  | corruptContainer (reason : String)
  /-- Compressed data ends early. -/
  | truncatedData
  /-- Compressed data cannot be decompressed. -/
  | corruptData
  deriving DecidableEq, Repr

namespace Failure

/-- The names of the log levels, as messages list them. -/
def levelNames : String := "DEBUG, INFO, WARNING, ERROR, CRITICAL"

/-- The wording of a failure, as the command line shows it. -/
def message : Failure → String
  | .missingField name => Quoted.text name
  | .unreadableFormat tag => "unknown database format: " ++ Quoted.text tag
  | .newerFormat tag => "unknown database format: " ++ toString tag
  | .noTable name => "no such table: " ++ name
  | .settingsUnreadable settings => "Failed to parse " ++ settings
  | .settingsNotMapping settings => settings ++ " must contain a mapping"
  | .invalidSettings _ => "Invalid configuration"
  | .unknownLevel name =>
    "unknown log level " ++ Quoted.text name ++ " (expected one of: " ++ levelNames ++ ")"
  | .unknownExport format =>
    "unknown export format '" ++ format ++ "' (expected one of: ctags, cscope)"
  | .file path fault => path ++ ": " ++ fault.message
  | .unsaved temporary fault => temporary ++ ": " ++ fault.message
  | .notCompressed signature => ": Not a gzipped file (" ++ Quoted.bytes signature ++ ")"
  | .corruptContainer reason => ": " ++ reason
  | _ => ""

end Failure

end CodeIndex
