import CodeIndex.Catalog
import CodeIndex.Command.Arguments
import CodeIndex.Command.Request
import CodeIndex.Command.Run
import CodeIndex.Database
import CodeIndex.Database.Storage
import CodeIndex.Database.Upkeep
import CodeIndex.Export.CrossReference
import CodeIndex.Export.Tags
import CodeIndex.Extract.Extractor
import CodeIndex.Extract.Fact
import CodeIndex.Extract.GoLine
import CodeIndex.Extract.GoScan
import CodeIndex.Extract.GoText
import CodeIndex.Extract.TreeWalk
import CodeIndex.Failure
import CodeIndex.FileTree
import CodeIndex.FileTree.Expansion
import CodeIndex.Grammar.CasePattern
import CodeIndex.Grammar.Expression
import CodeIndex.Grammar.Lexer
import CodeIndex.Grammar.NumberToken
import CodeIndex.Grammar.Parse
import CodeIndex.Grammar.Statement
import CodeIndex.Grammar.StringContent
import CodeIndex.Grammar.Token
import CodeIndex.Grammar.Tree
import CodeIndex.Gzip.Checksum
import CodeIndex.Gzip.Container
import CodeIndex.Gzip.Inflate
import CodeIndex.Json.Display
import CodeIndex.Json.Printer
import CodeIndex.Json.Reader
import CodeIndex.Json.Value
import CodeIndex.LogLevel
import CodeIndex.Main
import CodeIndex.Number.Binary64
import CodeIndex.Number.FloatText
import CodeIndex.Number.IntegerText
import CodeIndex.Number.Shortest
import CodeIndex.Path.Exclusion
import CodeIndex.Path.Normal
import CodeIndex.Path.Parts
import CodeIndex.Path.Wildcard
import CodeIndex.Proofs.ByteLines
import CodeIndex.Proofs.CrossReferenceLayout
import CodeIndex.Proofs.ExcludeOrder
import CodeIndex.Proofs.FileView
import CodeIndex.Proofs.GoBlocks
import CodeIndex.Proofs.GoComments
import CodeIndex.Proofs.GoLiterals
import CodeIndex.Proofs.GoMarks
import CodeIndex.Proofs.GoNesting
import CodeIndex.Proofs.JsonRoundTrip
import CodeIndex.Proofs.LoadOutcome
import CodeIndex.Proofs.NormalPaths
import CodeIndex.Proofs.Persistence
import CodeIndex.Proofs.PhysicalLines
import CodeIndex.Proofs.Reachable
import CodeIndex.Proofs.RequestBatches
import CodeIndex.Proofs.RootVisits
import CodeIndex.Proofs.ScanHistory
import CodeIndex.Proofs.SnapshotNormalForm
import CodeIndex.Proofs.SnapshotRoundTrip
import CodeIndex.Proofs.StableOrder
import CodeIndex.Proofs.StoredForm
import CodeIndex.Proofs.TableLaws
import CodeIndex.Proofs.UpdateRebuild
import CodeIndex.Proofs.UpdateSettles
import CodeIndex.Proofs.UpkeepResults
import CodeIndex.Proofs.WalkOrder
import CodeIndex.Record
import CodeIndex.Search.Matcher
import CodeIndex.Search.Pattern
import CodeIndex.Search.Ranking
import CodeIndex.Search.Reader
import CodeIndex.Settings
import CodeIndex.Settings.Project
import CodeIndex.Snapshot
import CodeIndex.SourceText
import CodeIndex.Table
import CodeIndex.Text.Blank
import CodeIndex.Text.CaseFamily
import CodeIndex.Text.CharMap
import CodeIndex.Text.CharName
import CodeIndex.Text.CharName.Names1
import CodeIndex.Text.CharName.Names2
import CodeIndex.Text.CharName.Words
import CodeIndex.Text.CharRanges
import CodeIndex.Text.Digit
import CodeIndex.Text.Identifier
import CodeIndex.Text.LetterCase
import CodeIndex.Text.NormalForm
import CodeIndex.Text.Printable
import CodeIndex.Text.Quoted
import CodeIndex.Text.Trim
import CodeIndex.Text.Utf8
import CodeIndex.Text.Word
import CodeIndex.Yaml.Base64
import CodeIndex.Yaml.Cursor
import CodeIndex.Yaml.Kind
import CodeIndex.Yaml.Layout
import CodeIndex.Yaml.Node
import CodeIndex.Yaml.ScalarText
import CodeIndex.Yaml.Token
import CodeIndex.Yaml.Value
import CodeIndex.Proofs.CommandEffects
import CodeIndex.Proofs.BrokenOutNames
import CodeIndex.Proofs.DefinitionMarks
import CodeIndex.Proofs.TagLines
import CodeIndex.Proofs.RankingLevels
import CodeIndex.Proofs.LiteralSearch
import CodeIndex.Proofs.KeyFaults
import CodeIndex.Proofs.GoGrounding
import CodeIndex.Proofs.GoLayout
import CodeIndex.Proofs.WildcardParts
import CodeIndex.Proofs.ExclusionBelow
import CodeIndex.Proofs.DescribedPaths
import CodeIndex.Proofs.RootExpansion
import CodeIndex.Proofs.ComponentPatterns
import CodeIndex.Proofs.RootRemoval
import CodeIndex.Proofs.GoNameLists
import CodeIndex.Proofs.PathLocation
import CodeIndex.Proofs.LiteralExclusion
import CodeIndex.Proofs.AssignmentTargets
import CodeIndex.Proofs.LegacyRoots
import CodeIndex.Proofs.CallSites
import CodeIndex.Proofs.LiteralBlanking
