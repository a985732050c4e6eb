import SchemaGen.Assoc
import SchemaGen.CommandLine.Arguments
import SchemaGen.CommandLine.Command
import SchemaGen.CommandLine.Similarity
import SchemaGen.Config.Basic
import SchemaGen.Config.Error
import SchemaGen.Config.Loading
import SchemaGen.Config.Toml
import SchemaGen.Decimal.Shortest
import SchemaGen.Descriptor
import SchemaGen.Discovery
import SchemaGen.Document
import SchemaGen.Event
import SchemaGen.Exclusion.Pattern
import SchemaGen.Exclusion.Rule
import SchemaGen.Exclusion.RuleFiles
import SchemaGen.Exclusion.Visibility
import SchemaGen.FileSystem.Access
import SchemaGen.FileSystem.Basic
import SchemaGen.Import
import SchemaGen.Json.Decoding
import SchemaGen.Json.Error
import SchemaGen.Json.Literal
import SchemaGen.Json.Node
import SchemaGen.Json.Numeral
import SchemaGen.Json.Token
import SchemaGen.LogFilter
import SchemaGen.Main
import SchemaGen.Manifest.Json
import SchemaGen.Manifest.Loading
import SchemaGen.Manifest.Toml
import SchemaGen.Mode
import SchemaGen.NameStyle
import SchemaGen.Options
import SchemaGen.OutputFolder
import SchemaGen.Pass
import SchemaGen.Path
import SchemaGen.PathPattern
import SchemaGen.Proofs.AddedOverrides
import SchemaGen.Proofs.BoundNames
import SchemaGen.Proofs.ByteOrder
import SchemaGen.Proofs.Classification
import SchemaGen.Proofs.ConfiguredElements
import SchemaGen.Proofs.DeclaredTypes
import SchemaGen.Proofs.DecodedKeys
import SchemaGen.Proofs.DirectoryTrees
import SchemaGen.Proofs.DirectoryWalks
import SchemaGen.Proofs.DiscoveredManifests
import SchemaGen.Proofs.DocumentLayout
import SchemaGen.Proofs.EarliestFaults
import SchemaGen.Proofs.Effect
import SchemaGen.Proofs.ElementTypes
import SchemaGen.Proofs.FailedLoads
import SchemaGen.Proofs.FileAccess
import SchemaGen.Proofs.FileChanges
import SchemaGen.Proofs.FileGrowth
import SchemaGen.Proofs.FoldedTexts
import SchemaGen.Proofs.FolderCalls
import SchemaGen.Proofs.FolderGrowth
import SchemaGen.Proofs.FolderNames
import SchemaGen.Proofs.Identifiers
import SchemaGen.Proofs.ImportHistories
import SchemaGen.Proofs.ImportSources
import SchemaGen.Proofs.JsonOutlines
import SchemaGen.Proofs.JsonSpellings
import SchemaGen.Proofs.JsonTexts
import SchemaGen.Proofs.LinkedModules
import SchemaGen.Proofs.LoadedManifests
import SchemaGen.Proofs.ManifestEndings
import SchemaGen.Proofs.ManifestFormats
import SchemaGen.Proofs.ManifestOutlines
import SchemaGen.Proofs.ManifestSearch
import SchemaGen.Proofs.ManifestSources
import SchemaGen.Proofs.MappedFields
import SchemaGen.Proofs.MemoryPasses
import SchemaGen.Proofs.ModuleNames
import SchemaGen.Proofs.ModulePlaces
import SchemaGen.Proofs.ModuleStorage
import SchemaGen.Proofs.NeededImports
import SchemaGen.Proofs.OverlookedModules
import SchemaGen.Proofs.OverridePrecedence
import SchemaGen.Proofs.OverwrittenModules
import SchemaGen.Proofs.PassEvents
import SchemaGen.Proofs.PathPieces
import SchemaGen.Proofs.PropertyNames
import SchemaGen.Proofs.QuotedKeys
import SchemaGen.Proofs.ReferredTypes
import SchemaGen.Proofs.ResolutionByDepth
import SchemaGen.Proofs.Results
import SchemaGen.Proofs.RunEffect
import SchemaGen.Proofs.RunModes
import SchemaGen.Proofs.RunOutputs
import SchemaGen.Proofs.Signatures
import SchemaGen.Proofs.SinkPasses
import SchemaGen.Proofs.SourceLiterals
import SchemaGen.Proofs.StoredPrefixes
import SchemaGen.Proofs.TextCuts
import SchemaGen.Proofs.TomlOutlines
import SchemaGen.Proofs.TomlTables
import SchemaGen.Proofs.TomlTexts
import SchemaGen.Proofs.TrimmedTexts
import SchemaGen.Proofs.TypeArguments
import SchemaGen.Proofs.TypeExpressions
import SchemaGen.Proofs.TypeSpellings
import SchemaGen.Proofs.UsableNames
import SchemaGen.Resolution
import SchemaGen.Run
import SchemaGen.Session
import SchemaGen.Shape
import SchemaGen.SharedValidators
import SchemaGen.Text.Basic
import SchemaGen.Text.Blank
import SchemaGen.Text.Boundaries
import SchemaGen.Text.Case
import SchemaGen.Text.CaseTable
import SchemaGen.Text.CharClass
import SchemaGen.Text.ClassTable
import SchemaGen.Text.Cluster
import SchemaGen.Text.ClusterTable
import SchemaGen.Text.Hex
import SchemaGen.Text.Lowered
import SchemaGen.Text.Quoted
import SchemaGen.Text.Shown
import SchemaGen.Toml.Decoding
import SchemaGen.Toml.Document
import SchemaGen.Toml.Literal
import SchemaGen.Toml.Moment
import SchemaGen.Toml.Scalar
import SchemaGen.Toml.Statement
import SchemaGen.Toml.Token
import SchemaGen.Toml.Value
import SchemaGen.TypeError
import SchemaGen.TypeName
import SchemaGen.Walker
