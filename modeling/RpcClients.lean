import RpcClients.Client.Generate
import RpcClients.Client.Provider
import RpcClients.Client.Wrapper
import RpcClients.Command.Arguments
import RpcClients.Command.Report
import RpcClients.Command.Run
import RpcClients.Entries
import RpcClients.Failure
import RpcClients.FileTree
import RpcClients.GenerationUnit
import RpcClients.Json.Basic
import RpcClients.Json.Parser
import RpcClients.Json.Printer
import RpcClients.Layout
import RpcClients.Logging
import RpcClients.Main
import RpcClients.Model
import RpcClients.Naming
import RpcClients.Options
import RpcClients.Plugin
import RpcClients.Proto.Comment
import RpcClients.Proto.Declaration
import RpcClients.Proto.Describe
import RpcClients.Proto.Literal
import RpcClients.Proto.Parser
import RpcClients.Proto.Token
import RpcClients.Schema.Descriptor
import RpcClients.Schema.Level
import RpcClients.Schema.Load
import RpcClients.Schema.Symbol
import RpcClients.Schema.WellKnown
import RpcClients.Source.Artifact
import RpcClients.Source.Imports
import RpcClients.Source.Indentation
import RpcClients.Source.Parameter
import RpcClients.Text.Blank
import RpcClients.Text.CellWidth
import RpcClients.Text.CharacterName
import RpcClients.Text.CodePoint
import RpcClients.Text.CodeRange
import RpcClients.Text.Letter
import RpcClients.Text.LetterCase
import RpcClients.Text.Name.Addition
import RpcClients.Text.Name.Ancient
import RpcClients.Text.Name.Asian
import RpcClients.Text.Name.Block
import RpcClients.Text.Name.Brahmic
import RpcClients.Text.Name.Component
import RpcClients.Text.Name.Composed
import RpcClients.Text.Name.Cuneiform
import RpcClients.Text.Name.Eastern
import RpcClients.Text.Name.European
import RpcClients.Text.Name.Frequent
import RpcClients.Text.Name.Further
import RpcClients.Text.Name.Graphic
import RpcClients.Text.Name.Hieroglyphic
import RpcClients.Text.Name.Indian
import RpcClients.Text.Name.Pictorial
import RpcClients.Text.Name.Styled
import RpcClients.Text.Name.Syllabic
import RpcClients.Text.Name.Symbolic
import RpcClients.Text.Printable
import RpcClients.Text.Quoted
import RpcClients.Text.Shortest
import RpcClients.Text.Similar
import RpcClients.Text.SlashPath
import RpcClients.Text.Split
import RpcClients.Text.Terminal
import RpcClients.Wire.Basic
import RpcClients.Wire.Request
import RpcClients.Workspace
import RpcClients.Proofs.FirstFree
import RpcClients.Proofs.GoName
import RpcClients.Proofs.ImportRun
import RpcClients.Proofs.Flattening
import RpcClients.Proofs.ParameterNames
import RpcClients.Proofs.GoText
import RpcClients.Proofs.WrapperText
import RpcClients.Proofs.WrittenFiles
import RpcClients.Proofs.FileText
import RpcClients.Proofs.Generation
import RpcClients.Proofs.AliasChoice
import RpcClients.Proofs.CamelCase
import RpcClients.Proofs.EmittedMethods
import RpcClients.Proofs.ProviderText
import RpcClients.Proofs.FinishedTable
import RpcClients.Proofs.LoadedNames
import RpcClients.Proofs.PackageCoherence
import RpcClients.Proofs.FactoryScope
import RpcClients.Proofs.MethodScope
import RpcClients.Proofs.References
import RpcClients.Proofs.PrintedReferences
import RpcClients.Proofs.UsedImports
import RpcClients.Proofs.UnitPartition
import RpcClients.Proofs.ReportedFailures
import RpcClients.Proofs.UnitValidity
import RpcClients.Proofs.SuccessCondition
import RpcClients.Proofs.SoundDescriptors
import RpcClients.Proofs.LoadingFailures
import RpcClients.Proofs.LinkedDescriptors
import RpcClients.Proofs.Filler
import RpcClients.Proofs.RelatedReaders
import RpcClients.Proofs.TokenEnds
import RpcClients.Proofs.FillerInsertion
import RpcClients.Proofs.LexemeReading
import RpcClients.Proofs.OutlineReading
import RpcClients.Proofs.RoundTrip
import RpcClients.Proofs.LoggedSteps
import RpcClients.Proofs.ImportSearch
import RpcClients.Proofs.InputFiles
import RpcClients.Proofs.ImportClosure
import RpcClients.Proofs.KeptInputs
import RpcClients.Proofs.LoadedPackages
import RpcClients.Proofs.ArtifactPlaces
import RpcClients.Proofs.LinePlaces
import RpcClients.Proofs.BlockLayout
import RpcClients.Proofs.LoadingOrder
import RpcClients.Proofs.ScannedText
import RpcClients.Proofs.DeclaredLines
import RpcClients.Proofs.LeadingComments
import RpcClients.Proofs.CommentLines
import RpcClients.Proofs.ReservedNames
import RpcClients.Proofs.ProviderOrder
import RpcClients.Proofs.StableIndentation
import RpcClients.Proofs.FactoryBlocks
import RpcClients.Proofs.UnitOrder
import RpcClients.Proofs.InputOrder
import RpcClients.Proofs.FaithfulReferences
import RpcClients.Proofs.Scoping
import RpcClients.Proofs.UnrelatedFiles
import RpcClients.Proofs.SourceProblems
import RpcClients.Proofs.RefusedSources
import RpcClients.Proofs.UnitFiles
import RpcClients.Proofs.DottedNames
import RpcClients.Proofs.ZeroValues
import RpcClients.Proofs.LoadedMessages
import RpcClients.Proofs.DeclaredMessages
import RpcClients.Proofs.MapFields
import RpcClients.Proofs.ParameterLayers
import RpcClients.Proofs.UsableAliases
import RpcClients.Proofs.SeparateOutputs
import RpcClients.Proofs.CollapsedNames
import RpcClients.Proofs.ParameterText
import RpcClients.Proofs.StableNames
import RpcClients.Proofs.FileRun
