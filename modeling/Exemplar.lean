import Exemplar.Binary64.Basic
import Exemplar.Binary64.Rounding
import Exemplar.Binary64.Shortest
import Exemplar.Binary64.Text
import Exemplar.CommandLine.Arguments
import Exemplar.CommandLine.ControlSequence
import Exemplar.CommandLine.FileTree
import Exemplar.CommandLine.Path
import Exemplar.CommandLine.Run
import Exemplar.CommandLine.Surroundings
import Exemplar.Emission
import Exemplar.Emission.Dart
import Exemplar.Emission.Kotlin
import Exemplar.Emission.TypeScript
import Exemplar.Error
import Exemplar.FileName
import Exemplar.Generation
import Exemplar.Json.Basic
import Exemplar.Json.Display
import Exemplar.Json.NumberLiteral
import Exemplar.Json.Parser
import Exemplar.Json.Quoted
import Exemplar.Json.Scanned
import Exemplar.Json.StringLiteral
import Exemplar.Json.SyntaxError
import Exemplar.Language
import Exemplar.Main
import Exemplar.Model.Basic
import Exemplar.Model.Extraction
import Exemplar.Model.NameSet
import Exemplar.Model.Sample
import Exemplar.Naming
import Exemplar.Notice
import Exemplar.Options
import Exemplar.Rendering
import Exemplar.Rendering.Basic
import Exemplar.Rendering.Dart
import Exemplar.Rendering.Kotlin
import Exemplar.Rendering.Template
import Exemplar.Rendering.TypeScript
import Exemplar.Session
import Exemplar.Shape.Basic
import Exemplar.Shape.Inference
import Exemplar.Source.Dart
import Exemplar.Source.Dialect
import Exemplar.Source.FieldType
import Exemplar.Source.Kotlin
import Exemplar.Source.Literal
import Exemplar.Source.TypeScript
import Exemplar.Unicode.Alphanumeric
import Exemplar.Unicode.Blank
import Exemplar.Unicode.CaseContext
import Exemplar.Unicode.CaseMapping
import Exemplar.Unicode.Casing
import Exemplar.Unicode.CodePointSet
import Exemplar.Unicode.Digit
import Exemplar.Unicode.Hexadecimal
import Exemplar.Unicode.LowerMapping
import Exemplar.Unicode.Printable
import Exemplar.Unicode.UpperMapping
import Exemplar.Unicode.Uppercase
import Exemplar.Proofs.AbsorbedSamples
import Exemplar.Proofs.AcceptedArguments
import Exemplar.Proofs.CapitalNames
import Exemplar.Proofs.ChildPaths
import Exemplar.Proofs.ClassLines
import Exemplar.Proofs.CoherentModels
import Exemplar.Proofs.CollectedNames
import Exemplar.Proofs.CommandOutcome
import Exemplar.Proofs.CompleteModels
import Exemplar.Proofs.ConstructorParameters
import Exemplar.Proofs.DartExpressions
import Exemplar.Proofs.DartOutline
import Exemplar.Proofs.DefaultInstances
import Exemplar.Proofs.Description
import Exemplar.Proofs.DirectoryTargets
import Exemplar.Proofs.DistinctNames
import Exemplar.Proofs.DistinctTypes
import Exemplar.Proofs.Document
import Exemplar.Proofs.ExtractedModels
import Exemplar.Proofs.FieldDeclarations
import Exemplar.Proofs.FileNames
import Exemplar.Proofs.GenerationOutcome
import Exemplar.Proofs.InitialValues
import Exemplar.Proofs.KeyRecovery
import Exemplar.Proofs.KotlinOutline
import Exemplar.Proofs.LegibleTypes
import Exemplar.Proofs.Likeness
import Exemplar.Proofs.ListLevels
import Exemplar.Proofs.ListReads
import Exemplar.Proofs.MergedModel
import Exemplar.Proofs.ModelLookups
import Exemplar.Proofs.ModelReferences
import Exemplar.Proofs.NormalizedStyles
import Exemplar.Proofs.NullSafety
import Exemplar.Proofs.Nullability
import Exemplar.Proofs.ObservedNulls
import Exemplar.Proofs.OneLineLiterals
import Exemplar.Proofs.Outline
import Exemplar.Proofs.PartDirectives
import Exemplar.Proofs.PathNames
import Exemplar.Proofs.PlainNames
import Exemplar.Proofs.ReadDocument
import Exemplar.Proofs.ReadOutlines
import Exemplar.Proofs.RenderedDart
import Exemplar.Proofs.RenderedFiles
import Exemplar.Proofs.RenderedKotlin
import Exemplar.Proofs.RenderedTypeScript
import Exemplar.Proofs.RenderingSteps
import Exemplar.Proofs.ResolvedOptions
import Exemplar.Proofs.SampleAccounts
import Exemplar.Proofs.SampleLookups
import Exemplar.Proofs.SampleTypes
import Exemplar.Proofs.SampleUnion
import Exemplar.Proofs.SeparatorRuns
import Exemplar.Proofs.SessionHistory
import Exemplar.Proofs.SettledSeparators
import Exemplar.Proofs.ShownText
import Exemplar.Proofs.StringLiterals
import Exemplar.Proofs.StyleDeclarations
import Exemplar.Proofs.TemplateLines
import Exemplar.Proofs.TypeScriptOutline
import Exemplar.Proofs.UsableNames
import Exemplar.Proofs.UsedImports
import Exemplar.Proofs.Vocabularies
import Exemplar.Proofs.WordBoundaries
import Exemplar.Proofs.WrittenFiles
import Exemplar.Proofs.WrittenRoutines
