import EntSchema.Text.SnakeCase
import EntSchema.Text.Shown
import EntSchema.Text.Letters
import EntSchema.Go.StringLiteral
import EntSchema.Go.Identifier
import EntSchema.Go.PackageName
import EntSchema.Json.Writer
import EntSchema.Json.Reader
import EntSchema.Model.Decoding
import EntSchema.Model.Encoding
import EntSchema.TypeTable
import EntSchema.Model.Index
import EntSchema.Generation
import EntSchema.Storage.Memory
import EntSchema.Storage.Concurrent
import EntSchema.GenerationError
import EntSchema.Toml.Reader
import EntSchema.Settings.Validation
import EntSchema.Settings.Decoding
import EntSchema.Command.Check
import EntSchema.Command.Generate
import EntSchema.Command.Init
import EntSchema.Command.Session
import EntSchema.Main
import EntSchema.Proofs.LastDefinition
import EntSchema.Proofs.Traversal
import EntSchema.Proofs.FieldAccounting
import EntSchema.Proofs.EntityLocality
import EntSchema.Proofs.NameWords
import EntSchema.Proofs.PathComponents
import EntSchema.Proofs.SortedEntries
import EntSchema.Proofs.FileCollisions
import EntSchema.Proofs.QuotedText
import EntSchema.Proofs.DocumentGrammar
import EntSchema.Proofs.DecodingExactness
import EntSchema.Proofs.FragmentCharacters
import EntSchema.Proofs.SourceCharacters
import EntSchema.Proofs.SourceOutline
import EntSchema.Proofs.RunLedger
import EntSchema.Proofs.PersistRun
import EntSchema.Proofs.EveryInterleaving
import EntSchema.Proofs.TreeWalks
import EntSchema.Proofs.UniqueDecoding
import EntSchema.Proofs.DiskRuns
import EntSchema.Proofs.CommandRuns
import EntSchema.Proofs.FilePlaces
import EntSchema.Proofs.CommandFrames
import EntSchema.Proofs.DryRun
import EntSchema.Proofs.FilledPlaces
import EntSchema.Proofs.StarterFilling
import EntSchema.Proofs.TomlLines
import EntSchema.Proofs.StarterReading
import EntSchema.Proofs.StarterPlaces
import EntSchema.Proofs.WrittenJson
import EntSchema.Proofs.CanonicalValues
import EntSchema.Proofs.DocumentRoundTrip
import EntSchema.Proofs.LenientDecoding
import EntSchema.Proofs.RunTables
import EntSchema.Proofs.PackageNames
import EntSchema.Proofs.StemCharacters
import EntSchema.Proofs.ConfinedPaths
import EntSchema.Proofs.CheckAgreement
import EntSchema.Proofs.SettingsGrammar
import EntSchema.Proofs.TypeOverrides
import EntSchema.Proofs.SettingsPrecedence
import EntSchema.Proofs.NumericDefaults
import EntSchema.Proofs.PathResolution
import EntSchema.Proofs.PackageDirectory
import EntSchema.Proofs.PackageFiles
import EntSchema.Proofs.SnakeCaseForm
import EntSchema.Proofs.IndexedNames
import EntSchema.Proofs.FieldBuckets
import EntSchema.Proofs.StrayKeyLists
