import SchemaMigration.Main
import SchemaMigration.Storage.FileTree
import SchemaMigration.Proofs.Generation.ArchiveRun
import SchemaMigration.Proofs.Generation.Resolution
import SchemaMigration.Proofs.Generation.StoredSnapshot
import SchemaMigration.Proofs.Archive.WriterHistory
import SchemaMigration.Proofs.Archive.FailingStorage
import SchemaMigration.Proofs.Generation.ArchiveEffects
import SchemaMigration.Proofs.Schema.Validity
import SchemaMigration.Proofs.Migration.StatementReading
import SchemaMigration.Proofs.Generation.ConstraintNames
import SchemaMigration.Proofs.Migration.TableReading
import SchemaMigration.Proofs.Generation.CreatedColumns
import SchemaMigration.Proofs.Generation.AddedTables
import SchemaMigration.Proofs.Generation.RelationStatements
import SchemaMigration.Proofs.Generation.DeclaredClasses
import SchemaMigration.Proofs.Generation.DirectoryOutput
import SchemaMigration.Proofs.Generation.DirectorySuffixes
import SchemaMigration.Proofs.Generation.FailedOutput
import SchemaMigration.Proofs.Json.CompleteReading
import SchemaMigration.Proofs.Json.Rearrangement
import SchemaMigration.Proofs.Json.RecordOrder
import SchemaMigration.Proofs.Schema.RearrangedDocument
import SchemaMigration.Proofs.Generation.GroupOrder
import SchemaMigration.Proofs.Generation.KeyCalls
import SchemaMigration.Proofs.Generation.Reimport
import SchemaMigration.Proofs.Text.DecodedBytes
import SchemaMigration.Proofs.CommandLine.Console
import SchemaMigration.Proofs.CommandLine.InspectedArchive
import SchemaMigration.Proofs.Generation.NewDirectory
import SchemaMigration.Proofs.CommandLine.PreviewedFiles
import SchemaMigration.Proofs.Migration.RelationHistory
import SchemaMigration.Proofs.Migration.MirroredSides
import SchemaMigration.Proofs.Generation.MigrationLines
import SchemaMigration.Proofs.Generation.NameDecoding
import SchemaMigration.Proofs.Archive.MirroredSinks
import SchemaMigration.Proofs.Schema.LengthTexts
import SchemaMigration.Proofs.Generation.KeyCounter
import SchemaMigration.Proofs.Migration.TextLiterals
import SchemaMigration.Proofs.Generation.ClassSpelling
