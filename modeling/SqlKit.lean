import SqlKit.Main
import SqlKit.Migration.Seeder
import SqlKit.Model.Catalogue
import SqlKit.Schema.Document
import SqlKit.Session.Record
import SqlKit.Proofs.Bindings
import SqlKit.Proofs.Placeholders
import SqlKit.Proofs.Running
import SqlKit.Proofs.Watched
import SqlKit.Proofs.Transactions
import SqlKit.Proofs.Succeeding
import SqlKit.Proofs.FaithfulLedger
import SqlKit.Proofs.LedgerSet
import SqlKit.Proofs.OneLedger
import SqlKit.Proofs.KeyedTable
import SqlKit.Proofs.StoredRecords
import SqlKit.Proofs.ErasedValues
import SqlKit.Proofs.ConditionGrammar
import SqlKit.Proofs.ConditionReading
import SqlKit.Proofs.Outcomes
import SqlKit.Proofs.Catalogue
import SqlKit.Proofs.UndoneMigrations
import SqlKit.Proofs.SentStatements
import SqlKit.Proofs.HaltedRuns
import SqlKit.Proofs.DryRuns
import SqlKit.Proofs.ClosedTransactions
import SqlKit.Proofs.QuotedText
import SqlKit.Proofs.SchemaTexts
import SqlKit.Proofs.SharedDatabase
import SqlKit.Proofs.MigrationStages
import SqlKit.Proofs.AppliedOnce
import SqlKit.Proofs.SharedCondition
import SqlKit.Proofs.DeclaredKeys
import SqlKit.Proofs.AddressReading
import SqlKit.Proofs.ReloadedValues
import SqlKit.Proofs.FoundRows
import SqlKit.Proofs.CleanRecords
import SqlKit.Proofs.SavingRecords
import SqlKit.Proofs.FirstSaves
import SqlKit.Proofs.SaveReports
import SqlKit.Proofs.BulkAssignment
import SqlKit.Proofs.ExposedAttributes
import SqlKit.Proofs.InsertedRows
import SqlKit.Proofs.WrittenBack
import SqlKit.Proofs.EscapedLiterals
import SqlKit.Proofs.QuotedNames
import SqlKit.Proofs.StatementSubjects
import SqlKit.Proofs.RenamedTables
import SqlKit.Proofs.EnsuredTables
import SqlKit.Proofs.RollbackOrder
import SqlKit.Proofs.MigrationNames
import SqlKit.Proofs.GeneratedNames
import SqlKit.Proofs.ScriptSections
import SqlKit.Proofs.PagedRows
import SqlKit.Proofs.JoinedKeys
import SqlKit.Proofs.TypedValues
import SqlKit.Proofs.LoggedStatements
import SqlKit.Proofs.IndependentClauses
