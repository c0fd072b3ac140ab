import RecordQuery.Declaration.Basic
import RecordQuery.Entity.Structure
import RecordQuery.Json.Reader
import RecordQuery.Proofs.AllOrNothing
import RecordQuery.Proofs.Alternatives
import RecordQuery.Proofs.CreatingSave
import RecordQuery.Proofs.CreationOrder
import RecordQuery.Proofs.FailedCommands
import RecordQuery.Proofs.FailedTransaction
import RecordQuery.Proofs.FieldOrder
import RecordQuery.Proofs.FilterCalls
import RecordQuery.Proofs.FirstProblem
import RecordQuery.Proofs.FirstRow
import RecordQuery.Proofs.FreshChildIds
import RecordQuery.Proofs.IdTexts
import RecordQuery.Proofs.Independence
import RecordQuery.Proofs.LateBinding
import RecordQuery.Proofs.Pages
import RecordQuery.Proofs.Patching
import RecordQuery.Proofs.PatternCase
import RecordQuery.Proofs.Projection
import RecordQuery.Proofs.QueryAnswer
import RecordQuery.Proofs.RangeBounds
import RecordQuery.Proofs.SaveAnswer
import RecordQuery.Proofs.SelectedFields
import RecordQuery.Proofs.SerializedNames
import RecordQuery.Proofs.SettingsDocument
import RecordQuery.Proofs.SpreadArguments
import RecordQuery.Proofs.StoreKeys
import RecordQuery.Proofs.TransactionTurns
import RecordQuery.Proofs.WireForms
