import RecordFlow.Session
import RecordFlow.Schema.Database
import RecordFlow.Schema.Dialect
import RecordFlow.Schema.Revision
import RecordFlow.Proofs.Accounts
import RecordFlow.Proofs.Branches
import RecordFlow.Proofs.Caseless
import RecordFlow.Proofs.Closing
import RecordFlow.Proofs.Configurations
import RecordFlow.Proofs.Crossings
import RecordFlow.Proofs.DueDates
import RecordFlow.Proofs.Endings
import RecordFlow.Proofs.FailStop
import RecordFlow.Proofs.NextPlace
import RecordFlow.Proofs.Pages
import RecordFlow.Proofs.Paths
import RecordFlow.Proofs.Refinement
import RecordFlow.Proofs.Retries
import RecordFlow.Proofs.Reversal
import RecordFlow.Proofs.Robbery
import RecordFlow.Proofs.Rotation
import RecordFlow.Proofs.Shutdown
import RecordFlow.Proofs.Starting
import RecordFlow.Proofs.Statistics
import RecordFlow.Proofs.Substitution
import RecordFlow.Proofs.Tagging
import RecordFlow.Proofs.Traces
import RecordFlow.Proofs.TruthValues
import RecordFlow.Proofs.Unchanged
