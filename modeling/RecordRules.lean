import RecordRules.Document.Read
import RecordRules.Proofs.Document.SavedAgain
import RecordRules.Proofs.Document.SavedText
import RecordRules.Proofs.Document.Suitability
import RecordRules.Proofs.Document.Validated
import RecordRules.Proofs.Record.NamedPath
import RecordRules.Proofs.Record.UnrelatedKey
import RecordRules.Proofs.Rule.Phases
import RecordRules.Proofs.Rule.Shaping
import RecordRules.Proofs.Rule.UnrelatedKey
import RecordRules.Proofs.Rule.WrappedRecord
import RecordRules.Proofs.ValidatorSet.Batches
import RecordRules.Proofs.ValidatorSet.Declaring
import RecordRules.Proofs.ValidatorSet.FailedLoading
import RecordRules.Proofs.ValidatorSet.Gate
import RecordRules.Proofs.ValidatorSet.Ledger
import RecordRules.Proofs.ValidatorSet.ReadyMade
import RecordRules.Proofs.ValidatorSet.Reports
import RecordRules.Proofs.ValidatorSet.UnrelatedKey
import RecordRules.Proofs.ValidatorSet.Verdict
import RecordRules.Proofs.Record.Positions
import RecordRules.Proofs.Rule.Printed
import RecordRules.Proofs.Capability.Required
import RecordRules.Proofs.Record.LooseEquality
import RecordRules.Proofs.Record.LooseOrder
import RecordRules.Proofs.Capability.Identifiers
import RecordRules.Proofs.Rule.SamePrint
import RecordRules.Proofs.Document.Duplicates
import RecordRules.Proofs.Capability.Thresholds
import RecordRules.Proofs.Capability.Ranges
import RecordRules.Proofs.Capability.Counting
import RecordRules.Proofs.Capability.StoredItems
import RecordRules.Proofs.Capability.ListOperands
import RecordRules.Proofs.Capability.PatternOperands
import RecordRules.Proofs.CardNumber
import RecordRules.Proofs.Net.Subnets
import RecordRules.Proofs.Capability.Consent
import RecordRules.Proofs.Capability.Name
import RecordRules.Proofs.Capability.Replacing
import RecordRules.Proofs.Document.Findings
import RecordRules.Proofs.ValidatorSet.Strictness
