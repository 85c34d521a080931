import Clearance.Ordered
import Clearance.Label
import Clearance.Dimension
import Clearance.Profile
import Clearance.MeetTable.Basic
import Clearance.MeetTable.Builder
import Clearance.MeetTable.Chain
import Clearance.MeetTable.Laws
import Clearance.Decision
import Clearance.Event
import Clearance.MeetTable.Recorded
import Clearance.Evaluation
import Clearance.Json.Number
import Clearance.Json.Quote
import Clearance.Json.Token
import Clearance.Json.Value
import Clearance.Json.Outline
import Clearance.Text.Quoted
import Clearance.Wire.Profile
import Clearance.Registry.Document
import Clearance.Path.Trail
import Clearance.Wire.Path
import Clearance.Reference.Vector
import Clearance.Proofs.FailClosed
import Clearance.Proofs.LawReport
import Clearance.Proofs.ReportOrder
import Clearance.Proofs.Reasons
import Clearance.Proofs.LawfulFold
import Clearance.Proofs.Modes
import Clearance.Proofs.Privilege
import Clearance.Proofs.Construction
import Clearance.Proofs.Meaning
import Clearance.Proofs.Observation
import Clearance.Proofs.Extension
import Clearance.Proofs.GreatestLowerBound
import Clearance.Proofs.Rearrangement
import Clearance.Proofs.DefinitionOrder
import Clearance.Proofs.Rows
import Clearance.Proofs.Listing
import Clearance.Proofs.Branches
import Clearance.Proofs.ChainRules
import Clearance.Proofs.DisjointChains
import Clearance.Proofs.ChainLevels
import Clearance.Proofs.Admission
import Clearance.Proofs.Renaming
import Clearance.Proofs.CommandIsolation
import Clearance.Proofs.ByteOrder
import Clearance.Proofs.LastEntry
import Clearance.Proofs.MemberOrder
import Clearance.Proofs.ReadingBack
import Clearance.Proofs.WireRoundTrip
import Clearance.Proofs.DocumentRoundTrip
import Clearance.Proofs.Provenance
import Clearance.Proofs.RecordReading
import Clearance.Proofs.ProfileGrammar
import Clearance.Proofs.EntryGrammar
import Clearance.Proofs.NamedLabels
import Clearance.Proofs.LabelsAsJson
import Clearance.Proofs.LabelOutcome
import Clearance.Proofs.SymmetricSteps
import Clearance.Proofs.AdmissionEvents
import Clearance.Proofs.FinalBottom
