import SchemaTemplate.Main
import SchemaTemplate.Proofs.BillingModes
import SchemaTemplate.Proofs.Bookkeeping
import SchemaTemplate.Proofs.ColumnGroups
import SchemaTemplate.Proofs.ConstantTexts
import SchemaTemplate.Proofs.FailurePlaces
import SchemaTemplate.Proofs.ForeseenFailures
import SchemaTemplate.Proofs.InPlace
import SchemaTemplate.Proofs.IndependentTables
import SchemaTemplate.Proofs.KeyspaceOutcome
import SchemaTemplate.Proofs.Lossless
import SchemaTemplate.Proofs.MapHistories
import SchemaTemplate.Proofs.NameResolution
import SchemaTemplate.Proofs.OptionOrder
import SchemaTemplate.Proofs.Progress
import SchemaTemplate.Proofs.Recasing
import SchemaTemplate.Proofs.References
import SchemaTemplate.Proofs.Repetition
import SchemaTemplate.Proofs.RoundTrip
import SchemaTemplate.Proofs.ScriptComposition
import SchemaTemplate.Proofs.ScriptFiles
import SchemaTemplate.Proofs.Strictness
import SchemaTemplate.Proofs.TypeValues
import SchemaTemplate.Proofs.WellFormedText
