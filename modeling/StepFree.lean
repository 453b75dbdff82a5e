import StepFree.Json.Writer
import StepFree.Network.Annotation
import StepFree.Profile.Reading
import StepFree.Proofs.Access.Closure
import StepFree.Proofs.Access.Merging
import StepFree.Proofs.Number.Infinity
import StepFree.Proofs.Profile.Failure
import StepFree.Proofs.Network.Attributes
import StepFree.Proofs.Network.Visits
import StepFree.Proofs.Network.Run
import StepFree.Proofs.Network.NodeRun
import StepFree.Proofs.Network.Outcome
import StepFree.Proofs.Network.Dropping
import StepFree.Proofs.Number.Arithmetic
import StepFree.Proofs.Way.SpeedBounds
import StepFree.Proofs.Profile.Contract
import StepFree.Proofs.Profile.Relevance
import StepFree.Proofs.Network.Overwriting
import StepFree.Proofs.Network.Pointwise
import StepFree.Proofs.Relation.Recording
import StepFree.Proofs.Relation.LargestBonus
import StepFree.Proofs.Access.Monotone
import StepFree.Proofs.Profile.Switches
import StepFree.Proofs.Tables.Kind
import StepFree.Proofs.Json.Spelling
import StepFree.Proofs.Json.TextTable
import StepFree.Proofs.Tables.Export
import StepFree.Proofs.Config.Acceptance
import StepFree.Proofs.Node.AccessKeys
import StepFree.Proofs.Node.AddedBarrier
import StepFree.Proofs.Json.Data
import StepFree.Proofs.Tables.Refusal
import StepFree.Proofs.Node.Monotone
import StepFree.Proofs.Number.Rounding
import StepFree.Proofs.Number.Scaling
import StepFree.Proofs.Way.SpeedEvidence
import StepFree.Proofs.Way.DeclaredSpeed
import StepFree.Proofs.Way.Signals
import StepFree.Proofs.Way.Preference
import StepFree.Proofs.Relation.EdgeBonus
import StepFree.Proofs.Relation.RouteMerging
import StepFree.Proofs.Number.Written
import StepFree.Proofs.Way.SignalRange
import StepFree.Proofs.Way.WrittenSpeed
import StepFree.Proofs.Text.Erasing
import StepFree.Proofs.Number.Foreign
import StepFree.Proofs.Way.UnderstoodSpeed
import StepFree.Proofs.Number.Dividing
import StepFree.Proofs.Number.Whole
import StepFree.Proofs.Way.FerryTrip
import StepFree.Proofs.Tables.Composition
import StepFree.Proofs.Tags.Normal
