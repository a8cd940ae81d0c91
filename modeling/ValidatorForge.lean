import ValidatorForge.Dispatch.Generate
import ValidatorForge.Sample.Company
import ValidatorForge.Artifact.Directory
import ValidatorForge.Snapshot.Encoder
import ValidatorForge.Snapshot.Load
import ValidatorForge.Snapshot.Printer
import ValidatorForge.Proofs.Model.Specificity
import ValidatorForge.Proofs.Validation.ClassHandle
import ValidatorForge.Proofs.Validation.Operations
import ValidatorForge.Proofs.Artifact.Emission
import ValidatorForge.Proofs.Artifact.Commits
import ValidatorForge.Proofs.Discovery.Closure
import ValidatorForge.Proofs.Discovery.Exactness
import ValidatorForge.Sample.Fleet
import ValidatorForge.Proofs.Dispatch.InstanceDispatch
import ValidatorForge.Proofs.Discovery.Markers
import ValidatorForge.Proofs.Discovery.Recovery
import ValidatorForge.Proofs.Dispatch.Provenance
import ValidatorForge.Proofs.Dispatch.SharedSink
import ValidatorForge.Proofs.Discovery.Fetching
import ValidatorForge.Proofs.Discovery.Failure
import ValidatorForge.Proofs.Discovery.Properties
import ValidatorForge.Proofs.Dispatch.CommittedArtifacts
import ValidatorForge.Proofs.Dispatch.Renderable
import ValidatorForge.Proofs.Naming.Separation
import ValidatorForge.Proofs.Dispatch.Refusals
import ValidatorForge.Proofs.Dispatch.SharedNames
import ValidatorForge.Proofs.Dispatch.ClassDispatch
import ValidatorForge.Proofs.Discovery.Accessors
import ValidatorForge.Proofs.Dispatch.PropertyAccess
import ValidatorForge.Proofs.Validation.LinkedClasses
import ValidatorForge.Proofs.Dispatch.TargetOrder
import ValidatorForge.Proofs.Validation.GroupChain
import ValidatorForge.Proofs.Dispatch.PlannedGroups
import ValidatorForge.Proofs.Naming.Spelling
import ValidatorForge.Proofs.Naming.AccessorMethods
import ValidatorForge.Proofs.Dispatch.CleanModel
import ValidatorForge.Proofs.Dispatch.RepeatedRuns
import ValidatorForge.Proofs.Artifact.Interleaving
import ValidatorForge.Proofs.Snapshot.Scanning
import ValidatorForge.Proofs.Snapshot.Forms
import ValidatorForge.Proofs.Snapshot.Records
import ValidatorForge.Proofs.Snapshot.Loading
import ValidatorForge.Proofs.Source.TextLiterals
import ValidatorForge.Proofs.Source.Lexing
import ValidatorForge.Proofs.Spec.MarkerReading
import ValidatorForge.Proofs.Spec.MarkerText
import ValidatorForge.Proofs.Model.OrderStability
import ValidatorForge.Proofs.Dispatch.ArtifactLines
import ValidatorForge.Proofs.Dispatch.DirectoryRuns
import ValidatorForge.Proofs.Model.SubtypeSearch
import ValidatorForge.Proofs.Model.PairOrder
import ValidatorForge.Proofs.Discovery.PropertyTable
import ValidatorForge.Proofs.Dispatch.PlannedTypes
import ValidatorForge.Proofs.Discovery.Getters
import ValidatorForge.Proofs.Validation.GroupExpansion
import ValidatorForge.Proofs.Naming.ReadingBack
import ValidatorForge.Proofs.Naming.MethodWords
import ValidatorForge.Proofs.Dispatch.PropertyMethods
import ValidatorForge.Proofs.Discovery.ElementTypes
import ValidatorForge.Proofs.Discovery.Lineage
import ValidatorForge.Proofs.Discovery.LostCascades
