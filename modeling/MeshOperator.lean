import MeshOperator.Main
import MeshOperator.Reconcile.Watch
import MeshOperator.Remote.Store
import MeshOperator.Store.Memory
import MeshOperator.Json.Canonical
import MeshOperator.Timestamp
import MeshOperator.Proofs.TimestampText
import MeshOperator.Proofs.FieldText
import MeshOperator.Proofs.MetadataText
import MeshOperator.Proofs.RecordText
import MeshOperator.Proofs.RecordObject
import MeshOperator.Proofs.MemorySteps
import MeshOperator.Proofs.MemoryHistory
import MeshOperator.Proofs.CarefulCalls
import MeshOperator.Proofs.Interleaving
import MeshOperator.Proofs.NoLostUpdate
import MeshOperator.Proofs.Unmanaged
import MeshOperator.Proofs.Runs
import MeshOperator.Proofs.FailStop
import MeshOperator.Proofs.StatusWrites
import MeshOperator.Proofs.Containment
import MeshOperator.Proofs.QuietMemory
import MeshOperator.Proofs.Convergence
import MeshOperator.Proofs.Syncing
import MeshOperator.Proofs.KeptDeclaration
import MeshOperator.Proofs.Release
import MeshOperator.Proofs.Deletion
import MeshOperator.Proofs.ResourceNames
import MeshOperator.Proofs.Settled
import MeshOperator.Proofs.Representation
import MeshOperator.Proofs.Decommission
import MeshOperator.Proofs.Gates
import MeshOperator.Proofs.Defaulting
import MeshOperator.Proofs.Effects
import MeshOperator.Proofs.PassWrites
import MeshOperator.Proofs.StatusProtocol
import MeshOperator.Proofs.RecordRoundTrip
import MeshOperator.Proofs.StatusApart
import MeshOperator.Proofs.RenderedPass
import MeshOperator.Proofs.RolledBack
import MeshOperator.Proofs.Sources
import MeshOperator.Proofs.QuietPass
import MeshOperator.Proofs.KeyPair
import MeshOperator.Proofs.ManifestText
import MeshOperator.Proofs.WorkloadSettings
import MeshOperator.Proofs.ResourceKeys
import MeshOperator.Proofs.References
import MeshOperator.Proofs.ReferenceClosure
import MeshOperator.Proofs.StatusCoherence
import MeshOperator.Proofs.ReleaseAll
import MeshOperator.Proofs.StatusDialogue
import MeshOperator.Proofs.Ownership
import MeshOperator.Proofs.CertificateText
import MeshOperator.Proofs.JsonText
import MeshOperator.Proofs.SharedSettings
import MeshOperator.Proofs.SharedResources
import MeshOperator.Proofs.ComponentRuns
import MeshOperator.Proofs.TearDown
import MeshOperator.Proofs.Journal
import MeshOperator.Proofs.ProbePorts
import MeshOperator.Proofs.ServerFields
import MeshOperator.Proofs.SubsetOrder
import MeshOperator.Proofs.CountedChanges
import MeshOperator.Proofs.Overlay
import MeshOperator.Proofs.RequestDiscipline
