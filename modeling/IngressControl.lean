import IngressControl.LogFormat
import IngressControl.Metrics
import IngressControl.Reconciler.Run
import IngressControl.Reconciler.Script
import IngressControl.Command.Execution
import IngressControl.FileTree.Edit
import IngressControl.FileTree.Program
import IngressControl.Snapshot.Source
import IngressControl.ServersPayload
import IngressControl.Toml.Decoder
import IngressControl.Toml.Document
import IngressControl.Settings.Source
import IngressControl.ControlSurface.Surface
import IngressControl.Proofs.Accounting
import IngressControl.Proofs.AppliedCoherence
import IngressControl.Proofs.ArtifactOutline
import IngressControl.Proofs.AtomicApplication
import IngressControl.Proofs.BackendSeries
import IngressControl.Proofs.Coalescing
import IngressControl.Proofs.Convergence
import IngressControl.Proofs.FailedPush
import IngressControl.Proofs.FingerprintPreimage
import IngressControl.Proofs.FirstFault
import IngressControl.Proofs.ForgedArtifact
import IngressControl.Proofs.GuardedArtifact
import IngressControl.Proofs.ListenSockets
import IngressControl.Proofs.LiveArtifact
import IngressControl.Proofs.MaterialConfined
import IngressControl.Proofs.MaterialOnDisk
import IngressControl.Proofs.MaterialPair
import IngressControl.Proofs.OwnerOnly
import IngressControl.Proofs.PublishedStatus
import IngressControl.Proofs.PushAttempts
import IngressControl.Proofs.PushChain
import IngressControl.Proofs.Recovery
import IngressControl.Proofs.ReloadDecision
import IngressControl.Proofs.Removals
import IngressControl.Proofs.SettingsRules
import IngressControl.Proofs.SnapshotEdits
import IngressControl.Proofs.StageDiscipline
import IngressControl.Proofs.StaleCalls
import IngressControl.Proofs.StaticLayer
import IngressControl.Proofs.SurfaceInStep
import IngressControl.Proofs.UnpostedChange
import IngressControl.Proofs.WholeAttempt
