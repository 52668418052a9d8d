import OpenCowork.ControlPlane.Sessions.Attempts
import OpenCowork.ControlPlane.Sessions.Checkpoints
import OpenCowork.Streams.Drain
import OpenCowork.Streams.GapFreedom
import OpenCowork.ControlPlane.WorkspaceIsolation
import OpenCowork.ControlPlane.Redelivery
import OpenCowork.ControlPlane.ProjectionLag
import OpenCowork.ControlPlane.Workflows.Replay
import OpenCowork.ControlPlane.Sessions.WorkerQuota
import OpenCowork.ControlPlane.Artifacts.Creation
import OpenCowork.ControlPlane.Channels.ClaimRecovery
import OpenCowork.ControlPlane.Channels.EventClaims
import OpenCowork.ControlPlane.Workers.LatestCheckpoint
import OpenCowork.ControlPlane.Workers.TenantInterleaving
import OpenCowork.ControlPlane.Workspaces.RestoreAtomicity
import OpenCowork.ControlPlane.Sessions.Listing
import OpenCowork.ControlPlane.WorkflowDecisions
import OpenCowork.Projection.Repair
import OpenCowork.Projection.Fences
import OpenCowork.Projection.SegmentTexts
import OpenCowork.Projection.TaskRunUpdates
import OpenCowork.ControlPlane.SessionEventIds
import OpenCowork.ControlPlane.SessionHistory
import OpenCowork.Gateway.ActiveRuns
import OpenCowork.Gateway.DispatchExclusion
import OpenCowork.Gateway.ClosedWork
import OpenCowork.Gateway.Attempts
import OpenCowork.Gateway.PipelineOrder
import OpenCowork.Gateway.QualityGate
import OpenCowork.Gateway.RoadmapStatus
import OpenCowork.Gateway.DependencyGraph
import OpenCowork.Gateway.WaitingTasks
import OpenCowork.Gateway.Remembered
import OpenCowork.Gateway.Exclusivity
import OpenCowork.Desktop.WorkflowRuns
import OpenCowork.Desktop.SignatureReplay
import OpenCowork.Desktop.SecurityAgreement
import OpenCowork.Gateway.RestoreSweeps
import OpenCowork.Gateway.ChannelMirror
import OpenCowork.Gateway.WebhookRateLimiter
import OpenCowork.Runtime.TaskForest
import OpenCowork.Runtime.AcceptedEdits
import OpenCowork.Runtime.PermissionPrecedence
import OpenCowork.Runtime.DelegationSoundness
import OpenCowork.Runtime.RendererCatchUp
import OpenCowork.Runtime.HistoryRefresh
import OpenCowork.Runtime.ProgressWatchdog
import OpenCowork.Wiki.SectionRoles
