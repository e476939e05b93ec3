import ClusterRegistry.Lib.Run
import ClusterRegistry.Lib.Effect
import ClusterRegistry.Lib.Table
import ClusterRegistry.Lib.Split
import ClusterRegistry.Lib.Threads
import ClusterRegistry.Lib.Code
import ClusterRegistry.Lib.Level
import ClusterRegistry.Api.Types
import ClusterRegistry.Api.Match
import ClusterRegistry.Api.Selection
import ClusterRegistry.Api.Server
import ClusterRegistry.Clusters.Cluster
import ClusterRegistry.Clusters.Active
import ClusterRegistry.Clusters.Requirements
import ClusterRegistry.Clusters.Announced
import ClusterRegistry.Clusters.Lifecycle
import ClusterRegistry.Clusters.Liveness
import ClusterRegistry.Clusters.Starting
import ClusterRegistry.Rules.Registry
import ClusterRegistry.Rules.Distribution
import ClusterRegistry.Rules.Builtin
import ClusterRegistry.Rules.Race
import ClusterRegistry.Rules.Regeneration
import ClusterRegistry.Members.Types
import ClusterRegistry.Members.World
import ClusterRegistry.Members.Reconciler
import ClusterRegistry.Members.Remote
import ClusterRegistry.Members.Instances
import ClusterRegistry.Members.Connection
import ClusterRegistry.Members.Endpoints
import ClusterRegistry.Members.Status
import ClusterRegistry.Members.Conflict
import ClusterRegistry.Members.Admission
import ClusterRegistry.Members.Writers
import ClusterRegistry.Members.Written
import ClusterRegistry.Members.Listing
import ClusterRegistry.Members.Reader
import ClusterRegistry.Members.Dates
import ClusterRegistry.Members.Times
import ClusterRegistry.Members.Comparing
import ClusterRegistry.Members.Synced
import ClusterRegistry.Members.Fallback
import ClusterRegistry.Members.CoreSyncers
import ClusterRegistry.Sync.Reconciler
import ClusterRegistry.Sync.Writes
import ClusterRegistry.Sync.Marks
import ClusterRegistry.Sync.Watch
import ClusterRegistry.Sync.Copy
import ClusterRegistry.Sync.Original
import ClusterRegistry.Sync.Events
import ClusterRegistry.Sync.Fleet
import ClusterRegistry.Sync.Outcome
import ClusterRegistry.Sync.Ownership
import ClusterRegistry.Sync.Provenance
import ClusterRegistry.Sync.Deletion
import ClusterRegistry.Sync.Stale
import ClusterRegistry.Sync.Orphans
import ClusterRegistry.Sync.Served
import ClusterRegistry.Sync.Convergence
import ClusterRegistry.Sync.Mesh
import ClusterRegistry.Sync.Restarts
import ClusterRegistry.Members.Registration
import ClusterRegistry.Cert.Certifier
import ClusterRegistry.Cert.Renewer
import ClusterRegistry.Cert.Publishing
import ClusterRegistry.Cert.Lifetime
import ClusterRegistry.Meta.Detection
import ClusterRegistry.Meta.Metadata
