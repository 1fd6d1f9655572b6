import Porter.Api.Access
import Porter.Api.AtMostOnce
import Porter.Api.Credentials
import Porter.Api.FirewallRules
import Porter.Api.Isolation
import Porter.Api.Orgs
import Porter.Api.Patches
import Porter.Api.ProjectNetworks
import Porter.Api.PromotedPools
import Porter.Api.PruneImages
import Porter.Api.RateLimit
import Porter.Api.Recreate
import Porter.Api.ReplicaActions
import Porter.Api.Roles
import Porter.Api.Rollback
import Porter.Api.RolloutWeight
import Porter.Api.Transfer
import Porter.Api.Uploads
import Porter.Api.Usage
import Porter.Api.Visibility
import Porter.Api.VolumeDrives
import Porter.Autoscale.Metrics
import Porter.Buildkit.Index
import Porter.Cache.Shutdown
import Porter.Compose.Entries
import Porter.Config.Toml
import Porter.Controller.Convergence
import Porter.Controller.Nodes
import Porter.Controller.Passes
import Porter.Controller.Records
import Porter.Cron.Runner
import Porter.Dns.Resolver
import Porter.Event.Delivery
import Porter.Gateway.PortForward
import Porter.Judge.Gates
import Porter.Netmgr.Taps
import Porter.Notify.Mail
import Porter.Runtime.NetworkManager
import Porter.Scheduler.Placement
import Porter.Sshgw.Gateway
import Porter.Store.Allocations
import Porter.Store.Migrations
import Porter.Store.Traffic
