import RequestGuard.Agent.Scan
import RequestGuard.Agent.Service
import RequestGuard.Cloud.Client
import RequestGuard.Cloud.Memory
import RequestGuard.Once
import RequestGuard.Proofs.Agent.Accounting
import RequestGuard.Proofs.Agent.Admission
import RequestGuard.Proofs.Agent.Conservation
import RequestGuard.Proofs.Agent.Consistency
import RequestGuard.Proofs.Agent.Convergence
import RequestGuard.Proofs.Agent.Decided
import RequestGuard.Proofs.Agent.Deferral
import RequestGuard.Proofs.Agent.Delivery
import RequestGuard.Proofs.Agent.Detection
import RequestGuard.Proofs.Agent.Forward
import RequestGuard.Proofs.Agent.Inert
import RequestGuard.Proofs.Agent.Installed
import RequestGuard.Proofs.Agent.Interleaving
import RequestGuard.Proofs.Agent.Mode
import RequestGuard.Proofs.Agent.Recovery
import RequestGuard.Proofs.Agent.Separation
import RequestGuard.Proofs.Agent.SharedLimit
import RequestGuard.Proofs.Cloud.Documents
import RequestGuard.Proofs.Cloud.Redaction
import RequestGuard.Proofs.Decision.AllowList
import RequestGuard.Proofs.Input.FirstEntries
import RequestGuard.Proofs.Input.Position
import RequestGuard.Proofs.Keyed.Updates
import RequestGuard.Proofs.Net.MatchList
import RequestGuard.Proofs.Policy.Precedence
import RequestGuard.Proofs.RateLimit.Expiry
import RequestGuard.Proofs.Stats.Consistency
import RequestGuard.Proofs.Stats.Growth
import RequestGuard.Proofs.Stats.Interval
import RequestGuard.Proofs.Stats.Operations
import RequestGuard.Proofs.Stats.Tables
import RequestGuard.Proofs.Text.Utf8Order
import RequestGuard.Proofs.Throttle.Window
import RequestGuard.Settings.Load
import RequestGuard.Proofs.Agent.FirstHit
import RequestGuard.Proofs.Pattern.Literal
import RequestGuard.Proofs.Pattern.Search
import RequestGuard.Proofs.Policy.Wildcard
import RequestGuard.Proofs.Policy.WildcardPattern
import RequestGuard.Proofs.Cloud.Schedule
import RequestGuard.Proofs.Net.Canonical
import RequestGuard.Proofs.Net.Socket
import RequestGuard.Proofs.Request.ClientAddress
import RequestGuard.Proofs.Text.Base64Url
import RequestGuard.Proofs.Text.Utf8
import RequestGuard.Proofs.Json.Depth
import RequestGuard.Proofs.Input.Token
import RequestGuard.Proofs.Url.Path
import RequestGuard.Proofs.Route.NormalForm
import RequestGuard.Proofs.Text.Form
import RequestGuard.Proofs.Request.Query
import RequestGuard.Proofs.Url.WebAddress
import RequestGuard.Proofs.Route.PlainPath
import RequestGuard.Proofs.Pattern.Whole
import RequestGuard.Proofs.Route.Prefilter
import RequestGuard.Proofs.Route.SegmentPattern
import RequestGuard.Proofs.Net.CheckedWalk
import RequestGuard.Proofs.Request.Cookies
import RequestGuard.Proofs.Settings.Rules
import RequestGuard.Proofs.Text.Trim
import RequestGuard.Proofs.Settings.Override
