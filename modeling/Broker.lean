import Broker.Lib.Dict
import Broker.Lib.Runs
import Broker.Lib.Sha256
import Broker.Lib.Double
import Broker.Lib.Raising
import Broker.AuthService
import Broker.Lib.Ip
import Broker.Lib.Url
import Broker.Lib.DateTime
import Broker.AssetService
import Broker.Lib.Json
import Broker.Lib.JsonText
import Broker.ResourceSpace
import Broker.SsoCallback
import Broker.World
import Broker.Outcomes
import Broker.Steps
import Broker.Buckets
import Broker.Calls
import Broker.Freshness
import Broker.Origins
import Broker.Exchanges
import Broker.Lineages
import Broker.AccessTokens
import Broker.Revocation
import Broker.Uninstall
import Broker.Handoffs
import Broker.Capacity
import Broker.Lib.Slug
import Broker.Tenants
import Broker.Sealing
import Broker.Labels
import Broker.Replays
import Broker.Refreshed
import Broker.Grants
import Broker.Flood
import Broker.Pruning
import Broker.ClientHost
import Broker.Quotas
import Broker.Authorise
import Broker.Redirects
import Broker.Lib.IpText
import Broker.Lib.UrlText
import Broker.Sinks
import Broker.Phases
import Broker.Unsealing
import Broker.Callbacks
import Broker.Faults
import Broker.Lib.Crash
import Broker.Lib.Files
import Broker.Lib.JsonIndent
import Broker.JsonStore
import Broker.Lib.JsonBytes
import Broker.Continuations
import Broker.Lib.Slices
import Broker.Listing
import Broker.Fixtures
import Broker.Finder
import Broker.Paging
import Broker.Enumeration
import Broker.LiveListings
import Broker.Lib.Sorting
import Broker.Ordering
import Broker.Limiter
import Broker.Delivery
import Broker.Lib.Quoting
import Broker.Lib.UrlSplit
import Broker.Completion
import Broker.Refusals
import Broker.Lib.Traced
import Broker.Pinning
import Broker.Racing
import Broker.Downloads
import Broker.ApiCalls
import Broker.Uploads
import Broker.SoundUploads
import Broker.Lib.Parts
import Broker.Lib.Distinct
import Broker.Hops
import Broker.Allowlists
import Broker.Challenges
import Broker.Cursors
import Broker.Lib.CodePoints
import Broker.Scopes
import Broker.Lib.Disposition
import Broker.Dispositions
import Broker.Lib.UrlQuery
import Broker.SignedUrls
import Broker.Lib.JsonReread
import Broker.StoreBytes
import Broker.Spellings
import Broker.Lib.Relational
import Broker.Logs
import Broker.Signatures
import Broker.StoreModes
import Broker.Crashes
import Broker.Secrecy
import Broker.Lib.Escaping
import Broker.Lib.Markup
import Broker.Drawings
import Broker.SignInPage
import Broker.Serving
import Broker.Fetching
import Broker.Settings
import Broker.Deployments
import Broker.Sources
import Broker.Isolation
import Broker.Content
import Broker.PasswordSignIns
import Broker.Browsing
