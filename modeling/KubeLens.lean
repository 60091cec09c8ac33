import KubeLens.Api.GroupVersion
import KubeLens.Api.Namespace
import KubeLens.Api.Page
import KubeLens.Api.ResourceType
import KubeLens.Assoc
import KubeLens.Cluster.Basic
import KubeLens.Cluster.Feed
import KubeLens.Cluster.Fleet
import KubeLens.Cluster.Selector
import KubeLens.Crossplane
import KubeLens.Decimal.Double
import KubeLens.Error
import KubeLens.Json.Basic
import KubeLens.Json.Printer
import KubeLens.Json.Reader
import KubeLens.Json.Record
import KubeLens.Kubeconfig.Basic
import KubeLens.Kubeconfig.ClientConfig
import KubeLens.Kubeconfig.Edit
import KubeLens.Kubeconfig.Reader
import KubeLens.Kubeconfig.Store
import KubeLens.Lens
import KubeLens.Managed.Cache
import KubeLens.Managed.Collection
import KubeLens.Managed.Ownership
import KubeLens.Plurals
import KubeLens.Proofs.Lens.Outcome
import KubeLens.Proofs.Lens.Run
import KubeLens.Proofs.Site.Attempts
import KubeLens.Proofs.Site.Evolution
import KubeLens.Proofs.Switchboard.Coherence
import KubeLens.Proofs.Watch.Schedule
import KubeLens.Read.Events
import KubeLens.Read.Get
import KubeLens.Read.List
import KubeLens.Read.Request
import KubeLens.Remote.Connector
import KubeLens.Remote.Link
import KubeLens.Remote.Metadata
import KubeLens.Remote.Object
import KubeLens.Remote.Status
import KubeLens.Remote.Typed
import KubeLens.Remote.Watcher
import KubeLens.Remote.Wire
import KubeLens.Server.Health
import KubeLens.Server.Socket
import KubeLens.Settings
import KubeLens.Site
import KubeLens.Switchboard
import KubeLens.Text.Address
import KubeLens.Text.Blank
import KubeLens.Text.CaseTable
import KubeLens.Text.Elapsed
import KubeLens.Text.FormQuery
import KubeLens.Text.Lowercase
import KubeLens.Text.Numeral
import KubeLens.Text.Quoted
import KubeLens.Text.Timestamp
import KubeLens.Text.Utf8
import KubeLens.Watch.Control
import KubeLens.Watch.Descriptor
import KubeLens.Watch.Hub
import KubeLens.Watch.Message
import KubeLens.Watch.Progress
import KubeLens.Watch.Session
import KubeLens.Watch.Task
import KubeLens.Yaml.Cursor
import KubeLens.Yaml.Node
import KubeLens.Yaml.Token
import KubeLens.Yaml.Token.Scalar
import KubeLens.Yaml.Token.Stream
import KubeLens.Yaml.Token.Tag
import KubeLens.Yaml.Tree
import KubeLens.Yaml.Value
import KubeLens.Proofs.Lens.Linked
import KubeLens.Proofs.Lens.Barred
import KubeLens.Proofs.Watch.Feeds
import KubeLens.Proofs.Watch.Roles
import KubeLens.Proofs.Watch.Turns
import KubeLens.Proofs.Watch.Law
import KubeLens.Proofs.Lens.Watching
import KubeLens.Proofs.Watch.Served
import KubeLens.Proofs.Managed.Aggregation
import KubeLens.Proofs.Lens.Collecting
import KubeLens.Proofs.Lens.Remembered
import KubeLens.Proofs.Watch.Requests
import KubeLens.Proofs.Watch.Utterances
import KubeLens.Proofs.Watch.Happenings
import KubeLens.Proofs.Watch.Histories
import KubeLens.Proofs.Watch.Identities
import KubeLens.Proofs.Watch.Succession
import KubeLens.Proofs.Watch.Moves
import KubeLens.Proofs.Lens.Moves
import KubeLens.Proofs.Watch.Deliveries
import KubeLens.Proofs.Watch.Stream
import KubeLens.Proofs.Watch.Bystanders
import KubeLens.Proofs.Watch.Standing
import KubeLens.Proofs.Watch.Telling
import KubeLens.Proofs.Watch.Effects
import KubeLens.Proofs.Watch.Courses
import KubeLens.Proofs.Watch.Mail
import KubeLens.Proofs.Watch.Settling
import KubeLens.Proofs.Lens.Mailing
import KubeLens.Proofs.Lens.Streams
import KubeLens.Proofs.Api.GroupVersion
import KubeLens.Proofs.Plurals.Discovery
import KubeLens.Proofs.Plurals.History
import KubeLens.Proofs.Kubeconfig.Fitting
import KubeLens.Proofs.Lens.Usable
import KubeLens.Proofs.Lens.Opening
import KubeLens.Proofs.Site.Within
import KubeLens.Proofs.Watch.Phases
import KubeLens.Proofs.Lens.Checking
import KubeLens.Proofs.Site.Alone
import KubeLens.Proofs.Site.Documents
import KubeLens.Proofs.Watch.Lineage
import KubeLens.Proofs.Watch.Anchored
import KubeLens.Proofs.Lens.Anchoring
import KubeLens.Proofs.Lens.Isolation
import KubeLens.Proofs.Lens.Chronicle
import KubeLens.Proofs.Lens.Paging
import KubeLens.Proofs.Lens.Closing
import KubeLens.Proofs.Lens.Activating
import KubeLens.Proofs.Switchboard.Chronicle
import KubeLens.Proofs.Lens.Exchange
import KubeLens.Proofs.Managed.Order
import KubeLens.Proofs.Managed.Gathering
import KubeLens.Proofs.Lens.Gathering
import KubeLens.Proofs.Site.Orderly
import KubeLens.Proofs.Lens.Orderly
import KubeLens.Proofs.Watch.Pinned
import KubeLens.Proofs.Lens.Pinned
import KubeLens.Proofs.Kubeconfig.Merging
import KubeLens.Proofs.Lens.Rejection
import KubeLens.Proofs.Lens.Clearing
import KubeLens.Proofs.Lens.Failing
import KubeLens.Proofs.Kubeconfig.References
import KubeLens.Proofs.Cluster.Builtin
import KubeLens.Proofs.Lens.Adding
import KubeLens.Proofs.Lens.Getting
import KubeLens.Proofs.Cluster.Selecting
import KubeLens.Proofs.Lens.Events
import KubeLens.Proofs.Plurals.Precedence
import KubeLens.Proofs.Lens.Complaining
import KubeLens.Proofs.Lens.Spelling
import KubeLens.Proofs.Server.Connections
import KubeLens.Proofs.Server.Sessions
import KubeLens.Proofs.Server.Serving
import KubeLens.Proofs.Server.Sockets
import KubeLens.Proofs.Settings.Accepted
import KubeLens.Proofs.Settings.Listening
import KubeLens.Proofs.Watch.Wire
