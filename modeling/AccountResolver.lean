import AccountResolver.AccountServer
import AccountResolver.Backoff
import AccountResolver.CommandLine.Help
import AccountResolver.CommandLine.Read
import AccountResolver.CommandLine.Setting
import AccountResolver.Config
import AccountResolver.Controller
import AccountResolver.Directory
import AccountResolver.Dispatch
import AccountResolver.Duration
import AccountResolver.Environment
import AccountResolver.Failure
import AccountResolver.Files
import AccountResolver.Json.Numeral
import AccountResolver.Json.Quoted
import AccountResolver.Json.Read
import AccountResolver.Json.Tree
import AccountResolver.Kube.Client
import AccountResolver.Kube.Endpoint
import AccountResolver.Kube.Exchange
import AccountResolver.Lifecycle
import AccountResolver.Log.Filter
import AccountResolver.Log.Line
import AccountResolver.Lookup
import AccountResolver.Main
import AccountResolver.Nats.Credentials
import AccountResolver.Nats.Options
import AccountResolver.Nats.Seed
import AccountResolver.Nats.Server
import AccountResolver.Network.Ipv4
import AccountResolver.Network.Ipv6
import AccountResolver.Network.SocketAddress
import AccountResolver.Pattern.Basic
import AccountResolver.Pattern.Bracket
import AccountResolver.Pattern.Read
import AccountResolver.Probe
import AccountResolver.Program
import AccountResolver.Proofs.AccountServer.Exits
import AccountResolver.Proofs.AccountServer.OneRun
import AccountResolver.Proofs.AccountServer.Progress
import AccountResolver.Proofs.AccountServer.Run
import AccountResolver.Proofs.Announcer.Progress
import AccountResolver.Proofs.Announcer.Run
import AccountResolver.Proofs.Announcer.Updates
import AccountResolver.Proofs.Backoff
import AccountResolver.Proofs.CommandLine.Arguments
import AccountResolver.Proofs.CommandLine.Values
import AccountResolver.Proofs.Config
import AccountResolver.Proofs.Controller.Coverage
import AccountResolver.Proofs.Controller.Exclusion
import AccountResolver.Proofs.Controller.Retries
import AccountResolver.Proofs.Controller.Run
import AccountResolver.Proofs.Controller.Shutdown
import AccountResolver.Proofs.Directory
import AccountResolver.Proofs.Json.Grammar
import AccountResolver.Proofs.Json.Numbers
import AccountResolver.Proofs.Json.Quoted
import AccountResolver.Proofs.Json.Reading
import AccountResolver.Proofs.Json.Writing
import AccountResolver.Proofs.Kube.Endpoint
import AccountResolver.Proofs.Kube.Exchange
import AccountResolver.Proofs.Kube.Listing
import AccountResolver.Proofs.Lifecycle.History
import AccountResolver.Proofs.Lifecycle.OneRun
import AccountResolver.Proofs.Lifecycle.Probes
import AccountResolver.Proofs.Network.Ipv4
import AccountResolver.Proofs.Network.Ipv6
import AccountResolver.Proofs.Network.SocketAddress
import AccountResolver.Proofs.Online.Course
import AccountResolver.Proofs.Online.Offline
import AccountResolver.Proofs.Online.Run
import AccountResolver.Proofs.Probe.Agreement
import AccountResolver.Proofs.Queue.Batch
import AccountResolver.Proofs.Queue.Closed
import AccountResolver.Proofs.Queue.Failures
import AccountResolver.Proofs.Queue.Sound
import AccountResolver.Proofs.Reconcile.AnyOrder
import AccountResolver.Proofs.Reconcile.History
import AccountResolver.Proofs.Reconcile.Leftovers
import AccountResolver.Proofs.Reconcile.SharedAccounts
import AccountResolver.Proofs.Rehearsal.Sleepers
import AccountResolver.Proofs.Rehearsal.Wakeups
import AccountResolver.Proofs.Resource.Accounts
import AccountResolver.Proofs.Resource.Lists
import AccountResolver.Proofs.Resource.Members
import AccountResolver.Proofs.Resync
import AccountResolver.Proofs.Service.Closing
import AccountResolver.Proofs.Service.Conservation
import AccountResolver.Proofs.Service.Turns
import AccountResolver.Proofs.Serving.Answers
import AccountResolver.Proofs.Serving.ExactlyOnce
import AccountResolver.Proofs.Subject
import AccountResolver.Proofs.Text.Decimal
import AccountResolver.Proofs.Text.Split
import AccountResolver.Proofs.Text.Trim
import AccountResolver.Proofs.Timestamp.Lenient
import AccountResolver.Proofs.Timestamp.Strict
import AccountResolver.Proofs.TlsPaths
import AccountResolver.Proofs.World.Run
import AccountResolver.Proofs.World.UpToDate
import AccountResolver.Queue
import AccountResolver.Reconcile
import AccountResolver.Rehearsal.Run
import AccountResolver.Rehearsal.Scene
import AccountResolver.Rehearsal.Script
import AccountResolver.Resource.Decode
import AccountResolver.Resource.Snapshot
import AccountResolver.Subject
import AccountResolver.Surroundings
import AccountResolver.Table
import AccountResolver.Text.Affix
import AccountResolver.Text.Armor
import AccountResolver.Text.Escapes
import AccountResolver.Text.Glyph
import AccountResolver.Text.Radix
import AccountResolver.Text.Shortest
import AccountResolver.Text.Shown
import AccountResolver.Text.Split
import AccountResolver.Timestamp
import AccountResolver.Timestamp.Read
import AccountResolver.Tls.Certificate
import AccountResolver.Tls.Der
import AccountResolver.Tls.Sections
import AccountResolver.TlsPaths
import AccountResolver.Unicode.Composed
import AccountResolver.Unicode.Direction
import AccountResolver.Unicode.Hidden
import AccountResolver.Unicode.Joining
import AccountResolver.Unicode.Letters
import AccountResolver.Unicode.Ranges
import AccountResolver.Url.Basic
import AccountResolver.Url.Domain.Label
import AccountResolver.Url.Domain.Mapping
import AccountResolver.Url.Host
import AccountResolver.Url.Percent
import AccountResolver.Url.Punycode
import AccountResolver.Url.Read
import AccountResolver.Proofs.Serving.Progress
