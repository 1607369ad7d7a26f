import ArchiDeal.Access.Credentials
import ArchiDeal.Catalogue.Access
import ArchiDeal.Catalogue.Discovery
import ArchiDeal.Catalogue.Etags
import ArchiDeal.Catalogue.Locking
import ArchiDeal.Catalogue.Models
import ArchiDeal.Catalogue.Modules
import ArchiDeal.Catalogue.Principals
import ArchiDeal.Catalogue.Releases
import ArchiDeal.Catalogue.System
import ArchiDeal.Catalogue.Views
import ArchiDeal.Console.Deposits
import ArchiDeal.Console.Mqtt
import ArchiDeal.Console.ReleaseGates
import ArchiDeal.Console.Zenodo
import ArchiDeal.Events.Agreement
import ArchiDeal.Events.Contracts
import ArchiDeal.Gateway.Bootstrap
import ArchiDeal.Gateway.Paths
import ArchiDeal.Gateway.Previews
import ArchiDeal.Gateway.Routes
import ArchiDeal.Hosting.Accept
import ArchiDeal.Hosting.Controller
import ArchiDeal.Hosting.Deployments
import ArchiDeal.Hosting.Desired
import ArchiDeal.Hosting.Fencing
import ArchiDeal.Hosting.Idempotency
import ArchiDeal.Hosting.Ledger
import ArchiDeal.Hosting.Logs
import ArchiDeal.Hosting.Models
import ArchiDeal.Hosting.Publication
import ArchiDeal.Hosting.Queue
import ArchiDeal.Hosting.Refusal
import ArchiDeal.Hosting.Release
import ArchiDeal.Hosting.Removal
import ArchiDeal.Hosting.Revision
import ArchiDeal.Hosting.Serializers
import ArchiDeal.Hosting.Steps
import ArchiDeal.Hosting.Success
import ArchiDeal.Hosting.System
import ArchiDeal.Hosting.Trace
import ArchiDeal.Hosting.Views
import ArchiDeal.Hosting.Worker
import ArchiDeal.Iam.Accounts
import ArchiDeal.Iam.Binding
import ArchiDeal.Iam.Edits
import ArchiDeal.Iam.Provisioning
import ArchiDeal.Ingest.Persist
import ArchiDeal.Lib.Calls
import ArchiDeal.Lib.Check
import ArchiDeal.Lib.Clients
import ArchiDeal.Lib.Double
import ArchiDeal.Lib.Fields
import ArchiDeal.Lib.Framing
import ArchiDeal.Lib.Json
import ArchiDeal.Lib.JsonOrder
import ArchiDeal.Lib.JsonReader
import ArchiDeal.Lib.JsonRoundTrip
import ArchiDeal.Lib.JsonText
import ArchiDeal.Lib.KeepLatest
import ArchiDeal.Lib.Keyset
import ArchiDeal.Lib.Like
import ArchiDeal.Lib.Passes
import ArchiDeal.Lib.PyJson
import ArchiDeal.Lib.Query
import ArchiDeal.Lib.Rfc3339
import ArchiDeal.Lib.Sha256
import ArchiDeal.Lib.Table
import ArchiDeal.Lib.Text
import ArchiDeal.Lib.Transition
import ArchiDeal.Lib.Urls
import ArchiDeal.Reconciler.Cluster
import ArchiDeal.Reconciler.Contract
import ArchiDeal.Reconciler.Deletion
import ArchiDeal.Reconciler.Generations
import ArchiDeal.Reconciler.Names
import ArchiDeal.Reconciler.Payload
import ArchiDeal.Reconciler.Progress
import ArchiDeal.Reconciler.Record
import ArchiDeal.Reconciler.Refusals
import ArchiDeal.Reconciler.Requests
import ArchiDeal.Reconciler.Resources
import ArchiDeal.Reconciler.Restore
import ArchiDeal.Reconciler.Runs
import ArchiDeal.Reconciler.Service
import ArchiDeal.Registry.Devices
import ArchiDeal.Registry.Keys
import ArchiDeal.Registry.Migrations
import ArchiDeal.Registry.Pages
import ArchiDeal.Registry.Updates
import ArchiDeal.Research.Memberships
import ArchiDeal.Streams.Accounting
import ArchiDeal.Streams.Backfill
import ArchiDeal.Streams.Bridge
import ArchiDeal.Streams.Consume
import ArchiDeal.Streams.EventIds
import ArchiDeal.Streams.Interchange
import ArchiDeal.Streams.Latest
import ArchiDeal.Streams.NoLoss
import ArchiDeal.Streams.Normalizer
import ArchiDeal.Streams.Topics
