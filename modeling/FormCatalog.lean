import FormCatalog.App.Basic
import FormCatalog.App.Database
import FormCatalog.App.LogSetup
import FormCatalog.Catalog.Basic
import FormCatalog.Catalog.Comparison
import FormCatalog.Catalog.ContentKey
import FormCatalog.Catalog.Memory
import FormCatalog.Catalog.Pass
import FormCatalog.Catalog.Payload
import FormCatalog.Catalog.Trial
import FormCatalog.CommandLine.Commands
import FormCatalog.CommandLine.Help
import FormCatalog.CommandLine.Options
import FormCatalog.CommandLine.Run
import FormCatalog.Digest.Base64
import FormCatalog.Digest.Bytes
import FormCatalog.Digest.Md5
import FormCatalog.Digest.Sha
import FormCatalog.Disk.Basic
import FormCatalog.Disk.Confined
import FormCatalog.Disk.Path
import FormCatalog.Fault
import FormCatalog.Journal
import FormCatalog.Json.Parser
import FormCatalog.Json.Printer
import FormCatalog.Json.Value
import FormCatalog.Main
import FormCatalog.Number.Binary64
import FormCatalog.Number.Decimal
import FormCatalog.Number.Digits
import FormCatalog.Op
import FormCatalog.Proofs.App.Sides
import FormCatalog.Proofs.Catalog.Abort
import FormCatalog.Proofs.Catalog.Account
import FormCatalog.Proofs.Catalog.Aftermath
import FormCatalog.Proofs.Catalog.Batch
import FormCatalog.Proofs.Catalog.Convergence
import FormCatalog.Proofs.Catalog.Encoding
import FormCatalog.Proofs.Catalog.FileHashes
import FormCatalog.Proofs.Catalog.FormLists
import FormCatalog.Proofs.Catalog.Keys
import FormCatalog.Proofs.Catalog.ListOrder
import FormCatalog.Proofs.Catalog.Lockstep
import FormCatalog.Proofs.Catalog.MediaMaps
import FormCatalog.Proofs.Catalog.Mirror
import FormCatalog.Proofs.Catalog.Outlook
import FormCatalog.Proofs.Catalog.Pending
import FormCatalog.Proofs.Catalog.Preview
import FormCatalog.Proofs.Catalog.Retry
import FormCatalog.Proofs.Catalog.Schema
import FormCatalog.Proofs.Catalog.Shortcut
import FormCatalog.Proofs.Catalog.Stock
import FormCatalog.Proofs.CommandLine.ExitCodes
import FormCatalog.Proofs.Digest.Reading
import FormCatalog.Proofs.Disk.Prepare
import FormCatalog.Proofs.Disk.Sound
import FormCatalog.Proofs.Disk.Written
import FormCatalog.Proofs.Json.Grammar
import FormCatalog.Proofs.Json.RoundTrip
import FormCatalog.Proofs.Number.Digits
import FormCatalog.Proofs.Overriding
import FormCatalog.Proofs.Programs
import FormCatalog.Proofs.Shelf.Arrival
import FormCatalog.Proofs.Shelf.Confinement
import FormCatalog.Proofs.Shelf.Consistency
import FormCatalog.Proofs.Shelf.Containment
import FormCatalog.Proofs.Shelf.Faithful
import FormCatalog.Proofs.Shelf.HalfDone
import FormCatalog.Proofs.Shelf.Isolation
import FormCatalog.Proofs.Shelf.Media
import FormCatalog.Proofs.Shelf.MediaMirror
import FormCatalog.Proofs.Shelf.NoTrace
import FormCatalog.Proofs.Shelf.Phases
import FormCatalog.Proofs.Shelf.Recognition
import FormCatalog.Proofs.Shelf.Rows
import FormCatalog.Proofs.Shelf.Standing
import FormCatalog.Proofs.Shelf.Stock
import FormCatalog.Proofs.Shelf.SyncFaults
import FormCatalog.Proofs.Text.Marks
import FormCatalog.Proofs.Trigger.Custody
import FormCatalog.Proofs.Trigger.Modes
import FormCatalog.Proofs.Trigger.Recurring
import FormCatalog.Proofs.Trigger.SingleFlight
import FormCatalog.Proofs.Web.Addresses
import FormCatalog.Proofs.Web.Calls
import FormCatalog.Proofs.Web.Classified
import FormCatalog.Proofs.Web.Deletion
import FormCatalog.Proofs.Web.Disclosure
import FormCatalog.Proofs.Web.Exchange
import FormCatalog.Proofs.Web.FetchedKeys
import FormCatalog.Proofs.Web.FormListPath
import FormCatalog.Proofs.Web.Joined
import FormCatalog.Proofs.Web.LocalHosts
import FormCatalog.Proofs.Web.NormalForm
import FormCatalog.Proofs.Web.Redirects
import FormCatalog.Proofs.Web.Rewriting
import FormCatalog.Settings.Basic
import FormCatalog.Settings.EnvFile
import FormCatalog.Settings.Load
import FormCatalog.Settings.Reading
import FormCatalog.Settings.Violation
import FormCatalog.Shelf.Archive
import FormCatalog.Shelf.Basic
import FormCatalog.Shelf.Download
import FormCatalog.Shelf.Site
import FormCatalog.Shelf.Table
import FormCatalog.Text.Blank
import FormCatalog.Text.LowerCase
import FormCatalog.Text.NameChars
import FormCatalog.Text.Printable
import FormCatalog.Text.Quoted
import FormCatalog.Text.Utf8
import FormCatalog.Trigger.Basic
import FormCatalog.Trigger.Dispatch
import FormCatalog.Trigger.Gate
import FormCatalog.Trigger.Notice
import FormCatalog.Trigger.Scheduler
import FormCatalog.Web.Client
import FormCatalog.Web.FormServer
import FormCatalog.Web.HostLiteral
import FormCatalog.Web.HostName
import FormCatalog.Web.Reference
import FormCatalog.Web.ServerAddress
import FormCatalog.Web.SignIn
import FormCatalog.Web.Url
