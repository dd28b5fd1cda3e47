import Acquisition.Blocklist
import Acquisition.Broadcast.Broadcaster
import Acquisition.Broadcast.Debouncer
import Acquisition.Client.Address
import Acquisition.Client.Basic
import Acquisition.Client.Configured
import Acquisition.Client.Http
import Acquisition.Client.Memory
import Acquisition.Client.Qbittorrent
import Acquisition.Client.Sabnzbd
import Acquisition.Collaborator
import Acquisition.Decision
import Acquisition.DelayProfile
import Acquisition.Desk
import Acquisition.Domain.Mapping
import Acquisition.Domain.Name
import Acquisition.Domain.Number
import Acquisition.Domain.Punycode
import Acquisition.Engine
import Acquisition.Error
import Acquisition.Events
import Acquisition.Grab.Candidate
import Acquisition.Grab.Ranking
import Acquisition.Grab.Rules
import Acquisition.Grab.Service
import Acquisition.History
import Acquisition.Import.Candidate
import Acquisition.Import.Disk
import Acquisition.Import.Listing
import Acquisition.Import.Locks
import Acquisition.Import.Rules
import Acquisition.Import.Service
import Acquisition.Import.Tree
import Acquisition.Json.Basic
import Acquisition.Json.Parser
import Acquisition.Json.Printer
import Acquisition.Language
import Acquisition.Media
import Acquisition.Name.Part
import Acquisition.Name.Release
import Acquisition.Name.Token
import Acquisition.Name.Vocabulary
import Acquisition.Path
import Acquisition.Profile
import Acquisition.ProfileStore
import Acquisition.Program
import Acquisition.Proofs.Agreement
import Acquisition.Proofs.Broadcast.Coalescing
import Acquisition.Proofs.Broadcast.Debouncing
import Acquisition.Proofs.Broadcast.Shutdown
import Acquisition.Proofs.Client.Http
import Acquisition.Proofs.Client.Qbittorrent
import Acquisition.Proofs.Client.Sabnzbd
import Acquisition.Proofs.Client.TimeLeft
import Acquisition.Proofs.Decision
import Acquisition.Proofs.Desk.Announcing
import Acquisition.Proofs.Desk.Blocking
import Acquisition.Proofs.Desk.Ignoring
import Acquisition.Proofs.Desk.Outage
import Acquisition.Proofs.Desk.Racing
import Acquisition.Proofs.Desk.Refreshing
import Acquisition.Proofs.Desk.Run
import Acquisition.Proofs.Desk.Sighting
import Acquisition.Proofs.Desk.Waiting
import Acquisition.Proofs.Engine
import Acquisition.Proofs.Events
import Acquisition.Proofs.Grab.Admission
import Acquisition.Proofs.Grab.HeldBack
import Acquisition.Proofs.Grab.Monotone
import Acquisition.Proofs.Grab.Pipeline
import Acquisition.Proofs.Grab.Preference
import Acquisition.Proofs.Grab.Ranking
import Acquisition.Proofs.Grab.Retry
import Acquisition.Proofs.Grab.TimeGates
import Acquisition.Proofs.Grab.Trail
import Acquisition.Proofs.History
import Acquisition.Proofs.Import.AfterGrab
import Acquisition.Proofs.Import.AlreadyImported
import Acquisition.Proofs.Import.Contention
import Acquisition.Proofs.Import.Existing
import Acquisition.Proofs.Import.Outcome
import Acquisition.Proofs.Import.Paths
import Acquisition.Proofs.Import.SplitParts
import Acquisition.Proofs.Name.Dated
import Acquisition.Proofs.Name.FileName
import Acquisition.Proofs.Name.Part
import Acquisition.Proofs.Name.Release
import Acquisition.Proofs.Name.Token
import Acquisition.Proofs.Name.Underscore
import Acquisition.Proofs.Name.Word
import Acquisition.Proofs.Path
import Acquisition.Proofs.Profile
import Acquisition.Proofs.ProfileStore
import Acquisition.Proofs.Queue.Ancestry
import Acquisition.Proofs.Queue.Finishing
import Acquisition.Proofs.Queue.FirstSight
import Acquisition.Proofs.Queue.InFlight
import Acquisition.Proofs.Queue.Lookup
import Acquisition.Proofs.Queue.Paging
import Acquisition.Proofs.Queue.Pending
import Acquisition.Proofs.Queue.Poll
import Acquisition.Proofs.Queue.Removal
import Acquisition.Proofs.Queue.Tracking
import Acquisition.Proofs.Queue.UnderKey
import Acquisition.Proofs.Queue.Waiting
import Acquisition.Proofs.Reading
import Acquisition.Proofs.Schedule.Alone
import Acquisition.Proofs.Schedule.Attempts
import Acquisition.Proofs.Settings.Section
import Acquisition.Proofs.Settings.Store
import Acquisition.Proofs.Sorting
import Acquisition.Proofs.Stored
import Acquisition.Proofs.Text.Case
import Acquisition.Proofs.Text.Split
import Acquisition.Proofs.Text.Uuid
import Acquisition.Proofs.Upgrade
import Acquisition.Quality
import Acquisition.Queue.Item
import Acquisition.Queue.Pending
import Acquisition.Queue.Service
import Acquisition.Queue.Status
import Acquisition.Queue.Tracked
import Acquisition.Queue.View
import Acquisition.Release
import Acquisition.Schedule.Job
import Acquisition.Schedule.Registry
import Acquisition.Schedule.Script
import Acquisition.Schedule.Timeline
import Acquisition.Settings.Basic
import Acquisition.Settings.Load
import Acquisition.Settings.Variable
import Acquisition.Stored.Basic
import Acquisition.Stored.Media
import Acquisition.Stored.Quality
import Acquisition.Stored.Settings
import Acquisition.Tag
import Acquisition.Text.AsciiCase
import Acquisition.Text.Blank
import Acquisition.Text.CharRange
import Acquisition.Text.Combining
import Acquisition.Text.Composition
import Acquisition.Text.Decimal
import Acquisition.Text.Digit
import Acquisition.Text.Direction
import Acquisition.Text.Joining
import Acquisition.Text.Lowercase
import Acquisition.Text.Mark
import Acquisition.Text.Printable
import Acquisition.Text.Quoted
import Acquisition.Text.Split
import Acquisition.Text.Uuid
import Acquisition.Text.Word
import Acquisition.Time.Calendar
import Acquisition.Time.Span
import Acquisition.Toml.Parser
import Acquisition.Toml.Scalar
import Acquisition.Toml.Table
import Acquisition.Upgrade
