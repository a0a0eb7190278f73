import CopysetWatch.Raft.StatusPage
import CopysetWatch.Format.Cluster
import CopysetWatch.Format.Alert
import CopysetWatch.Simulation.Monitor
import CopysetWatch.Proofs.Registry.Standings
import CopysetWatch.Proofs.Ascending
import CopysetWatch.Proofs.Registry.PlainMap
import CopysetWatch.Proofs.Check.Course
import CopysetWatch.Proofs.Check.Testimonies
import CopysetWatch.Proofs.Check.Evidence
import CopysetWatch.Proofs.Check.Register
import CopysetWatch.Proofs.Check.Outcome
import CopysetWatch.Proofs.Check.ArrivalOrder
import CopysetWatch.Proofs.Check.Verdict
import CopysetWatch.Proofs.Check.Standing
import CopysetWatch.Proofs.Check.Health
import CopysetWatch.Proofs.Addresses
import CopysetWatch.Proofs.Check.Membership
import CopysetWatch.Proofs.Check.Deciding
import CopysetWatch.Proofs.Raft.Fields
import CopysetWatch.Proofs.Check.Renaming
import CopysetWatch.Proofs.Alert.Accounts
import CopysetWatch.Proofs.Alert.Loops
import CopysetWatch.Proofs.Alert.LoopSteps
import CopysetWatch.Proofs.Alert.Watch
import CopysetWatch.Proofs.Alert.Reloading
import CopysetWatch.Proofs.Alert.Stopping
import CopysetWatch.Proofs.Alert.Separation
import CopysetWatch.Proofs.Alert.Simulated
import CopysetWatch.Proofs.Text.Trimming
import CopysetWatch.Proofs.Text.Joining
import CopysetWatch.Proofs.Text.Numerals
import CopysetWatch.Proofs.Raft.Notation
import CopysetWatch.Proofs.Raft.Written
import CopysetWatch.Proofs.Raft.Pages
import CopysetWatch.Proofs.Gathering
import CopysetWatch.Proofs.Exchange
import CopysetWatch.Proofs.Check.Stages
import CopysetWatch.Proofs.Check.Attendance
import CopysetWatch.Proofs.Json.Strings
import CopysetWatch.Proofs.Json.Written
import CopysetWatch.Proofs.Json.Formats
import CopysetWatch.Proofs.Durations
import CopysetWatch.Proofs.Timestamps
import CopysetWatch.Proofs.Formats
import CopysetWatch.Proofs.RoundTrip
import CopysetWatch.Proofs.Metrics
import CopysetWatch.Proofs.Check.Snapshot
import CopysetWatch.Proofs.Alert.Journal
import CopysetWatch.Proofs.Raft.Lags
import CopysetWatch.Proofs.Check.Precedence
import CopysetWatch.Proofs.Check.Margins
import CopysetWatch.Proofs.Check.Disagreement
import CopysetWatch.Proofs.Alert.Reaching
import CopysetWatch.Proofs.Alert.Pacing
import CopysetWatch.Proofs.Check.Availability
import CopysetWatch.Proofs.Check.Endpoints
import CopysetWatch.Proofs.Raft.Blocks
import CopysetWatch.Proofs.Alert.Services
import CopysetWatch.Proofs.Text.Readings
import CopysetWatch.Proofs.Alert.Capacity
import CopysetWatch.Proofs.TimeUnits
import CopysetWatch.Proofs.Alert.Signals
import CopysetWatch.Proofs.Foresight
import CopysetWatch.Proofs.Alert.Schedule
import CopysetWatch.Proofs.Alert.Ticking
import CopysetWatch.Proofs.FirstAndLast
import CopysetWatch.Proofs.Text.Words
import CopysetWatch.Proofs.Raft.DecidingWords
import CopysetWatch.Proofs.Raft.LogPositions
import CopysetWatch.Proofs.Text.Decimals
import CopysetWatch.Proofs.GroupIds
