import Spine.App.CommandLine
import Spine.App.Signals
import Spine.Database.Connection
import Spine.Database.HostStatus
import Spine.Database.OutputSizes
import Spine.Database.Schedule
import Spine.Database.Transfer
import Spine.Log.Debug
import Spine.Log.Record
import Spine.Ping.Access
import Spine.Ping.Address
import Spine.Ping.Checksum
import Spine.Ping.Network
import Spine.Ping.Snapping
import Spine.Platform.Locks
import Spine.Poller.ErrorWarnings
import Spine.Poller.HostLog
import Spine.Poller.LineCounts
import Spine.Poller.OutageDates
import Spine.Poller.Permits
import Spine.Poller.ResultForms
import Spine.Poller.Selection
import Spine.Poller.SpikeKill
import Spine.Poller.Statistics
import Spine.Poller.Uptime
import Spine.Poller.Values
import Spine.Process.ChildRuns
import Spine.Process.DaemonDescriptors
import Spine.Script.Framing
import Spine.Script.ServerSelection
import Spine.Snmp.CountWalk
import Spine.Snmp.Session
