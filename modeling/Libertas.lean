import Libertas.Transition.Basic
import Libertas.Transition.Ownership
import Libertas.Transition.Fifo
import Libertas.Transition.Partition
import Libertas.Transition.History
import Libertas.Transition.Turn
import Libertas.Transition.Loop
import Libertas.Transition.Trace
import Libertas.Transition.Procedure
import Libertas.Transition.Ledger
import Libertas.Transition.Cells
import Libertas.Chunks
import Libertas.Rounding
import Libertas.Window
import Libertas.Selection
import Libertas.Stream
import Libertas.ByteOrder
import Libertas.Stores
import Libertas.Printing
import Libertas.Scanning
import Libertas.Exchange
import Libertas.Tlv
import Libertas.Host
import Libertas.Workqueue
import Libertas.Region
import Libertas.Dev
import Libertas.Cmd.Queue
import Libertas.Cmd.Prepare
import Libertas.Cmd.Builders
import Libertas.Cmd.Execute
import Libertas.CmdResp.Handlers
import Libertas.Cmd.SnmpMib
import Libertas.CmdResp.Process
import Libertas.CmdResp.Acceptance
import Libertas.Driver.System
import Libertas.Driver.Linking
import Libertas.Driver.Views
import Libertas.Driver.Ownership
import Libertas.Driver.Live
import Libertas.Driver.Mailbox
import Libertas.Driver.Progress
import Libertas.Driver.PowerSave
import Libertas.Driver.Results
import Libertas.Driver.Download
import Libertas.Driver.Retry
import Libertas.Driver.Buffers
import Libertas.Driver.Submission
import Libertas.Driver.Completion
import Libertas.Driver.Status
import Libertas.Cmd.Outcome
import Libertas.Cmd.Card
import Libertas.Driver.Iteration
import Libertas.Driver.Spin
import Libertas.Driver.Watchdog
import Libertas.Driver.Order
import Libertas.Driver.Events
import Libertas.Tx.Xmit
import Libertas.Tx.Staging
import Libertas.Tx.Queues
import Libertas.Scan.Table
import Libertas.CmdResp.Delivered
import Libertas.CmdResp.JoinFailure
import Libertas.Scan.Stored
import Libertas.Scan.Eviction
import Libertas.Scan.Framing
import Libertas.Scan.Beacon
import Libertas.Scan.Bounds
import Libertas.Scan.Descriptor
import Libertas.Scan.RateSet
import Libertas.Scan.Extent
import Libertas.Scan.Listing
import Libertas.Scan.Worker
import Libertas.Scan.Coverage
import Libertas.Scan.Chunks
import Libertas.Scan.Partial
import Libertas.Scan.Report
import Libertas.Assoc.Request
import Libertas.Assoc.Setters
import Libertas.Assoc.Rejection
import Libertas.Assoc.Calls
import Libertas.Assoc.Getters
import Libertas.Assoc.Worker
import Libertas.Assoc.KeyIndex
import Libertas.Assoc.WepStore
import Libertas.Assoc.Attributes
import Libertas.Assoc.Latest
import Libertas.Assoc.ReadBack
import Libertas.Assoc.KeyMaterial
import Libertas.Assoc.Associate
import Libertas.Assoc.CommonRates
import Libertas.Scan.Command
import Libertas.Assoc.Build
import Libertas.Assoc.BestNetwork
import Libertas.Bits
import Libertas.MacControl
import Libertas.Multicast
import Libertas.Radio
import Libertas.Interfaces
import Libertas.IfSdio
import Libertas.IfSdio.AlignSize
import Libertas.IfSdio.CardToHost
import Libertas.Rx.Average
import Libertas.Rx.Packet
import Libertas.Rx.Disposal
import Libertas.Cmd.Wrappers
import Libertas.Cmd.Channel
import Libertas.Cmd.Mesh
import Libertas.Assoc.ChannelHelper
import Libertas.Assoc.Pass
import Libertas.Assoc.PassOrder
import Libertas.Assoc.Leaving
import Libertas.Assoc.Arrival
import Libertas.Assoc.Choice
import Libertas.PersistCfg
import Libertas.PersistCfg.Attributes
import Libertas.IfSdio.Helper
import Libertas.IfSdio.Firmware
import Libertas.Bringup
import Libertas.Bringup.Balance
import Libertas.Bringup.Probe
import Libertas.Bringup.Life
import Libertas.Bringup.Host
import Libertas.Wext.Rate
import Libertas.Wext.Freq
import Libertas.Wext.Quality
import Libertas.Wext.Mib
import Libertas.Domain.Subbands
import Libertas.Domain.CountryInfo
import Libertas.Wext.Range
import Libertas.TlvFind
import Libertas.TlvSearch
import Libertas.Subscriptions
