import Enody.Stuffing.Basic
import Enody.Stuffing.Decomposition
import Enody.Basic
import Enody.Serialization.Impl
import Enody.Serialization.Lemmas.Basic
import Enody.Serialization.Lemmas.Stream
import Enody.Serialization.Lemmas.Framing
import Enody.Channel.Bounded
import Enody.Transition.Run
import Enody.Message
import Enody.Wifi.Impl.Frame
import Enody.Wifi.Impl.SendMessage
import Enody.Wifi.Lemmas.Frame
import Enody.Wifi.Lemmas.SendMessage
import Enody.Runtime.Impl.Call
import Enody.Runtime.Impl.Dispatch
import Enody.Runtime.Lemmas.Call
import Enody.Runtime.Lemmas.Routing
import Enody.Runtime.Lemmas.Accounting
import Enody.Runtime.Lemmas.Registration
import Enody.Runtime.Lemmas.RemoteRuntime
import Enody.Connection.Impl.Calls
import Enody.Connection.Impl.Runtime
import Enody.Connection.Lemmas.Calls
import Enody.Connection.Lemmas.Runtime
import Enody.Environment
import Enody.Usb.Impl.Environment
import Enody.Usb.Impl.SerialPort
import Enody.Usb.Lemmas.Environment
import Enody.Usb.Lemmas.EventTask
import Enody.Usb.Lemmas.Enumeration
import Enody.Service.Lifecycle
import Enody.Usb.Impl.Discovery
import Enody.Wifi.Impl.Discovery
import Enody.Usb.Lemmas.SerialPort
import Enody.Presence.Replay
import Enody.Wifi.Impl.Device
import Enody.Wifi.Impl.Environment
import Enody.Wifi.Lemmas.Environment
import Enody.Wifi.Lemmas.Exclusion
import Enody.Presence.Ledger
import Enody.Wifi.Lemmas.Events
import Enody.Usb.Lemmas.Enumeration
import Enody.Service.Lifecycle
import Enody.Usb.Impl.Discovery
import Enody.Wifi.Impl.Discovery
import Enody.Usb.Lemmas.Discovery
import Enody.Discovery.Lifecycle
import Enody.Runtime.Lemmas.Ownership
import Enody.Serialization.Lemmas.Overflow
import Enody.Serde.Deserializer
import Enody.Serde.Codec
import Enody.Message.Codec
import Enody.Message.Build
import Enody.Message.Compatible
import Enody.Message.Size
import Enody.Serialization.Lemmas.Capacity
import Enody.Wifi.Impl.Codec
import Enody.Wifi.Lemmas.Limits
import Enody.Wifi.Impl.Reconcile
import Enody.Wifi.Lemmas.Reconcile
import Enody.Wifi.Lemmas.Rounds
import Enody.Wifi.Lemmas.Recovery
import Enody.Wifi.Lemmas.Uninterrupted
import Enody.Usb.Lemmas.FailedStart
import Enody.Usb.Impl.SendMessage
import Enody.Usb.Lemmas.SendMessage
import Enody.Serialization.Lemmas.Truncated
import Enody.Wifi.Lemmas.Accepted
import Enody.TokenStore.Impl
import Enody.TokenStore.Lemmas.Upsert
import Enody.TokenStore.Lemmas.Save
import Enody.Update.Impl
import Enody.Update.Lemmas.Flash
import Enody.Latest.Basic
import Enody.Wifi.Impl.Mdns
import Enody.Wifi.Lemmas.Mdns
import Enody.Wifi.Lemmas.MdnsOrder
import Enody.Wifi.Lemmas.MdnsSpelling
import Enody.Wifi.Lemmas.DeviceOrder
import Enody.Serialization.Lemmas.Batch
import Enody.Wifi.Lemmas.Initial
import Enody.Grouping.Basic
import Enody.Update.Impl.Targets
import Enody.Update.Lemmas.Targets
import Enody.Message.Version
import Enody.Text
import Enody.Update.Impl.Selection
import Enody.Update.Lemmas.Selection
import Enody.Update.Impl.Verify
import Enody.Update.Lemmas.Verify
import Enody.Update.Lemmas.Flow
import Enody.Emitter.Impl
import Enody.Span.Basic
import Enody.Emitter.Lemmas.Download
import Enody.Emitter.Lemmas.Conforming
import Enody.Fixture.Impl
import Enody.Source.Impl
import Enody.Runtime.Lemmas.Deadline
import Enody.Presence.Lossy
import Enody.Usb.Impl.PollTask
import Enody.Usb.Lemmas.PollTask
import Enody.Message.Lemmas.VersionText
import Enody.Runtime.Lemmas.Exchange
import Enody.Remote.Operation
import Enody.Cli.Impl.Prompt
import Enody.Cli.Lemmas.Ask
import Enody.Cli.Lemmas.Prompt
import Enody.Channel.Feed
import Enody.Serialization.Lemmas.Wire
import Enody.Usb.Impl.Receive
import Enody.Usb.Impl.SerialLink
import Enody.Usb.Lemmas.Receive
import Enody.Usb.Lemmas.SerialLink
import Enody.Wifi.Impl.ReadTask
import Enody.Wifi.Impl.Handshake
import Enody.Wifi.Impl.Pairing
import Enody.Wifi.Lemmas.FrameStream
import Enody.Wifi.Lemmas.ReadTask
import Enody.Wifi.Lemmas.DeviceStream
import Enody.Wifi.Lemmas.Pairing
import Enody.Wifi.Lemmas.Handshake
import Enody.Script.Basic
import Enody.Runtime.Impl.Session
import Enody.Host.Impl
import Enody.Script.Faulty
import Enody.Cli.Impl.Commands
import Enody.Runtime.Lemmas.Session
import Enody.Remote.Tree
import Enody.Cli.Lemmas.State
import Enody.Cli.Lemmas.Scan
import Enody.Cli.Lemmas.Strobe
import Enody.Store.Uncertain
import Enody.Runtime.Lemmas.Settings
import Enody.Cli.Impl.WifiToken
import Enody.Cli.Lemmas.WifiToken
import Enody.Usb.Impl.Conversation
import Enody.Usb.Lemmas.Conversation
import Enody.Usb.Lemmas.Answered
import Enody.Cli.Impl.Hotplug
import Enody.Cli.Lemmas.Hotplug
import Enody.Merge.Basic
import Enody.Wifi.Impl.Discover
import Enody.Wifi.Lemmas.Discover
import Enody.Cli.Impl.Spectral
import Enody.Cli.Lemmas.Spectral
