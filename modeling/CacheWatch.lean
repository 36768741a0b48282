import CacheWatch.Channel.Pipeline
import CacheWatch.Clock.Written
import CacheWatch.Event.Writer
import CacheWatch.Main
import CacheWatch.Screen.Basic
import CacheWatch.Proofs.Browser.Cursor
import CacheWatch.Proofs.Browser.Selection
import CacheWatch.Proofs.Channel.Attempt
import CacheWatch.Proofs.Channel.Log
import CacheWatch.Proofs.Channel.Block
import CacheWatch.Proofs.Channel.Relay
import CacheWatch.Proofs.Channel.Timer
import CacheWatch.Proofs.Channel.Vigil
import CacheWatch.Proofs.Event.Envelope
import CacheWatch.Proofs.Event.Payload
import CacheWatch.Proofs.Event.Tag
import CacheWatch.Proofs.History
import CacheWatch.Proofs.Monitor.Run
import CacheWatch.Proofs.Monitor.Plugins
import CacheWatch.Proofs.Channel.Noise
import CacheWatch.Proofs.Channel.Retry
import CacheWatch.Proofs.Channel.Unopened
import CacheWatch.Proofs.Channel.Packet
import CacheWatch.Proofs.Channel.Speech
import CacheWatch.Proofs.Uuid
import CacheWatch.Proofs.Json.Members
import CacheWatch.Proofs.Event.Writer
import CacheWatch.Proofs.Text.Words
import CacheWatch.Proofs.Clock.Date
import CacheWatch.Proofs.Clock.Timestamp
import CacheWatch.Proofs.Clock.Written
import CacheWatch.Proofs.Clock.Label
import CacheWatch.Proofs.Screen.Panels
import CacheWatch.Proofs.Tool.Probe
import CacheWatch.Proofs.Tool.Tail
import CacheWatch.Proofs.Clock.Weekday
import CacheWatch.Proofs.Clock.Naming
import CacheWatch.Proofs.Channel.Arithmetic
import CacheWatch.Proofs.Event.Collection
import CacheWatch.Proofs.Text.Plain
import CacheWatch.Proofs.Url.Authority
import CacheWatch.Proofs.Url.Plain
import CacheWatch.Proofs.Channel.Target
import CacheWatch.Proofs.Monitor.Address
import CacheWatch.Proofs.Settings.Load
import CacheWatch.Proofs.Settings.Server
import CacheWatch.Proofs.Tool.Table
