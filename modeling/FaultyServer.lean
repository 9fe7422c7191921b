import FaultyServer.Address.Ip
import FaultyServer.Address.Socket
import FaultyServer.CommandLine
import FaultyServer.Connection
import FaultyServer.Counter
import FaultyServer.Decimal.Binary64
import FaultyServer.Dispatch.Basic
import FaultyServer.Dispatch.Session
import FaultyServer.Duration.Basic
import FaultyServer.Duration.Human
import FaultyServer.FileTree
import FaultyServer.Http.Message
import FaultyServer.Http.Target
import FaultyServer.Http.Token
import FaultyServer.Http.Wire
import FaultyServer.Log.Event
import FaultyServer.Log.Filter
import FaultyServer.Log.Line
import FaultyServer.Main
import FaultyServer.Mode
import FaultyServer.Network
import FaultyServer.Program
import FaultyServer.Proofs.Address.Canonical
import FaultyServer.Proofs.Address.Spelling
import FaultyServer.Proofs.Dispatch.Burst
import FaultyServer.Proofs.Dispatch.EachThird
import FaultyServer.Proofs.Dispatch.History
import FaultyServer.Proofs.Dispatch.Log
import FaultyServer.Proofs.Dispatch.Overlap
import FaultyServer.Proofs.Dispatch.SideBySide
import FaultyServer.Proofs.Dispatch.Turn
import FaultyServer.Proofs.Duration.RoundTrip
import FaultyServer.Proofs.Duration.Summands
import FaultyServer.Proofs.Except
import FaultyServer.Proofs.FileTree.Resolution
import FaultyServer.Proofs.Http.Head
import FaultyServer.Proofs.Http.Target
import FaultyServer.Proofs.Network.FailedStart
import FaultyServer.Proofs.Network.HangOnly
import FaultyServer.Proofs.Network.InFlight
import FaultyServer.Proofs.Network.LifeCycle
import FaultyServer.Proofs.Network.OneByOne
import FaultyServer.Proofs.Network.OneRequest
import FaultyServer.Proofs.Network.PathOnly
import FaultyServer.Proofs.Network.Servers
import FaultyServer.Proofs.Program.CommandLine
import FaultyServer.Proofs.Program.InvalidFile
import FaultyServer.Proofs.Program.Loopback
import FaultyServer.Proofs.Program.Outcome
import FaultyServer.Proofs.Route.Order
import FaultyServer.Proofs.Service.Layers
import FaultyServer.Proofs.Service.Router
import FaultyServer.Proofs.Settings.Edit
import FaultyServer.Proofs.Settings.Exchange
import FaultyServer.Proofs.Settings.Faults
import FaultyServer.Proofs.Settings.FieldWise
import FaultyServer.Proofs.Settings.Format
import FaultyServer.Proofs.Settings.Host
import FaultyServer.Proofs.Settings.JsonFrame
import FaultyServer.Proofs.Settings.Load
import FaultyServer.Proofs.Settings.Numbers
import FaultyServer.Proofs.Settings.Positions
import FaultyServer.Proofs.Settings.Record
import FaultyServer.Proofs.Settings.RoundTrip
import FaultyServer.Proofs.Shutdown.Clock
import FaultyServer.Proofs.Shutdown.Invariant
import FaultyServer.Proofs.Shutdown.Outcome
import FaultyServer.Proofs.Shutdown.Schedule
import FaultyServer.Proofs.Shutdown.Settle
import FaultyServer.Proofs.Shutdown.Trigger
import FaultyServer.Proofs.Text.Number
import FaultyServer.Proofs.Watch.Basic
import FaultyServer.Proofs.Watch.Erase
import FaultyServer.Proofs.Watch.Instances
import FaultyServer.Proofs.Watch.Reset
import FaultyServer.Proofs.Watch.SideBySide
import FaultyServer.Proofs.Watch.View
import FaultyServer.Proofs.Yaml.Flow
import FaultyServer.Proofs.Yaml.Json
import FaultyServer.Reply
import FaultyServer.Route
import FaultyServer.Service
import FaultyServer.Settings.Basic
import FaultyServer.Settings.Decode
import FaultyServer.Settings.Fault
import FaultyServer.Settings.Json
import FaultyServer.Settings.Load
import FaultyServer.Shutdown.Session
import FaultyServer.Shutdown.Task
import FaultyServer.Text.Blank
import FaultyServer.Text.Invisible
import FaultyServer.Text.Number
import FaultyServer.Text.Pieces
import FaultyServer.Text.Quoted
import FaultyServer.Timer
import FaultyServer.Yaml.Block
import FaultyServer.Yaml.Gap
import FaultyServer.Yaml.Node
import FaultyServer.Yaml.Node.Reader
import FaultyServer.Yaml.Plain
import FaultyServer.Yaml.Quoted
import FaultyServer.Yaml.Scalar
import FaultyServer.Yaml.Source
import FaultyServer.Yaml.Tag
import FaultyServer.Yaml.Token
import FaultyServer.Yaml.Token.Lexer
