import DocWire.Text.Quoted
import DocWire.Text.Utf8
import DocWire.Text.Blank
import DocWire.Duration
import DocWire.IoError
import DocWire.Method
import DocWire.Frame
import DocWire.Frame.Request
import DocWire.Json.Text
import DocWire.Json.Parse
import DocWire.Frame.Reply
import DocWire.Response.Check
import DocWire.Target
import DocWire.Connection
import DocWire.Connection.History
import DocWire.Transport.Scripted
import DocWire.Transport.Loopback
import DocWire.Client
import DocWire.Transport.Peer
import DocWire.Transport.Rehearsal
import DocWire.Json.Skip
import DocWire.Json.Typed
import DocWire.Config.Resolve
import DocWire.CommandLine
import DocWire.FileTree
import DocWire.Transport.Site
import DocWire.Main
import DocWire.Proofs.Frame.Decoding
import DocWire.Proofs.Frame.Chunking
import DocWire.Proofs.Decimal.Text
import DocWire.Proofs.Connection.Polling
import DocWire.Proofs.Connection.Moves
import DocWire.Proofs.Connection.Accounts
import DocWire.Proofs.Connection.ExactlyOnce
import DocWire.Proofs.Connection.Closing
import DocWire.Proofs.Frame.Wire
import DocWire.Proofs.Transport.Loopback
import DocWire.Proofs.Connection.Listening
import DocWire.Proofs.Connection.Correlation
import DocWire.Proofs.Connection.Writing
import DocWire.Proofs.Frame.Messages
import DocWire.Proofs.Frame.Conservation
import DocWire.Proofs.Target
import DocWire.Proofs.Database
import DocWire.Proofs.Database.Addresses
import DocWire.Proofs.Connection.Final
import DocWire.Proofs.Frame.Parsing
import DocWire.Proofs.Transport.Record
import DocWire.Proofs.Connection.Requests
import DocWire.Proofs.Transport.Inbox
import DocWire.Proofs.Transport.Ending
import DocWire.Proofs.Connection.HangUp
import DocWire.Proofs.Connection.Calls
import DocWire.Proofs.Connection.Faults
import DocWire.Proofs.Connection.Buffering
import DocWire.Proofs.Connection.Strays
import DocWire.Proofs.Connection.ZeroWait
import DocWire.Proofs.Connection.Checks
import DocWire.Proofs.Connection.Matching
import DocWire.Proofs.Frame.Consumption
import DocWire.Proofs.Connection.Waits
import DocWire.Proofs.Connection.IssueOrder
import DocWire.Proofs.Transport.InOrder
import DocWire.Proofs.Connection.Progress
import DocWire.Proofs.Connection.Unlimited
import DocWire.Proofs.Decimal.Reading
import DocWire.Proofs.CommandLine.Arguments
import DocWire.Proofs.Target.Sendable
import DocWire.Proofs.Connection.Answering
import DocWire.Proofs.Client.Verbs
import DocWire.Proofs.CommandLine.Runs
import DocWire.Proofs.Transport.Release
import DocWire.Proofs.Text.Blank
import DocWire.Proofs.Json.Grammar
import DocWire.Proofs.Json.Tokens
import DocWire.Proofs.Json.Skipping
import DocWire.Proofs.Json.Reading
import DocWire.Proofs.Config.Files
import DocWire.Proofs.Config.Layers
