import MediaControl.Address
import MediaControl.ChannelTable
import MediaControl.Client.Config
import MediaControl.Client.Error
import MediaControl.Client.Sending
import MediaControl.Client.Session
import MediaControl.CommandLine.Action
import MediaControl.CommandLine.Command
import MediaControl.CommandLine.Options
import MediaControl.Connection
import MediaControl.Correlator
import MediaControl.Error
import MediaControl.EventName
import MediaControl.Files
import MediaControl.Header.Basic
import MediaControl.Header.Catalogue
import MediaControl.Header.Cause
import MediaControl.Header.ChannelId
import MediaControl.Header.Illegal
import MediaControl.Header.Value
import MediaControl.Logging
import MediaControl.Mailbox
import MediaControl.Main
import MediaControl.Message
import MediaControl.Method
import MediaControl.Number.Decimal
import MediaControl.Number.DecimalText
import MediaControl.Number.Duration
import MediaControl.Number.Natural
import MediaControl.Number.Shortest
import MediaControl.RequestState
import MediaControl.Resource
import MediaControl.Routing
import MediaControl.Server.Basic
import MediaControl.Server.Call
import MediaControl.Server.Channel
import MediaControl.Server.Demo
import MediaControl.Server.Error
import MediaControl.Server.Handlers
import MediaControl.Server.Registry
import MediaControl.Server.Script
import MediaControl.Server.Shutdown
import MediaControl.Simulation.Agenda
import MediaControl.Simulation.FileTree
import MediaControl.Simulation.Mailbox
import MediaControl.Simulation.Network
import MediaControl.Simulation.Waiting
import MediaControl.Simulation.Watched
import MediaControl.Status
import MediaControl.Table
import MediaControl.Text.Blank
import MediaControl.Text.Caseless
import MediaControl.Text.Printable
import MediaControl.Text.Quoted
import MediaControl.Text.Utf8
import MediaControl.Toml.Digits
import MediaControl.Toml.Document
import MediaControl.Toml.Item
import MediaControl.Toml.Literal
import MediaControl.Toml.Nesting
import MediaControl.Toml.Quoted
import MediaControl.Toml.Reader
import MediaControl.Toml.Scalar
import MediaControl.Toml.Value
import MediaControl.Vocabulary
import MediaControl.Wire.Decode
import MediaControl.Wire.Encode
import MediaControl.Wire.Fault
import MediaControl.Wire.Head
import MediaControl.Wire.Intake
import MediaControl.Wire.Length
import MediaControl.Wire.StartLine
import MediaControl.Wire.Stream
import MediaControl.Proofs.Number.Written
import MediaControl.Proofs.Text.Encoding
import MediaControl.Proofs.Text.Words
import MediaControl.Proofs.Vocabulary
import MediaControl.Proofs.Header.ChannelId
import MediaControl.Proofs.Header.Naming
import MediaControl.Proofs.Wire.Length
import MediaControl.Proofs.Wire.StartLine
import MediaControl.Proofs.Wire.Head
import MediaControl.Proofs.Wire.RoundTrip
import MediaControl.Proofs.Wire.Drain
import MediaControl.Proofs.Wire.Delivery
import MediaControl.Proofs.Correlator.Slots
import MediaControl.Proofs.Correlator.Handling
import MediaControl.Proofs.Correlator.Ledger
import MediaControl.Proofs.Correlator.Runs
import MediaControl.Proofs.Correlator.Accounted
import MediaControl.Proofs.Client.Standing
import MediaControl.Proofs.Client.History
import MediaControl.Proofs.Client.Ending
import MediaControl.Proofs.Server.Docket
import MediaControl.Proofs.Server.History
import MediaControl.Proofs.Server.Rulings
import MediaControl.Proofs.Server.Cases
import MediaControl.Proofs.Server.Answers
import MediaControl.Proofs.Client.Numbering
import MediaControl.Proofs.Server.Demonstration
import MediaControl.Proofs.Dialogue.Basic
import MediaControl.Proofs.Dialogue.ClientSide
import MediaControl.Proofs.Dialogue.ServerSide
import MediaControl.Proofs.Dialogue.BothSides
import MediaControl.Proofs.Dialogue.Rest
import MediaControl.Proofs.Dialogue.Agreement
import MediaControl.Proofs.Number.Read
import MediaControl.Proofs.Text.Decoding
import MediaControl.Proofs.Text.Size
import MediaControl.Proofs.Wire.HeadLines
import MediaControl.Proofs.Wire.Accepted
import MediaControl.Proofs.Wire.Delimiting
import MediaControl.Proofs.Wire.Size
import MediaControl.Proofs.Wire.Reread
import MediaControl.Proofs.Wire.Taking
import MediaControl.Proofs.Connection.Sightings
import MediaControl.Proofs.Server.Refusals
import MediaControl.Proofs.Wire.HeadText
import MediaControl.Proofs.Wire.Grammar
import MediaControl.Proofs.Client.Callers
import MediaControl.Proofs.Server.Unsplit
import MediaControl.Proofs.Service.Basic
import MediaControl.Proofs.Service.Steps
import MediaControl.Proofs.Service.Upkeep
import MediaControl.Proofs.Service.Stream
import MediaControl.Proofs.Service.Alone
import MediaControl.Proofs.Service.Isolation
import MediaControl.Proofs.Wire.LengthField
import MediaControl.Proofs.Wire.Look
import MediaControl.Proofs.Wire.Atomic
import MediaControl.Proofs.Wire.Machine
import MediaControl.Proofs.Wire.Bounds
import MediaControl.Proofs.Text.Tokens
import MediaControl.Proofs.Number.DecimalText
import MediaControl.Proofs.Header.Cause
import MediaControl.Proofs.Header.Canonical
import MediaControl.Proofs.Header.Identity
import MediaControl.Proofs.Wire.LengthReaders
import MediaControl.Proofs.Client.Invoking
import MediaControl.Proofs.Correlator.Failing
import MediaControl.Proofs.Simulation.Sessions
import MediaControl.Proofs.Client.Reading
import MediaControl.Proofs.Client.Outcomes
import MediaControl.Proofs.Client.Unsolicited
import MediaControl.Proofs.Client.Readers
import MediaControl.Proofs.Client.Listening
import MediaControl.Proofs.Header.Edits
import MediaControl.Proofs.Registration.SameChannel
import MediaControl.Proofs.Registration.Exclusive
import MediaControl.Proofs.Wire.Ending
