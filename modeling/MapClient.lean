import MapClient.CommandLine.Arguments
import MapClient.CommandLine.Help
import MapClient.CommandLine.Run
import MapClient.Decimal.Nearest
import MapClient.Decimal.Shortest
import MapClient.Domain.Ascii
import MapClient.Domain.Direction
import MapClient.Domain.Joining
import MapClient.Domain.Mapping
import MapClient.Domain.Punycode
import MapClient.Files.Path
import MapClient.Files.Storage
import MapClient.Files.Tree
import MapClient.Form
import MapClient.Http.Body
import MapClient.Http.ContentType
import MapClient.Http.Fault
import MapClient.Http.Head
import MapClient.Http.Sent
import MapClient.Http.Status
import MapClient.Instant
import MapClient.Log.Event
import MapClient.Log.Filter
import MapClient.Main
import MapClient.Outcome
import MapClient.Proofs.ApiPaths
import MapClient.Proofs.Authorities
import MapClient.Proofs.BaseUrl
import MapClient.Proofs.Bodies
import MapClient.Proofs.BreakingOff
import MapClient.Proofs.Commands
import MapClient.Proofs.Consumption
import MapClient.Proofs.Dependence
import MapClient.Proofs.Dispatch
import MapClient.Proofs.Display
import MapClient.Proofs.Durations
import MapClient.Proofs.Encodings
import MapClient.Proofs.Endpoints
import MapClient.Proofs.Events
import MapClient.Proofs.Exchange
import MapClient.Proofs.FormReading
import MapClient.Proofs.Framings
import MapClient.Proofs.Heads
import MapClient.Proofs.HostNames
import MapClient.Proofs.Likeness
import MapClient.Proofs.Loading
import MapClient.Proofs.LogLines
import MapClient.Proofs.MediaTypes
import MapClient.Proofs.Merging
import MapClient.Proofs.Operands
import MapClient.Proofs.Ordering
import MapClient.Proofs.Origin
import MapClient.Proofs.Origins
import MapClient.Proofs.Overriding
import MapClient.Proofs.Parts
import MapClient.Proofs.Performing
import MapClient.Proofs.Placements
import MapClient.Proofs.Playing
import MapClient.Proofs.Posting
import MapClient.Proofs.Precedence
import MapClient.Proofs.Printing
import MapClient.Proofs.Quoting
import MapClient.Proofs.ReportLines
import MapClient.Proofs.ResponseText
import MapClient.Proofs.Sending
import MapClient.Proofs.Shuffling
import MapClient.Proofs.Simulation
import MapClient.Proofs.Slashes
import MapClient.Proofs.Sources
import MapClient.Proofs.Targets
import MapClient.Proofs.Together
import MapClient.Proofs.Turns
import MapClient.Proofs.Usability
import MapClient.Proofs.Utf16Reading
import MapClient.Proofs.Utf8Reading
import MapClient.Proofs.Validity
import MapClient.Proofs.WellFormed
import MapClient.Record
import MapClient.Session
import MapClient.Settings.Environment
import MapClient.Settings.Key
import MapClient.Settings.Load
import MapClient.Settings.Merge
import MapClient.Settings.Node
import MapClient.Settings.Places
import MapClient.Submitter
import MapClient.Task
import MapClient.Text.Base64
import MapClient.Text.Blank
import MapClient.Text.Composition
import MapClient.Text.Encoding
import MapClient.Text.Hidden
import MapClient.Text.LowerCase
import MapClient.Text.Pieces
import MapClient.Text.Quoted
import MapClient.Text.SingleByte
import MapClient.Text.Spans
import MapClient.Text.Utf16
import MapClient.Text.Utf8
import MapClient.Toml.Date
import MapClient.Toml.Document
import MapClient.Toml.Number
import MapClient.Toml.Token
import MapClient.Toml.Value
import MapClient.Transport.Exchange
import MapClient.Transport.Failure
import MapClient.Transport.Reader
import MapClient.Transport.Redirect
import MapClient.Transport.Request
import MapClient.Url.Authority
import MapClient.Url.Basic
import MapClient.Url.Ipv4
import MapClient.Url.Ipv6
import MapClient.Url.Parse
import MapClient.Url.Percent
import MapClient.Url.Segments
import MapClient.Url.Target
import MapClient.Word
