import Filmography.Atom
import Filmography.Catalog.Basic
import Filmography.Catalog.Cells
import Filmography.Catalog.DataFile
import Filmography.Catalog.Load
import Filmography.Catalog.Table
import Filmography.CommandLine.Choice
import Filmography.CommandLine.Console
import Filmography.CommandLine.Failure
import Filmography.CommandLine.Options
import Filmography.CommandLine.Program
import Filmography.Data.Checksum
import Filmography.Data.Deflate
import Filmography.Data.Delimited
import Filmography.Data.Fault
import Filmography.Data.Gzip
import Filmography.Data.Record
import Filmography.Data.Stream
import Filmography.Data.Utf8
import Filmography.Disk.Address
import Filmography.Disk.Basic
import Filmography.Disk.Handle
import Filmography.Disk.Image
import Filmography.Disk.Path
import Filmography.Disk.Session
import Filmography.Error
import Filmography.Json.Basic
import Filmography.Json.Interchange
import Filmography.Kind
import Filmography.Main
import Filmography.Number.Decimal
import Filmography.Number.FloatText
import Filmography.Number.Integer
import Filmography.Proofs.Catalog.Atomicity
import Filmography.Proofs.Catalog.Names
import Filmography.Proofs.Catalog.Reached
import Filmography.Proofs.Catalog.Replay
import Filmography.Proofs.Catalog.Written
import Filmography.Proofs.CommandLine.Choosing
import Filmography.Proofs.CommandLine.Loading
import Filmography.Proofs.CommandLine.Playing
import Filmography.Proofs.Data.Records
import Filmography.Proofs.Data.Rows
import Filmography.Proofs.Disk.Creating
import Filmography.Proofs.Disk.Deeds
import Filmography.Proofs.Disk.Effects
import Filmography.Proofs.Disk.Following
import Filmography.Proofs.Disk.LifeCycle
import Filmography.Proofs.Number.FloatEquality
import Filmography.Proofs.Number.Numerals
import Filmography.Proofs.Query.Arguments
import Filmography.Proofs.Query.Building
import Filmography.Proofs.Query.Calls
import Filmography.Proofs.Query.Closing
import Filmography.Proofs.Query.Directives
import Filmography.Proofs.Query.Layout
import Filmography.Proofs.Query.Levels
import Filmography.Proofs.Query.Names
import Filmography.Proofs.Query.Nesting
import Filmography.Proofs.Query.Parsed
import Filmography.Proofs.Query.Paths
import Filmography.Proofs.Query.Printing
import Filmography.Proofs.Query.Ranges
import Filmography.Proofs.Query.Reading
import Filmography.Proofs.Query.Refusals
import Filmography.Proofs.Query.Reordering
import Filmography.Proofs.Query.Requests
import Filmography.Proofs.Query.Respelling
import Filmography.Proofs.Query.RoundTrip
import Filmography.Proofs.Query.Seams
import Filmography.Proofs.Query.Tokens
import Filmography.Proofs.Results
import Filmography.Proofs.Search.Acceptance
import Filmography.Proofs.Search.Credits
import Filmography.Proofs.Search.Decoding
import Filmography.Proofs.Search.Failures
import Filmography.Proofs.Search.Found
import Filmography.Proofs.Search.Kinds
import Filmography.Proofs.Search.LetterCase
import Filmography.Proofs.Search.Limits
import Filmography.Proofs.Search.Meaning
import Filmography.Proofs.Search.OwnNames
import Filmography.Proofs.Search.Parameters
import Filmography.Proofs.Search.Picks
import Filmography.Proofs.Search.Placeholders
import Filmography.Proofs.Search.Ranking
import Filmography.Proofs.Search.Runs
import Filmography.Proofs.Search.Similarity
import Filmography.Proofs.Search.SortOrder
import Filmography.Proofs.Search.StatementText
import Filmography.Proofs.Search.Thresholds
import Filmography.Proofs.Search.Transcript
import Filmography.Proofs.Search.Visits
import Filmography.Proofs.Search.Winners
import Filmography.Proofs.Text.ByteOrder
import Filmography.Proofs.Text.Occurrences
import Filmography.Proofs.Text.Runs
import Filmography.Proofs.Text.Trimming
import Filmography.Query.Basic
import Filmography.Query.Call
import Filmography.Query.Directive
import Filmography.Query.Equality
import Filmography.Query.Handler
import Filmography.Query.Parser
import Filmography.Query.Printer
import Filmography.Query.Range
import Filmography.Query.Sort
import Filmography.Query.Token
import Filmography.Report.Aligned
import Filmography.Report.Directives
import Filmography.Report.Hits
import Filmography.Role
import Filmography.Search.Compile
import Filmography.Search.Dialogue
import Filmography.Search.Engine
import Filmography.Search.Hit
import Filmography.Search.Pattern
import Filmography.Search.Resolve
import Filmography.Search.Row
import Filmography.Search.Score
import Filmography.Search.Statement
import Filmography.Search.StatementText
import Filmography.Search.Strategy
import Filmography.Search.Trigram
import Filmography.Text.Alphanumeric
import Filmography.Text.Basic
import Filmography.Text.LowerCase
import Filmography.Text.Quoted
import Filmography.Text.Ranges
import Filmography.Text.Width
