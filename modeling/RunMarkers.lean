import RunMarkers.Main
import RunMarkers.Suite.Tokenizer
import RunMarkers.Proofs.Document.Walk
import RunMarkers.Proofs.Marker.ForwardPass
import RunMarkers.Proofs.Source.Place
import RunMarkers.Proofs.Suite.Cells
import RunMarkers.Proofs.Suite.Lines
import RunMarkers.Proofs.Suite.Tree
import RunMarkers.Proofs.Document.Tokens
import RunMarkers.Proofs.Suite.Lossless
import RunMarkers.Proofs.Marker.Chunks
import RunMarkers.Proofs.Suite.Scan
import RunMarkers.Proofs.Marker.LineScan
import RunMarkers.Proofs.Marker.Headings
import RunMarkers.Proofs.Suite.Governing
import RunMarkers.Proofs.Marker.Ownership
import RunMarkers.Proofs.Document.Built
import RunMarkers.Proofs.Command.Reading
import RunMarkers.Proofs.Command.ShellLine
import RunMarkers.Proofs.Command.SimpleCommand
import RunMarkers.Proofs.Except
import RunMarkers.Proofs.FileTree.Find
import RunMarkers.Proofs.Project
import RunMarkers.Proofs.Cli.DirectoryReport
import RunMarkers.Proofs.Json.ReadBack
import RunMarkers.Proofs.Json.Records
import RunMarkers.Proofs.Marker.Json
import RunMarkers.Proofs.Config.Json
import RunMarkers.Proofs.Command.Json
import RunMarkers.Proofs.Path.Parts
import RunMarkers.Proofs.FileTree.Leads
import RunMarkers.Proofs.FileTree.Write
import RunMarkers.Proofs.Saving
import RunMarkers.Proofs.Config.Lookup
import RunMarkers.Proofs.Config.Spelling
import RunMarkers.Proofs.Cli.Init
import RunMarkers.Proofs.Cli.Target
import RunMarkers.Proofs.Cli.OwnedLine
import RunMarkers.Proofs.Marker.Joined
import RunMarkers.Proofs.Marker.Gutter
import RunMarkers.Proofs.Marker.Resaved
import RunMarkers.Document.Arena
import RunMarkers.Document.Call
import RunMarkers.Proofs.Document.Numbering
import RunMarkers.Proofs.Document.Neighbours
import RunMarkers.Proofs.Document.Records
import RunMarkers.Proofs.Document.Links
import RunMarkers.Proofs.Greatest
import RunMarkers.Proofs.Document.Ancestry
import RunMarkers.Proofs.Marker.Visibility
import RunMarkers.Proofs.Source.Positions
import RunMarkers.Proofs.Document.Calls
import RunMarkers.Proofs.Suite.Separators
import RunMarkers.Proofs.Suite.Layout
import RunMarkers.Proofs.Document.Extent
import RunMarkers.Proofs.Marker.Order
import RunMarkers.Proofs.Marker.CaseName
import RunMarkers.Proofs.Text.Quoted
import RunMarkers.Proofs.Report.Breakdown
import RunMarkers.Proofs.FileTree.Visible
import RunMarkers.Proofs.Suite.Search
import RunMarkers.Proofs.Suite.SystemNames
import RunMarkers.Config.Climb
import RunMarkers.Proofs.Config.Climb
import RunMarkers.Proofs.Marker.Range
import RunMarkers.Proofs.Cli.Answer
import RunMarkers.Proofs.Cli.JsonOutput
import RunMarkers.Proofs.Text.Lowercase
import RunMarkers.Proofs.Section
import RunMarkers.Proofs.Document.Headers
import RunMarkers.Proofs.Document.Outline
import RunMarkers.Proofs.Marker.Links
import RunMarkers.Proofs.Document.EmptyTokens
import RunMarkers.Proofs.Document.Spans
import RunMarkers.Proofs.Suite.ArenaTokens
