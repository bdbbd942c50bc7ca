import TableSketch.CommandLine.Arguments
import TableSketch.CommandLine.Command
import TableSketch.CommandLine.Program
import TableSketch.Console.ColorNames
import TableSketch.Console.Emoji
import TableSketch.Console.EmojiTable
import TableSketch.Console.Glyph
import TableSketch.Console.Grid
import TableSketch.Console.Layout
import TableSketch.Console.Literal
import TableSketch.Console.Markup
import TableSketch.Console.Style
import TableSketch.Console.Wrap
import TableSketch.Ddl
import TableSketch.Desk
import TableSketch.Generation
import TableSketch.Json.Basic
import TableSketch.Json.Reader
import TableSketch.Json.Writer
import TableSketch.Main
import TableSketch.Number.Binary64
import TableSketch.Number.Lenient
import TableSketch.Number.Shortest
import TableSketch.Platform
import TableSketch.Preview
import TableSketch.Prompt
import TableSketch.Proofs.CommandLine.Arguments
import TableSketch.Proofs.Console.Markup
import TableSketch.Proofs.Generation.Again
import TableSketch.Proofs.Generation.Failing
import TableSketch.Proofs.Generation.Keeping
import TableSketch.Proofs.Generation.Outputs
import TableSketch.Proofs.Generation.Parts
import TableSketch.Proofs.Generation.Ready
import TableSketch.Proofs.Generation.Results
import TableSketch.Proofs.Generation.Rounds
import TableSketch.Proofs.Generation.Targets
import TableSketch.Proofs.Generation.Work
import TableSketch.Proofs.Generation.Written
import TableSketch.Proofs.Json.ReadBack
import TableSketch.Proofs.Output.CodeBlock
import TableSketch.Proofs.Output.Lines
import TableSketch.Proofs.Output.Page
import TableSketch.Proofs.Output.Paragraphs
import TableSketch.Proofs.Output.Script
import TableSketch.Proofs.Schema.Documents
import TableSketch.Proofs.Schema.Growing
import TableSketch.Proofs.Schema.Names
import TableSketch.Proofs.Schema.Policies
import TableSketch.Proofs.Schema.Reload
import TableSketch.Proofs.Schema.Resolved
import TableSketch.Proofs.Schema.Rows
import TableSketch.Proofs.Sketch.Declared
import TableSketch.Proofs.Sketch.Directives
import TableSketch.Proofs.Sketch.Entries
import TableSketch.Proofs.Sketch.Growth
import TableSketch.Proofs.Sketch.Heading
import TableSketch.Proofs.Sketch.Layout
import TableSketch.Proofs.Sketch.Modes
import TableSketch.Proofs.Sketch.Neighbours
import TableSketch.Proofs.Sketch.Nesting
import TableSketch.Proofs.Sketch.Outcomes
import TableSketch.Proofs.Sketch.Padding
import TableSketch.Proofs.Sketch.Reading
import TableSketch.Proofs.Sketch.Written
import TableSketch.Proofs.Storage.Edits
import TableSketch.Proofs.Storage.Finding
import TableSketch.Proofs.Storage.Fitting
import TableSketch.Proofs.Storage.Growth
import TableSketch.Proofs.Storage.Invariant
import TableSketch.Proofs.Storage.Listing
import TableSketch.Proofs.Storage.Names
import TableSketch.Proofs.Storage.Search
import TableSketch.Proofs.Storage.Writing
import TableSketch.Proofs.Text.Decoding
import TableSketch.Proofs.Text.Joined
import TableSketch.Proofs.Text.Recovery
import TableSketch.Proofs.Text.Upper
import TableSketch.Proofs.Watch.Closing
import TableSketch.Proofs.Watch.History
import TableSketch.Proofs.Watch.Interleaving
import TableSketch.Proofs.Watch.Races
import TableSketch.Proofs.Watch.SingleFile
import TableSketch.Proofs.Watch.UpToDate
import TableSketch.Schema.Basic
import TableSketch.Schema.Document
import TableSketch.Schema.Duplicates
import TableSketch.Schema.Flags
import TableSketch.Session
import TableSketch.Settings.Basic
import TableSketch.Settings.EnvFile
import TableSketch.Sketch.Entry
import TableSketch.Sketch.Scan
import TableSketch.Sketch.Tables
import TableSketch.Storage.Basic
import TableSketch.Storage.Discovery
import TableSketch.Storage.FileTree
import TableSketch.Storage.Path
import TableSketch.Text.Blank
import TableSketch.Text.Case
import TableSketch.Text.CaseTable
import TableSketch.Text.CasedTable
import TableSketch.Text.Cluster
import TableSketch.Text.Newline
import TableSketch.Text.Pieces
import TableSketch.Text.PrintableTable
import TableSketch.Text.Quoted
import TableSketch.Text.Utf8
import TableSketch.Text.Width
import TableSketch.Text.WidthTable
import TableSketch.Text.WordTable
import TableSketch.Validation
import TableSketch.Watch.Loop
import TableSketch.Watch.Polling
import TableSketch.Watch.Scene
import TableSketch.Watch.Watcher
import TableSketch.Proofs.CommandLine.Input
import TableSketch.Proofs.CommandLine.Steering
import TableSketch.Proofs.CommandLine.Agreement
import TableSketch.Proofs.Sketch.Canonical
import TableSketch.Proofs.Number.Rounding
import TableSketch.Proofs.Number.Sums
import TableSketch.Proofs.Watch.Waiting
import TableSketch.Proofs.Settings.Admitted
