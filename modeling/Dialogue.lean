import Dialogue.Bus.Basic
import Dialogue.Bus.Dispatch
import Dialogue.Bus.Event
import Dialogue.Bus.Handler
import Dialogue.CommandLine.Options
import Dialogue.CommandLine.Run
import Dialogue.Compile.Assembly
import Dialogue.Compile.Basic
import Dialogue.Compile.Bounded
import Dialogue.Compile.Draft
import Dialogue.Compile.Log
import Dialogue.Compile.Machine
import Dialogue.Compile.Notice
import Dialogue.Compile.Session
import Dialogue.Config.Basic
import Dialogue.Config.Fields
import Dialogue.Disk.Basic
import Dialogue.Disk.Graphs
import Dialogue.Disk.Path
import Dialogue.Graph.Basic
import Dialogue.Graph.Format
import Dialogue.Graph.Record
import Dialogue.Json.Basic
import Dialogue.Json.Display
import Dialogue.Json.Reader
import Dialogue.Json.Writer
import Dialogue.Log
import Dialogue.Main
import Dialogue.Number.Binary64
import Dialogue.Number.Shortest
import Dialogue.Number.Whole
import Dialogue.Proofs.Run.Effects
import Dialogue.Proofs.Run.Moves
import Dialogue.Script.Line
import Dialogue.Script.Token
import Dialogue.Text.Blank
import Dialogue.Text.Digit
import Dialogue.Text.Lines
import Dialogue.Text.Printable
import Dialogue.Text.Quoted
import Dialogue.Text.Utf8
import Dialogue.Validation.Graph
import Dialogue.Validation.Issue
import Dialogue.Validation.Value
import Dialogue.Proofs.Run.Safety
import Dialogue.Proofs.Run.Journal
import Dialogue.Proofs.Run.Passage
import Dialogue.Proofs.Run.Replay
import Dialogue.Proofs.Layout.Basic
import Dialogue.Proofs.Layout.Stage
import Dialogue.Proofs.Layout.Lines
import Dialogue.Proofs.Layout.Compile
import Dialogue.Proofs.Run.Twin
import Dialogue.Proofs.Run.Ending
import Dialogue.Proofs.Run.Chronicle
import Dialogue.Proofs.Run.History
import Dialogue.Proofs.Run.Target
import Dialogue.Proofs.Bus.Conduct
import Dialogue.Proofs.Bus.OneShot
import Dialogue.Proofs.Run.Passive
import Dialogue.Proofs.Run.Growth
import Dialogue.Proofs.Outline.Segment
import Dialogue.Proofs.Outline.Session
import Dialogue.Proofs.Outline.Run
import Dialogue.Proofs.Outline.Compile
import Dialogue.Proofs.Bus.Hearing
import Dialogue.Proofs.Bus.Serving
import Dialogue.Proofs.Run.Narration
import Dialogue.Proofs.Run.Shallow
import Dialogue.Proofs.Layout.Spacing
import Dialogue.Proofs.Disk.Folder
import Dialogue.Proofs.CommandLine.Build
import Dialogue.Proofs.CommandLine.Exit
import Dialogue.Proofs.CommandLine.Delivery
import Dialogue.Proofs.Bus.Removal
import Dialogue.Proofs.Run.Coherence
import Dialogue.Proofs.Graph.Assembly
import Dialogue.Proofs.Graph.Format
import Dialogue.Proofs.Graph.Lookup
import Dialogue.Proofs.Run.Handling
import Dialogue.Proofs.Outline.Block
import Dialogue.Proofs.Run.Block
import Dialogue.Proofs.Disk.Script
import Dialogue.Proofs.CommandLine.Agreement
import Dialogue.Proofs.CommandLine.Source
import Dialogue.Proofs.Config.Fields
import Dialogue.Proofs.Config.Assignment
