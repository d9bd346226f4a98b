import TodoMarkers.CommandLine.Run
import TodoMarkers.Config.Session
import TodoMarkers.Decoration.Bytes
import TodoMarkers.Index.Session
import TodoMarkers.Machine
import TodoMarkers.Main
import TodoMarkers.ProgramError
import TodoMarkers.Proofs.Position
import TodoMarkers.Proofs.Text.Occurrence
import TodoMarkers.Proofs.Marker.Line
import TodoMarkers.Proofs.Marker.Spans
import TodoMarkers.Proofs.Decoration.Token
import TodoMarkers.Proofs.Marker.LineSpans
import TodoMarkers.Proofs.Decoration.Place
import TodoMarkers.Proofs.Decoration.Ranges
import TodoMarkers.Proofs.Record
import TodoMarkers.Proofs.Decoration.MarkerLines
import TodoMarkers.Proofs.Decoration.Records
import TodoMarkers.Proofs.Index.Exclusion
import TodoMarkers.Proofs.Config.Fallback
import TodoMarkers.Proofs.Config.Overrides
import TodoMarkers.Proofs.Workspace.Refinement
import TodoMarkers.Proofs.Config.Coherence
import TodoMarkers.Proofs.Path
import TodoMarkers.Proofs.Workspace.Reach
import TodoMarkers.Proofs.Workspace.Termination
import TodoMarkers.Proofs.Workspace.Coverage
import TodoMarkers.Proofs.Workspace.Isolation
import TodoMarkers.Proofs.Marker.Blocks
import TodoMarkers.Proofs.Insertion
import TodoMarkers.Proofs.Marker.Readings
import TodoMarkers.Proofs.Marker.Recognition
import TodoMarkers.Proofs.Marker.Closers
import TodoMarkers.Proofs.Comment
import TodoMarkers.Proofs.Query.Order
import TodoMarkers.Proofs.Query.Names
import TodoMarkers.Proofs.Marker.People
import TodoMarkers.Proofs.Redraft
import TodoMarkers.Proofs.Workspace.Relisting
import TodoMarkers.Proofs.LineEnds
import TodoMarkers.Proofs.PositionMap
import TodoMarkers.Proofs.Decoration.Bytes
import TodoMarkers.Proofs.Decoration.Columns
import TodoMarkers.Proofs.Text.Utf8
import TodoMarkers.Proofs.Ticket.Blocks
import TodoMarkers.Proofs.Ticket.Links
import TodoMarkers.Proofs.Vocabulary.BlankGlyphs
import TodoMarkers.Proofs.Ticket.Drafts
import TodoMarkers.Proofs.Json.Token
import TodoMarkers.Proofs.Json.Number
import TodoMarkers.Proofs.Json.Layout
import TodoMarkers.Proofs.Json.Skip
import TodoMarkers.Proofs.Json.Shape
import TodoMarkers.Proofs.Record.Json
import TodoMarkers.Proofs.Config.Printing
