import ScriptScan.Build
import ScriptScan.Config.Json
import ScriptScan.File.Tree
import ScriptScan.Log.Request
import ScriptScan.Main
import ScriptScan.Source.Cursor
import ScriptScan.Source.Json
import ScriptScan.Token.Stream
import ScriptScan.Proofs.Lexeme
import ScriptScan.Proofs.Scanner
import ScriptScan.Proofs.MaximalMunch
import ScriptScan.Proofs.Acts
import ScriptScan.Proofs.Places
import ScriptScan.Proofs.Strays
import ScriptScan.Proofs.Strict
import ScriptScan.Proofs.Splitting
import ScriptScan.Proofs.Thresholds
import ScriptScan.Proofs.Segments
import ScriptScan.Proofs.Layout
import ScriptScan.Proofs.Calls
import ScriptScan.Proofs.Zipper
import ScriptScan.Proofs.Lines
import ScriptScan.Proofs.Annotation
import ScriptScan.Proofs.LineTable
import ScriptScan.Proofs.Coordinates
import ScriptScan.Proofs.Loading
import ScriptScan.Proofs.Limits
import ScriptScan.Proofs.Measures
import ScriptScan.Proofs.History
import ScriptScan.Proofs.Runs
import ScriptScan.Proofs.JsonLayout
import ScriptScan.Proofs.JsonReading
import ScriptScan.Proofs.JsonLines
import ScriptScan.Proofs.JsonRecords
import ScriptScan.Proofs.Layering
import ScriptScan.Proofs.Scopes
import ScriptScan.Proofs.Printing
import ScriptScan.Proofs.Replay
import ScriptScan.Proofs.LoadEvents
import ScriptScan.Proofs.AnalysisEvents
import ScriptScan.Proofs.Contents
import ScriptScan.Proofs.Arguments
import ScriptScan.Proofs.EventJson
import ScriptScan.Proofs.Clipping
import ScriptScan.Proofs.Sizes
