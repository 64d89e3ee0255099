import FrameCycle.Main
import FrameCycle.Proofs.Plan
import FrameCycle.Script.Printer
import FrameCycle.Proofs.Capture
import FrameCycle.Proofs.Latch
import FrameCycle.Proofs.Cycle.Return
import FrameCycle.Proofs.Cycle.Work
import FrameCycle.Proofs.Cycle.Step
import FrameCycle.Proofs.Cycle.Start
import FrameCycle.Proofs.Cycle.Steps
import FrameCycle.Proofs.Cycle.Service
import FrameCycle.Proofs.Run
import FrameCycle.Proofs.Schedule
import FrameCycle.Proofs.Delivery
import FrameCycle.Proofs.Resume
import FrameCycle.Proofs.Cycle.Use
import FrameCycle.Proofs.Lifetime
import FrameCycle.Proofs.Replay
import FrameCycle.Proofs.Noninterference
import FrameCycle.Proofs.Json.Grammar
import FrameCycle.Proofs.Json.Scan
import FrameCycle.Proofs.Json.Number
import FrameCycle.Proofs.Json.Quote
import FrameCycle.Proofs.Json.Skip
import FrameCycle.Proofs.Json.Reader
import FrameCycle.Proofs.Script.Document
import FrameCycle.Proofs.Script.Printer
import FrameCycle.Proofs.Cycle.Single
import FrameCycle.Proofs.Exposure
import FrameCycle.Proofs.FileNames
import FrameCycle.Proofs.Completion
import FrameCycle.Proofs.ImageStore
import FrameCycle.Proofs.Script.Validation
import FrameCycle.Proofs.Geometry
import FrameCycle.Proofs.Accounting
import FrameCycle.Proofs.Resizers
import FrameCycle.Proofs.Files
import FrameCycle.Proofs.Requests
import FrameCycle.Proofs.Preparation
import FrameCycle.Proofs.Outcome
import FrameCycle.Proofs.Linkage
import FrameCycle.Proofs.Script.Timetable
import FrameCycle.Proofs.Pipeline
import FrameCycle.Proofs.Frame.Grid
import FrameCycle.Proofs.Startup
import FrameCycle.Proofs.Cycle.Turn
import FrameCycle.Proofs.Cycle.Loop
import FrameCycle.Proofs.Termination
import FrameCycle.Proofs.Frame.Access
import FrameCycle.Proofs.Frame.Pattern
import FrameCycle.Proofs.Frame.Layout
import FrameCycle.Proofs.Sides
import FrameCycle.Proofs.CommandLine
import FrameCycle.Proofs.Text.Decoding
import FrameCycle.Proofs.LibraryPaths
import FrameCycle.Proofs.Resolution
import FrameCycle.Proofs.Segments
import FrameCycle.Proofs.Directories
import FrameCycle.Proofs.ImageFiles
import FrameCycle.Proofs.Cycle.Told
import FrameCycle.Proofs.Lines
import FrameCycle.Proofs.RunLog
import FrameCycle.Proofs.Average
