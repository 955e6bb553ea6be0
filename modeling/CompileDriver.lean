import CompileDriver.FileTree.StaleSockets
import CompileDriver.Frontend.Basic
import CompileDriver.Guard.Capture
import CompileDriver.Guard.Suppressor
import CompileDriver.Host.Journal
import CompileDriver.Log
import CompileDriver.Main
import CompileDriver.Program.Launch
import CompileDriver.Program.Process
import CompileDriver.Program.Tool
import CompileDriver.Program.Tool.Text
import CompileDriver.Proofs.Action
import CompileDriver.Proofs.Driver.Holding
import CompileDriver.Proofs.Driver.Phases
import CompileDriver.Proofs.Driver.Restore
import CompileDriver.Proofs.Driver.Session
import CompileDriver.Proofs.Driver.Spares
import CompileDriver.Proofs.Driver.Stretches
import CompileDriver.Proofs.Driver.Tidy
import CompileDriver.Proofs.Driver.Walk
import CompileDriver.Proofs.Guard.CaptureExact
import CompileDriver.Proofs.Guard.Capturing
import CompileDriver.Proofs.Guard.Draining
import CompileDriver.Proofs.Guard.Layer
import CompileDriver.Proofs.Guard.Restore
import CompileDriver.Proofs.Guard.Disciplined
import CompileDriver.Proofs.Guard.Spares
import CompileDriver.Proofs.Guard.Stage
import CompileDriver.Proofs.Guard.Started
import CompileDriver.Proofs.Guard.Tapped
import CompileDriver.Proofs.Guard.Uses
import CompileDriver.Proofs.Host.Channel
import CompileDriver.Proofs.Host.Diverted
import CompileDriver.Proofs.Host.Journal
import CompileDriver.Proofs.Host.Opened
import CompileDriver.Proofs.Host.Readers
import CompileDriver.Proofs.Host.Spawn
import CompileDriver.Proofs.Host.StandardStream
import CompileDriver.Proofs.Host.Steps
import CompileDriver.Proofs.Host.SystemCall
import CompileDriver.Proofs.Host.Table
import CompileDriver.Proofs.Toolchain.Scripted
import CompileDriver.Shell.Arithmetic
import CompileDriver.Shell.Expansion
import CompileDriver.Shell.Parser
import CompileDriver.Shell.Pattern
import CompileDriver.Text.Blank
import CompileDriver.Text.Json
import CompileDriver.Text.Word
import CompileDriver.Timings
import CompileDriver.Toolchain.Error
import CompileDriver.Toolchain.Scripted
import CompileDriver.Proofs.Guard.Nested
import CompileDriver.Proofs.Host.Ledger
import CompileDriver.Proofs.Host.Passage
import CompileDriver.Proofs.Host.Mute
import CompileDriver.Proofs.Guard.Account
import CompileDriver.Proofs.Guard.Tapping
import CompileDriver.Proofs.Guard.Life
import CompileDriver.Proofs.Guard.LifeCycle
import CompileDriver.Proofs.Host.Deeds
import CompileDriver.Proofs.Driver.Accountable
import CompileDriver.Proofs.Driver.Prepared
import CompileDriver.Proofs.Driver.Conserve
import CompileDriver.Proofs.Guard.Logging
import CompileDriver.Proofs.Driver.Logging
import CompileDriver.Proofs.Guard.OneStream
import CompileDriver.Proofs.Guard.HalfOpen
import CompileDriver.Proofs.Guard.Hiding
import CompileDriver.Proofs.Guard.HidingBooks
import CompileDriver.Proofs.Guard.HidingExact
import CompileDriver.Proofs.Guard.HidingLife
import CompileDriver.Proofs.Host.Fallow
import CompileDriver.Proofs.Guard.StartSteps
import CompileDriver.Proofs.Guard.Rollback
import CompileDriver.Proofs.Codon.Session
import CompileDriver.Proofs.Codon.History
import CompileDriver.Proofs.Codon.Driver
import CompileDriver.Proofs.FileTree.Basic
import CompileDriver.Proofs.FileTree.LastName
import CompileDriver.Proofs.FileTree.Lookup
import CompileDriver.Proofs.FileTree.Change
import CompileDriver.Proofs.FileTree.StaleSockets
import CompileDriver.Proofs.Text.AsciiPrefix
import CompileDriver.Proofs.Text.Utf8
import CompileDriver.Proofs.Frontend.Source
import CompileDriver.Proofs.Frontend.Sweep
import CompileDriver.Proofs.Codon.Scratch
import CompileDriver.Proofs.Host.Files
import CompileDriver.Proofs.Driver.Invariant
import CompileDriver.Proofs.FileTree.Source
import CompileDriver.Proofs.FileTree.Sweep
import CompileDriver.Proofs.Codon.Sparing
import CompileDriver.Proofs.Codon.Frame
import CompileDriver.Proofs.Codon.Tidy
import CompileDriver.Proofs.Codon.Leavings
import CompileDriver.Proofs.Frontend.Outcome
import CompileDriver.Proofs.Host.Hush
import CompileDriver.Proofs.Driver.Telling
import CompileDriver.Proofs.Codon.Voices
import CompileDriver.Proofs.Codon.Captured
import CompileDriver.Proofs.Frontend.Showing
import CompileDriver.Proofs.CommandLine.Output
import CompileDriver.Proofs.Host.View
import CompileDriver.Proofs.Host.Alike
import CompileDriver.Proofs.Guard.Alike
import CompileDriver.Proofs.Driver.Abreast
import CompileDriver.Proofs.Driver.CrashRace
import CompileDriver.Proofs.Driver.Crashes
import CompileDriver.Proofs.Driver.Texts
import CompileDriver.Proofs.Host.Echo
import CompileDriver.Proofs.Toolchain.Rehearsal
import CompileDriver.Proofs.Driver.Disciplined
import CompileDriver.Proofs.Driver.History
import CompileDriver.Proofs.Codon.BuildCommand
import CompileDriver.Proofs.Codon.Confinement
import CompileDriver.Proofs.Guard.Readers
import CompileDriver.Proofs.Host.Arrivals
import CompileDriver.Proofs.Codon.Diagnostics
import CompileDriver.Proofs.Analysis.WholeWords
import CompileDriver.Proofs.Analysis.CallCount
import CompileDriver.Proofs.Guard.Inheritance
import CompileDriver.Proofs.Driver.Reporting
import CompileDriver.Proofs.Driver.TimeRecords
import CompileDriver.Proofs.Driver.PhaseCalls
import CompileDriver.Proofs.Driver.PhaseTimes
import CompileDriver.Proofs.Path
import CompileDriver.Proofs.Timings
import CompileDriver.Proofs.Host.ReadLoop
import CompileDriver.Proofs.Host.Routing
