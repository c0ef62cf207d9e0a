import Sweep.Assoc
import Sweep.Bed
import Sweep.Bed.File
import Sweep.Bed.Flaw
import Sweep.Child.Lifecycle
import Sweep.Child.Start
import Sweep.Child.Status
import Sweep.Child.StatusLine
import Sweep.CommandLine.Execution
import Sweep.CommandLine.Inputs
import Sweep.CommandLine.Logging
import Sweep.CommandLine.Options
import Sweep.CommandLine.Request
import Sweep.Console.CellWidth
import Sweep.Console.Layout
import Sweep.Console.Markup
import Sweep.Console.Picture
import Sweep.Console.PictureTable
import Sweep.Document.Basic
import Sweep.Document.Decoder
import Sweep.Document.Display
import Sweep.Document.Reader
import Sweep.Duration
import Sweep.Expression
import Sweep.Expression.Reader
import Sweep.Instruction
import Sweep.Interpolation
import Sweep.Journal
import Sweep.Journal.Filling
import Sweep.Journal.Logbook
import Sweep.Machine
import Sweep.Main
import Sweep.Meter
import Sweep.NameTable
import Sweep.NameTable.Index
import Sweep.Number.Binary64
import Sweep.Number.Fixed
import Sweep.Number.Quantity
import Sweep.Number.Shortest
import Sweep.Path.Basic
import Sweep.Path.Grammar
import Sweep.Path.Reader
import Sweep.Pathname
import Sweep.Proofs.Accounting
import Sweep.Proofs.Admission
import Sweep.Proofs.Alphabet
import Sweep.Proofs.Answering
import Sweep.Proofs.Asking
import Sweep.Proofs.Assembling
import Sweep.Proofs.Balance
import Sweep.Proofs.Building
import Sweep.Proofs.Cancellation
import Sweep.Proofs.Chaining
import Sweep.Proofs.Children
import Sweep.Proofs.Chronicle
import Sweep.Proofs.Crews
import Sweep.Proofs.Deciphering
import Sweep.Proofs.Decoding
import Sweep.Proofs.Endings
import Sweep.Proofs.Enumeration
import Sweep.Proofs.Escaping
import Sweep.Proofs.Failing
import Sweep.Proofs.Fates
import Sweep.Proofs.Felling
import Sweep.Proofs.Fitting
import Sweep.Proofs.Frames
import Sweep.Proofs.Handling
import Sweep.Proofs.Hiding
import Sweep.Proofs.Hygiene
import Sweep.Proofs.Interning
import Sweep.Proofs.Layout
import Sweep.Proofs.Locating
import Sweep.Proofs.Lookup
import Sweep.Proofs.Mirroring
import Sweep.Proofs.Misreading
import Sweep.Proofs.Naming
import Sweep.Proofs.Parts
import Sweep.Proofs.Pausing
import Sweep.Proofs.Polling
import Sweep.Proofs.Positions
import Sweep.Proofs.Producing
import Sweep.Proofs.Punctuality
import Sweep.Proofs.Pushing
import Sweep.Proofs.Reading
import Sweep.Proofs.References
import Sweep.Proofs.Retaining
import Sweep.Proofs.Rewriting
import Sweep.Proofs.Rounding
import Sweep.Proofs.Routine
import Sweep.Proofs.Rows
import Sweep.Proofs.Saving
import Sweep.Proofs.Settling
import Sweep.Proofs.Shadowing
import Sweep.Proofs.Showing
import Sweep.Proofs.Simulation
import Sweep.Proofs.Sites
import Sweep.Proofs.Spelling
import Sweep.Proofs.Spreading
import Sweep.Proofs.Starting
import Sweep.Proofs.Stopping
import Sweep.Proofs.Termination
import Sweep.Proofs.Timing
import Sweep.Proofs.Tracking
import Sweep.Proofs.Trail
import Sweep.Proofs.Traversal
import Sweep.Proofs.Upkeep
import Sweep.Proofs.Waiting
import Sweep.Proofs.Walking
import Sweep.Render.Command
import Sweep.Render.Fault
import Sweep.Render.Rendering
import Sweep.Render.Template
import Sweep.Scope.AccessError
import Sweep.Scope.Basic
import Sweep.Scope.Resolution
import Sweep.Scope.Resolve
import Sweep.Session
import Sweep.Session.Setup
import Sweep.Settings
import Sweep.Statement
import Sweep.Statement.Builder
import Sweep.Statement.Reader
import Sweep.Statement.Walk
import Sweep.Supervision.Command
import Sweep.Supervision.Crew
import Sweep.Text.Blank
import Sweep.Text.DecodeFault
import Sweep.Text.Digit
import Sweep.Text.Fit
import Sweep.Text.Identifier
import Sweep.Text.Integer
import Sweep.Text.LastLine
import Sweep.Text.Letter
import Sweep.Text.Printable
import Sweep.Text.Quoted
import Sweep.Text.Ranges
import Sweep.Text.Uppercase
import Sweep.Text.Utf8
import Sweep.Value
import Sweep.Wait
import Sweep.Wait.Schedule
import Sweep.World.Basic
import Sweep.World.Disk
