import Rewind.Action
import Rewind.Batch.Basic
import Rewind.Batch.Notice
import Rewind.Batch.Report
import Rewind.Batch.Round
import Rewind.Console.Command
import Rewind.Console.CommandLine
import Rewind.Console.Session
import Rewind.Console.Transcript
import Rewind.Files.FileTree
import Rewind.Files.LocalFiles
import Rewind.Files.Path
import Rewind.Files.ReadFault
import Rewind.Journal
import Rewind.Main
import Rewind.Matcher.Basic
import Rewind.Matcher.Failure
import Rewind.Matcher.MatchTree
import Rewind.Matcher.Run
import Rewind.Matcher.Step
import Rewind.Matcher.Subject
import Rewind.Pattern.CharClass
import Rewind.Pattern.Derivation
import Rewind.Pattern.Expr
import Rewind.Pattern.Grammar
import Rewind.Pattern.Parse
import Rewind.Pattern.ParseError
import Rewind.Pattern.Parser
import Rewind.Pattern.Rule
import Rewind.Pattern.Span
import Rewind.Program.Listing
import Rewind.Program.Lowering
import Rewind.Program.Node
import Rewind.Settings
import Rewind.Store.Basic
import Rewind.Store.Cell
import Rewind.Store.Chain
import Rewind.Store.Counting
import Rewind.Store.Fault
import Rewind.Store.Generation
import Rewind.Store.Heap
import Rewind.Store.Level
import Rewind.Store.Listing
import Rewind.Store.Recycling
import Rewind.Store.Stack
import Rewind.Store.Statistics
import Rewind.Store.Tracing
import Rewind.Store.Value
import Rewind.Text.CharRanges
import Rewind.Text.Place
import Rewind.Text.Quoted
import Rewind.Text.Unprintable
import Rewind.Text.Utf8
import Rewind.Proofs.Store.Locality
import Rewind.Proofs.Store.Operations
import Rewind.Proofs.Store.Checkpoints
import Rewind.Proofs.Store.Merging
import Rewind.Proofs.Store.Erasure
import Rewind.Proofs.Store.Lockstep
import Rewind.Proofs.Store.Transparency
import Rewind.Proofs.Pattern.Meaning
import Rewind.Proofs.Store.Bindings
import Rewind.Proofs.Store.Entries
import Rewind.Proofs.Store.Standing
import Rewind.Proofs.Store.Sweeping
import Rewind.Proofs.Matcher.Scene
import Rewind.Proofs.Matcher.SceneChanges
import Rewind.Proofs.Matcher.Floor
import Rewind.Proofs.Matcher.Progress
import Rewind.Proofs.Matcher.Answers
import Rewind.Proofs.Matcher.Nodes
import Rewind.Proofs.Matcher.Repetition
import Rewind.Proofs.Program.Linking
import Rewind.Proofs.Program.Lowering
import Rewind.Proofs.Program.Wiring
import Rewind.Proofs.Matcher.Root
import Rewind.Proofs.Matcher.Activation
import Rewind.Proofs.Matcher.Discipline
import Rewind.Proofs.Matcher.Extraction
import Rewind.Proofs.Matcher.Start
import Rewind.Proofs.Matcher.Interruptions
import Rewind.Proofs.Matcher.Correctness
import Rewind.Proofs.Store.Outcomes
import Rewind.Proofs.Store.Accounting
import Rewind.Proofs.Store.Collection
import Rewind.Proofs.Store.Views
import Rewind.Proofs.Store.Soundness
import Rewind.Proofs.Store.Transfers
import Rewind.Proofs.Store.Conservation
import Rewind.Proofs.Matcher.History
import Rewind.Proofs.Matcher.Housekeeping
import Rewind.Proofs.Matcher.Leaks
import Rewind.Proofs.Matcher.Stems
import Rewind.Proofs.Matcher.Moments
import Rewind.Proofs.Matcher.Restoration
import Rewind.Proofs.Matcher.Captures
import Rewind.Proofs.Matcher.CaptureTree
import Rewind.Proofs.Store.Parallel
import Rewind.Proofs.Store.Tuning
import Rewind.Proofs.Matcher.Tandem
import Rewind.Proofs.Matcher.Tuning
import Rewind.Proofs.Store.Guards
import Rewind.Proofs.Store.Ownership
import Rewind.Proofs.Store.FreeList
import Rewind.Proofs.Store.Cascade
import Rewind.Proofs.Store.FlatStack
import Rewind.Proofs.Store.Twins
import Rewind.Proofs.Matcher.Termination
import Rewind.Proofs.Store.Journals
import Rewind.Proofs.Matcher.Pausing
import Rewind.Proofs.Store.Thresholds
import Rewind.Proofs.Matcher.Shapes
import Rewind.Proofs.Matcher.Miswiring
import Rewind.Proofs.Store.Renumbering
import Rewind.Proofs.Matcher.Reuse
import Rewind.Proofs.Batch.Schedules
import Rewind.Proofs.Pattern.Acceptance
import Rewind.Proofs.Pattern.Language
import Rewind.Proofs.Pattern.Reading
import Rewind.Proofs.Pattern.Recognition
import Rewind.Proofs.Pattern.Resolution
import Rewind.Proofs.Store.Refusals
import Rewind.Proofs.Program.ReadingBack
import Rewind.Proofs.Pattern.Tiling
import Rewind.Proofs.Text.RoundTrip
import Rewind.Proofs.Console.Sessions
import Rewind.Proofs.Store.Worklists
