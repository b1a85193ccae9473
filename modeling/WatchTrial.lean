import WatchTrial.Main
import WatchTrial.Proofs.Act
import WatchTrial.Proofs.Watcher.Ending
import WatchTrial.Proofs.Trial.Preparation
import WatchTrial.Proofs.Trial.Observation
import WatchTrial.Proofs.Trial.Lifetime
import WatchTrial.Proofs.Text.Ansi
import WatchTrial.Proofs.Verdict.Report
import WatchTrial.Proofs.Verdict.Sets
import WatchTrial.Proofs.Verdict.Difference
import WatchTrial.Proofs.Verdict.Sections
import WatchTrial.Proofs.Trial.Verdict
import WatchTrial.Proofs.Text.Utf8
import WatchTrial.Proofs.Verdict.Rewrite
import WatchTrial.Proofs.Tree.Walk
import WatchTrial.Proofs.Tree.ReadBack
import WatchTrial.Proofs.Trial.Adoption
import WatchTrial.Proofs.Traversal
import WatchTrial.Proofs.Path
import WatchTrial.Proofs.Script
import WatchTrial.Proofs.Script.Reading
import WatchTrial.Proofs.Settings
import WatchTrial.Proofs.Perform
import WatchTrial.Proofs.Trial.Fault
import WatchTrial.Proofs.CommandLine
import WatchTrial.Proofs.Trial.Validation
import WatchTrial.Proofs.Event
import WatchTrial.Proofs.Trial.Reordering
import WatchTrial.Proofs.Watcher.Failing
import WatchTrial.Proofs.Trial.Stages
import WatchTrial.Proofs.CommandLine.Stages
import WatchTrial.Proofs.Trial.Results
import WatchTrial.Proofs.Event.Echo
import WatchTrial.Proofs.Text.Line
import WatchTrial.Proofs.Text.LineEnd
import WatchTrial.Proofs.Text.Lossy
import WatchTrial.Proofs.Watcher.Capture
import WatchTrial.Proofs.Watcher.Interplay
import WatchTrial.Proofs.Watcher.Collecting
import WatchTrial.Proofs.Text.Numeral
import WatchTrial.Proofs.Script.Sentence
import WatchTrial.Proofs.Trial.Rereading
import WatchTrial.Proofs.Tree.Change
import WatchTrial.Proofs.Tree.Outside
import WatchTrial.Proofs.Tree.Contents
import WatchTrial.Proofs.Tree.Rooted
import WatchTrial.Proofs.Tree.Reaching
import WatchTrial.Proofs.Tree.Moving
import WatchTrial.Proofs.Tree.Effect
import WatchTrial.Proofs.Perform.Effect
import WatchTrial.Proofs.Perform.Moving
import WatchTrial.Proofs.Perform.Keeping
import WatchTrial.Proofs.Perform.Inside
import WatchTrial.Proofs.Path.Components
import WatchTrial.Proofs.Script.Numbering
import WatchTrial.Proofs.Script.Paths
import WatchTrial.Proofs.Script.Roots
import WatchTrial.Proofs.Event.Remainder
import WatchTrial.Proofs.Event.Reading
import WatchTrial.Proofs.Path.Written
import WatchTrial.Proofs.Event.Shown
import WatchTrial.Proofs.Watcher.Speaking
import WatchTrial.Proofs.Trial.Attainable
import WatchTrial.Proofs.Perform.Refusal
import WatchTrial.Proofs.Perform.Sequence
import WatchTrial.Proofs.Tree.Including
import WatchTrial.Proofs.Script.Rerunning
import WatchTrial.Proofs.Tree.Restoring
import WatchTrial.Proofs.Perform.Undoing
import WatchTrial.Proofs.Watcher.Lines
import WatchTrial.Proofs.Number.Binary64
import WatchTrial.Proofs.Settings.Overlay
import WatchTrial.Proofs.Trial.LineEnds
import WatchTrial.Proofs.Settings.Acceptance
import WatchTrial.Proofs.Watcher.TearDown
import WatchTrial.Proofs.Watcher.Building
import WatchTrial.Proofs.Settings.Layers
