import TermBridge.CommandLine.Scanner
import TermBridge.Main
import TermBridge.Forward.Completion
import TermBridge.Forward.Input
import TermBridge.Forward.Output
import TermBridge.Proofs.CommandLine.RoundTrip
import TermBridge.Proofs.CommandLine.Accounting
import TermBridge.Proofs.Text.Utf16
import TermBridge.Proofs.Launch.SessionArguments
import TermBridge.Proofs.Wakeup.Steps
import TermBridge.Proofs.Wakeup.NoLostWakeup
import TermBridge.Proofs.Terminal.Calls
import TermBridge.Proofs.Terminal.RollBack
import TermBridge.Proofs.Terminal.Restore
import TermBridge.Proofs.Terminal.RawMode
import TermBridge.Proofs.Wakeup.Operations
import TermBridge.Proofs.EventLoop.Steps
import TermBridge.Proofs.EventLoop.Teardown
import TermBridge.Proofs.EventLoop.Iterations
import TermBridge.Proofs.EventLoop.Sizes
import TermBridge.Proofs.EventLoop.Coalescing
import TermBridge.Forward.Calls
import TermBridge.Proofs.Forward.Calls
import TermBridge.Proofs.Forward.Output
import TermBridge.Proofs.Forward.Input
import TermBridge.Proofs.Options.Grammar
import TermBridge.Proofs.Adapter.GivingBack
import TermBridge.Wakeup.Watch
import TermBridge.Proofs.Wakeup.Watch
import TermBridge.Proofs.Wakeup.Interruptions
import TermBridge.Proofs.EventLoop.Interruptions
import TermBridge.Proofs.Forward.Interruptions
import TermBridge.Proofs.Interruptions
import TermBridge.Proofs.CommandLine.OnePass
import TermBridge.Proofs.CommandLine.Quoting
import TermBridge.Proofs.CommandLine.Joining
import TermBridge.Proofs.CommandLine.Contents
import TermBridge.Forward.InputCalls
import TermBridge.Proofs.Session.ChildEnvironment
import TermBridge.Proofs.Wakeup.Stopping
import TermBridge.Proofs.Forward.Stopping
import TermBridge.Proofs.Session.Output
import TermBridge.Proofs.Wakeup.Resetting
import TermBridge.Proofs.Settings.Document
import TermBridge.Proofs.Text.Numeral
import TermBridge.KeyDump.Table
import TermBridge.Proofs.KeyDump.Rendering
import TermBridge.Proofs.KeyDump.Dumping
import TermBridge.Proofs.Launch.WideLine
import TermBridge.Proofs.OsError
import TermBridge.Proofs.Session.Terminal
