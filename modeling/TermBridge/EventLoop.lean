import TermBridge.Session.Config
import TermBridge.Terminal.Modes
import TermBridge.Wakeup.Signal

namespace TermBridge

inductive WorkerName where
  | input
  | output
  | error
  deriving DecidableEq, Repr

def WorkerName.text : WorkerName → String
  | .input => "input"
  | .output => "output"
  | .error => "error"

inductive LoopError where
  | wait (err : WakeupError)
  | restore (err : RestoreError)
  deriving DecidableEq, Repr

def LoopError.message : LoopError → String
  | .wait err => err.message
  | .restore err => err.message

-- What the loop does to the outside, in order.
inductive LoopEvent where
  | querySize
  | setSize (size : TerminalSize)
  | freeSession
  | shutdown (worker : WorkerName)
  | release (worker : WorkerName)
  | restoreModes
  | exitCode
  deriving DecidableEq, Repr

def TerminalSize.text (size : TerminalSize) : String :=
  size.cols.toNat.repr ++ "x" ++ size.rows.toNat.repr

def LoopEvent.text : LoopEvent → String
  | .querySize => "query_size"
  | .setSize size => "session.set_size " ++ size.text
  | .freeSession => "session.free"
  | .shutdown worker => worker.text ++ ".shutdown"
  | .release worker => worker.text ++ ".drop"
  | .restoreModes => "modes.restore"
  | .exitCode => "child.exit_code"

namespace EventLoop

-- What happens around one size query: the workers that complete, whether the session refuses a new
-- size from now on, how often the wakeup signal is set, and the size itself if it is known.
structure Step where
  size : Option TerminalSize := none
  done : List WorkerName := []
  refuse : Bool := false
  signals : Nat := 1
  deriving DecidableEq, Repr

-- After the script the input worker completes and the size is unknown.
def Step.last : Step := { done := [.input] }

structure State where
  present : List WorkerName
  completed : List WorkerName
  wakeup : WakeupSignal
  -- The size the loop has last asked for, and the one the session has last accepted.
  size : TerminalSize
  sessionSize : TerminalSize
  refusing : Bool := false
  pollPlan : Plan := []
  log : List LoopEvent := []
  deriving DecidableEq, Repr

namespace State

def anyComplete (s : State) : Bool :=
  s.present.any (s.completed.contains ·)

-- Setting the signal at least once: without that the loop would not wake again.
def wake (s : State) (signals : Nat) : State :=
  { s with wakeup := s.wakeup.setTimes (max 1 signals) }

def resize (s : State) : Option TerminalSize → State
  | none => s
  | some size =>
    if size = s.size then s
    else { s with
      size := size
      sessionSize := if s.refusing then s.sessionSize else size
      log := s.log ++ [LoopEvent.setSize size] }

-- One query: the step takes effect, and then the size is passed on.
def query (s : State) (step : Step) : State :=
  let s := { s with
    completed := s.completed ++ step.done
    refusing := step.refuse
    log := s.log ++ [LoopEvent.querySize] }
  (s.wake step.signals).resize step.size

-- Waits, and resets the signal if the wait succeeds.
def awaken (s : State) : Option Errno × State :=
  match s.wakeup.wait s.pollPlan with
  | (.failed e, plan) => (some e, { s with pollPlan := plan })
  | (_, plan) => (none, { s with pollPlan := plan, wakeup := (s.wakeup.reset []).1 })

def record (s : State) (event : LoopEvent) : State :=
  { s with log := s.log ++ [event] }

-- Stops every worker, and releases them when none of them runs any more.
def shutDownWorkers (s : State) : State :=
  let stopped := s.present.foldl (fun s worker => s.record (.shutdown worker)) s
  s.present.foldl (fun s worker => s.record (.release worker)) stopped

end State

-- Runs until a worker has completed, which gives `none`, or a wait fails.
def running (s : State) : List Step → Option Errno × State
  | [] =>
    match s.awaken with
    | (some e, s) => (some e, s)
    | (none, s) => (none, s.query Step.last)
  | step :: rest =>
    match s.awaken with
    | (some e, s) => (some e, s)
    | (none, s) =>
      let s := s.query step
      if s.anyComplete then (none, s) else running s rest

-- The exit status when the child's own cannot be had.
def fallbackExitCode : UInt32 := 1

-- A whole run: what the loop starts with, and what happens to it.
structure Script where
  errorWorker : Bool := false
  opening : TerminalSize := .standard
  done : List WorkerName := []
  signals : Nat := 1
  steps : List Step := []
  pollPlan : Plan := []
  exitCode : Option UInt32 := none
  deriving DecidableEq, Repr

namespace Script

def present (script : Script) : List WorkerName :=
  [.input, .output] ++ (if script.errorWorker then [.error] else [])

def start (script : Script) : State :=
  let s : State := {
    present := script.present
    completed := script.done
    wakeup := .fresh
    size := script.opening
    sessionSize := script.opening
    pollPlan := script.pollPlan }
  s.wake script.signals

end Script

-- `restored` is what comes of restoring the terminal. A failed wait is held back until the terminal has
-- been restored, and a failed restoring wins over it. The child's status is only asked for when neither
-- has failed.
def run (script : Script) (restored : Except RestoreError Unit) :
    Except LoopError UInt32 × List LoopEvent :=
  let (waited, s) := running script.start script.steps
  let s := (s.record .freeSession).shutDownWorkers.record .restoreModes
  match restored with
  | .error err => (.error (.restore err), s.log)
  | .ok () =>
    match waited with
    | some e => (.error (.wait (.wait e)), s.log)
    | none => (.ok (script.exitCode.getD fallbackExitCode), (s.record .exitCode).log)

end EventLoop

end TermBridge
