import TermBridge.CommandLine.Split
import TermBridge.Session.Output
import TermBridge.Text.Octets
import TermBridge.Text.Utf16
import TermBridge.Unix.Run

namespace TermBridge

open Unix (Behaviour Machine Status System)

-- A child, with its status once that has been collected.
structure Child where
  collected : Option Status := none
  deriving DecidableEq, Repr

structure PtySession where
  environment : EnvironmentChanges
  mouseMode : MouseMode
  machine : Machine
  -- The directory that the child begins in.
  working : Files.Id
  -- The terminal's side for the child, which the first attempt to start one uses up.
  slaveHeld : Bool := true
  child : Option Child := none
  writerTaken : Bool := false
  inputOpen : Bool := false
  output : Option SessionOutput := none
  stop : WakeupSignal

namespace PtySession

structure OpenPlans where
  pipe : Plan := []
  openPty : Plan := []

def openSession (system : System) (config : SessionConfig) (plans : OpenPlans) :
    Except SessionError PtySession :=
  if config.flags.separateErrors then .error .errorChannelUnsupported
  else
    match WakeupSignal.create plans.pipe [] with
    | .error err => .error (.backend err.message)
    | .ok stop =>
      match plans.openPty.next.1 with
      | some e => .error (.backend ("failed to openpty: " ++ OsError.record e))
      | none =>
        .ok {
          environment := config.environment
          mouseMode := config.mouseMode
          machine := .ofSystem system { size := config.initialSize }
          working := system.working
          stop := stop }

-- The child.

def run (enough : Machine → Bool) (s : PtySession) : PtySession :=
  { s with machine := s.machine.run enough }

-- Runs the child as far as it comes without letting time pass.
def settle (s : PtySession) : PtySession :=
  s.run fun _ => true

-- The input endpoint.

-- Signals from the keyboard reach a child that has come as far as it can.
def typeText (s : PtySession) (text : String) : PtySession :=
  match s.machine.tty.discipline.typeText text.toList with
  | (discipline, []) => { s with machine := s.machine.withDiscipline discipline }
  | _ =>
    let s := s.settle
    { s with machine := s.machine.typeText text.toList }

def write (s : PtySession) (bytes : Bytes) : PtySession :=
  s.typeText (Octets.ofBytes bytes)

-- What dropping the input endpoint types: the end of the line, and the end of the input.
def closingText : String := "\n\x04"

def closeInput (s : PtySession) : PtySession :=
  { s.typeText closingText with inputOpen := false }

-- Makes a duplicate of the terminal's descriptor for writing. Where that cannot be made with its flags
-- it is made without them, and the flags are read and set afterwards.
def duplicateForWriting (plan : Plan) : Except String Unit × Plan :=
  match plan.next with
  | (none, plan) => (.ok (), plan)
  | (some e, plan) =>
    if e = Errno.invalidArgument then
      match plan.next with
      | (none, plan) =>
        match plan.next with
        | (none, plan) => (.ok (), plan)
        | (some e, plan) => (.error ("fcntl set cloexec failed: " ++ OsError.text e), plan)
      | (some e, plan) => (.error ("fcntl read failed: " ++ OsError.text e), plan)
    else (.error (OsError.text e), plan)

-- Two duplicates of the terminal are made, one for each endpoint. Once the first is made it is gone,
-- also if the second fails.
def takeEndpoints (s : PtySession) (duplicates : Plan) : Except SessionError Unit × PtySession :=
  if s.output.isSome then (.error .endpointsTaken, s)
  else if s.writerTaken then (.error (.backend "cannot take writer more than once"), s)
  else
    let s := { s with writerTaken := true }
    match duplicateForWriting duplicates with
    | (.error text, _) => (.error (.backend text), s)
    | (.ok (), rest) =>
      match rest.next.1 with
      | some e => (.error (.backend (OsError.text e)), s.typeText closingText)
      | none =>
        (.ok (), { s with
          inputOpen := true
          output := some (.ofMaster s.mouseMode { stop := s.stop }) })

-- Starting a command line. `start` is how the words of one become a running program.
def spawn (start : EnvironmentChanges → List String → Except SpawnError Behaviour)
    (s : PtySession) (line : WideString) : Except SpawnError Unit × PtySession :=
  if !s.slaveHeld then (.error (.internal "a child was already spawned"), s)
  else
    let s := { s with slaveHeld := false }
    match CommandLine.split line.toStringLossy with
    | [] => (.error (.internal "empty command line"), s)
    | argv =>
      match start s.environment argv with
      | .error err => (.error err, s)
      | .ok program =>
        (.ok (), { s with
          child := some {}
          machine := s.machine.startLeader s.working Machine.terminalStreams program })

def setSize (s : PtySession) (size : TerminalSize) (control : Plan) :
    Except SessionError Unit × PtySession :=
  match control.next.1 with
  | some e => (.error (.backend ("failed to ioctl(TIOCSWINSZ): " ++ OsError.record e)), s)
  | none =>
    let s := s.settle
    (.ok (), { s with machine := s.machine.resize size })

-- How long a child has to end when its session is freed.
def grace : Nat := 200000000

-- Hangs up the child. One that has shielded itself is killed, and its status is left to be collected.
def hangUp (s : PtySession) (child : Child) : PtySession :=
  let m := (s.machine.signal s.machine.leader Signals.hangup).runFor grace (·.status?.isSome)
  match m.status? with
  | some status =>
    { s with machine := m, child := some { child with collected := child.collected.or (some status) } }
  | none => { s with machine := m.signal m.leader Signals.kill }

-- The stop signal is set first.
def free (s : PtySession) : PtySession :=
  let s := { s with stop := s.stop.set, output := s.output.map SessionOutput.halt }
  match s.child with
  | some child => s.hangUp child
  | none => s

-- The child's status as a number. A killed child counts as failed.
def exitCodeOf : Status → UInt32
  | .exited code => UInt32.ofNat code
  | .killed _ => 1

-- Waits for the child. A status that was collected before needs no further call.
def exitCode (s : PtySession) (waits : Plan) : Option UInt32 × PtySession :=
  match s.child with
  | none => (none, s)
  | some child =>
    match child.collected with
    | some status => (some (exitCodeOf status), s)
    | none =>
      match waits.poll (some ()) with
      | (.ready (), _) =>
        let s := s.run (·.status?.isSome)
        match s.machine.status? with
        | some status =>
          (some (exitCodeOf status), { s with child := some { child with collected := some status } })
        | none => (none, s)
      | _ => (none, s)

-- The output endpoint.

-- Nothing can be shown any more.
def hungUp (s : PtySession) : Bool :=
  !s.slaveHeld && !s.machine.terminalHeld

-- Moves what the terminal has shown to the endpoint.
def deliver (s : PtySession) (reads polls : Plan) (o : SessionOutput) : SessionOutput × PtySession :=
  let (output, discipline) := s.machine.tty.discipline.takeOutput
  let master := { o.master with
    waiting := o.master.waiting ++ Octets.toBytes (String.ofList output)
    hungUp := s.hungUp
    readPlan := reads
    pollPlan := polls }
  ({ o with master := master }, { s with machine := s.machine.withDiscipline discipline })

def keep (s : PtySession) (o : SessionOutput) : PtySession :=
  { s with output := some { o with master := { o.master with readPlan := [], pollPlan := [] } } }

-- Reads exactly `n` bytes. Time passes for the child only while these are not there yet.
def read (s : PtySession) (n : Nat) (reads polls : Plan) : Option Bytes × PtySession :=
  match s.output with
  | none => (none, s)
  | some o =>
    let there := o.front.length + o.master.waiting.length
    let s := s.run fun m => n ≤ there + m.tty.discipline.shownCount
    let (o, s) := s.deliver reads polls o
    let (result, o) := o.readExactly n
    (result, s.keep o)

def readAll (s : PtySession) (reads polls : Plan) : Option Bytes × PtySession :=
  match s.output with
  | none => (none, s)
  | some o =>
    let s := s.run fun m => !m.terminalHeld
    let (o, s) := s.deliver reads polls o
    let (result, o) := o.readAll
    (result, s.keep o)

end PtySession

end TermBridge
