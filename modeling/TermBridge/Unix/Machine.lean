import TermBridge.Terminal.LineDiscipline
import TermBridge.Unix.Process

namespace TermBridge.Unix

-- Bytes on their way from one process to another: the older ones first, then the newer ones, newest
-- first.
structure Pipe where
  front : List Char := []
  back : List Char := []
  size : Nat := 0
  -- Somebody outside may still write into it.
  fedFromOutside : Bool := false
  deriving DecidableEq, Repr

namespace Pipe

def capacity : Nat := 65536

-- So many bytes go through a pipe together.
def atom : Nat := 4096

def ofText (text : List Char) (fedFromOutside : Bool) : Pipe :=
  { front := text, size := text.length, fedFromOutside := fedFromOutside }

def add (p : Pipe) (text : List Char) : Pipe :=
  { p with back := text.reverse ++ p.back, size := p.size + text.length }

def take (p : Pipe) (n : Nat) : List Char × Pipe :=
  let front := if p.front.length < n then p.front ++ p.back.reverse else p.front
  let back := if p.front.length < n then [] else p.back
  (front.take n, { p with front := front.drop n, back := back, size := p.size - n })

end Pipe

inductive Object where
  | file (id : Files.Id)
  | null
  | zero
  | full
  | pipe (n : Nat)
  | terminal
  -- Everything written here is collected: the output of the session's first process, or its errors.
  | collector (errors : Bool)
  deriving DecidableEq, Repr

structure OpenFile where
  object : Object
  reads : Bool
  writes : Bool
  appends : Bool := false
  position : Nat := 0
  deriving DecidableEq, Repr

structure Tty where
  discipline : LineDiscipline := {}
  size : TerminalSize
  -- The process group that the keyboard belongs to.
  foreground : Nat := 0
  -- The session's first process is there, so the terminal controls its processes.
  controls : Bool := true

-- What processes are started in: the files with a working directory, and what a program does with its
-- arguments and its environment.
structure System where
  files : FileSystem
  working : Files.Id := FileSystem.root
  load : String → List String → List String → Behaviour

structure Machine where
  -- Nanoseconds since the beginning.
  clock : Nat := 0
  processes : List Process := []
  -- The running processes, in the order of their turns.
  turns : List Nat := []
  -- Signals with their receivers that arrive when the sender's turn is over.
  mail : List (Nat × Nat) := []
  -- The first process of the session.
  leader : Nat := 0
  nextProcess : Nat := 4000
  files : FileSystem
  openFiles : List (Nat × OpenFile) := []
  nextFile : Nat := 0
  pipes : List (Nat × Pipe) := []
  nextPipe : Nat := 0
  tty : Tty
  -- What has been collected, newest first.
  collectedOutput : List Char := []
  collectedErrors : List Char := []
  load : String → List String → List String → Behaviour

namespace Machine

-- A machine without processes.
def ofSystem (system : System) (tty : Tty) : Machine where
  files := system.files
  tty := tty
  load := system.load

def process? (m : Machine) (id : Nat) : Option Process :=
  m.processes.find? (·.id == id)

def update (m : Machine) (p : Process) : Machine :=
  { m with processes := m.processes.map fun q => if q.id == p.id then p else q }

def openFile? (m : Machine) (n : Nat) : Option OpenFile :=
  m.openFiles.lookup n

def setOpenFile (m : Machine) (n : Nat) (f : OpenFile) : Machine :=
  { m with openFiles := m.openFiles.map fun entry => if entry.1 == n then (n, f) else entry }

def addOpenFile (m : Machine) (f : OpenFile) : Machine × Nat :=
  ({ m with openFiles := (m.nextFile, f) :: m.openFiles, nextFile := m.nextFile + 1 }, m.nextFile)

def pipe (m : Machine) (n : Nat) : Pipe :=
  (m.pipes.lookup n).getD {}

def setPipe (m : Machine) (n : Nat) (p : Pipe) : Machine :=
  { m with pipes := m.pipes.map fun entry => if entry.1 == n then (n, p) else entry }

def addPipe (m : Machine) (p : Pipe) : Machine × Nat :=
  ({ m with pipes := (m.nextPipe, p) :: m.pipes, nextPipe := m.nextPipe + 1 }, m.nextPipe)

-- Whether a process has an open file of some kind.
def holds (m : Machine) (p : OpenFile → Bool) : Bool :=
  m.processes.any fun q => q.descriptors.any fun d => (m.openFile? d.2.file).any p

def hasReader (m : Machine) (pipe : Nat) : Bool :=
  m.holds fun f => f.object = .pipe pipe && f.reads

def hasWriter (m : Machine) (pipe : Nat) : Bool :=
  (m.pipe pipe).fedFromOutside || m.holds fun f => f.object = .pipe pipe && f.writes

def terminalHeld (m : Machine) : Bool :=
  m.holds (·.object = .terminal)

-- Forgets open files and pipes that nobody has any more.
def sweep (m : Machine) : Machine :=
  let held := m.processes.flatMap fun p => p.descriptors.map (·.2.file)
  let files := m.openFiles.filter fun entry => held.contains entry.1
  let used := files.filterMap fun entry =>
    match entry.2.object with
    | .pipe n => some n
    | _ => none
  { m with openFiles := files, pipes := m.pipes.filter fun entry => used.contains entry.1 }

-- Signals.

-- A group that no process outside of it can look after: nobody would continue it.
def isOrphaned (m : Machine) (group : Nat) : Bool :=
  !m.processes.any fun p =>
    p.group == group && p.isAlive &&
      m.processes.any fun q => q.id == p.parent && q.isAlive && q.group != group

def members (m : Machine) (group : Nat) : List Nat :=
  (m.processes.filter fun p => p.group == group).map (·.id)

def setPhase (m : Machine) (p : Process) (phase : Phase) : Machine :=
  let turns := m.turns.filter (· != p.id)
  { m.update { p with phase := phase } with
    turns := if phase = .running then turns ++ [p.id] else turns }

-- A stopped process goes on where it was.
def continue_ (m : Machine) (p : Process) : Machine :=
  if p.phase = .stopped then m.setPhase { p with news := none, held := [] } .running else m

-- A process whose parent is not there is not waited for. The first one is waited for from outside.
def reap (m : Machine) : Machine :=
  { m with processes := m.processes.filter fun p =>
      p.isAlive || p.id == m.leader ||
        m.processes.any fun q => q.id == p.parent && q.isAlive }

-- Tells a process of a signal that it notes if it wants to.
def tell (m : Machine) (id signal : Nat) : Machine :=
  match m.process? id with
  | some p => if p.isAlive && p.disposition signal = .caught then m.update (p.note signal) else m
  | none => m

def stop (m : Machine) (p : Process) (signal : Nat) : Machine :=
  (m.setPhase { p with news := some (.stopped signal) } .stopped).tell p.parent Signals.childEnded

-- The parent of processes whose parent has ended.
def outside : Nat := 1

-- The end of a process, as far as it concerns its own state and its parent. Its children have no
-- parent any more.
def bury (m : Machine) (p : Process) (status : Status) : Machine :=
  let m := m.setPhase {
    p with behaviour := .ended 0, news := some (.ended status), descriptors := [] } (.ended status)
  let m := { m with processes := m.processes.map fun (q : Process) =>
    if q.parent == p.id then { q with parent := outside } else q }
  (m.tell p.parent Signals.childEnded).sweep

mutual

-- Sends a signal. One that kills can end the first process, and that ends others; the fuel bounds how
-- often that goes on.
def send (fuel : Nat) (m : Machine) (id signal : Nat) : Machine :=
  match fuel, m.process? id with
  | 0, _ | _, none => m
  | fuel + 1, some p =>
    if !p.isAlive || signal = 0 then m
    else
      let continues := signal = Signals.resume || signal = Signals.kill
      let held := if signal = Signals.resume then p.held else []
      let m := if continues then m.continue_ p else m
      let m := held.foldl (fun m n => send fuel m id n) m
      let p := (m.process? id).getD p
      match p.disposition signal with
      | .ignored => m
      | .caught => m.update (p.note signal)
      | .standard =>
        match Signals.effect signal with
        | .nothing | .resume => m
        | .stop =>
          if p.phase = .stopped || (signal ≠ Signals.stop && m.isOrphaned p.group) then m
          else m.stop p signal
        | .terminate =>
          if p.phase = .stopped then m.update { p with held := p.held ++ [signal] }
          else finish fuel m p (.killed signal)

-- The end of a process. Groups that were stopped and have nobody left to continue them are hung up,
-- and so is the foreground when the first process ends.
def finish (fuel : Nat) (m : Machine) (p : Process) (status : Status) : Machine :=
  match fuel with
  | 0 => m
  | fuel + 1 =>
    let after := m.bury p status
    let deserted := after.processes.filter fun q =>
      q.phase = .stopped && after.isOrphaned q.group && !m.isOrphaned q.group
    let after := deserted.foldl
      (fun m q => send fuel (send fuel m q.id Signals.hangup) q.id Signals.resume) after
    let after := if p.id = after.leader && after.tty.controls then
      let m := { after with tty := { after.tty with controls := false } }
      (m.members m.tty.foreground).foldl (fun m q => send fuel m q Signals.hangup) m
    else after
    after.reap

end

-- Enough for all processes to end one after another.
def fuel (m : Machine) : Nat :=
  2 * m.processes.length + 4

def signal (m : Machine) (id signal : Nat) : Machine :=
  send m.fuel m id signal

def signalGroup (m : Machine) (group signal : Nat) : Machine :=
  (m.members group).foldl (fun m id => m.signal id signal) m

-- Sends a signal to several processes. It arrives at once only at the sender itself.
def post (m : Machine) (sender : Nat) (receivers : List Nat) (n : Nat) : Machine :=
  let others := receivers.filter (· != sender)
  let m := { m with mail := m.mail ++ others.map fun id => (id, n) }
  if receivers.contains sender then m.signal sender n else m

def deliver (m : Machine) : Machine :=
  m.mail.foldl (fun m (receiver, n) => m.signal receiver n) { m with mail := [] }

def exit (m : Machine) (p : Process) (code : Nat) : Machine :=
  finish m.fuel m p (.exited (code % 256))

-- The session from outside.

-- Starts the first process, with open files by their numbers.
def startLeader (m : Machine) (working : Files.Id) (streams : List (List Nat × OpenFile))
    (b : Behaviour) : Machine :=
  let id := m.nextProcess
  let (m, descriptors) := streams.foldl (fun (acc : Machine × List (Nat × Slot)) stream =>
    let (m, n) := acc.1.addOpenFile stream.2
    (m, acc.2 ++ stream.1.map fun descriptor => (descriptor, ⟨n, false⟩))) (m, [])
  let p : Process := {
    id := id
    parent := outside
    group := id
    behaviour := b
    descriptors := descriptors
    working := working }
  { m with
    processes := [p]
    turns := [id]
    leader := id
    nextProcess := id + 1
    tty := { m.tty with foreground := id } }

-- The standard streams of a process on the terminal.
def terminalStreams : List (List Nat × OpenFile) :=
  [([0, 1, 2], { object := .terminal, reads := true, writes := true })]

def status? (m : Machine) : Option Status :=
  match m.process? m.leader with
  | none => none
  | some p =>
    match p.phase with
    | .ended status => some status
    | _ => none

-- Sends the signals of the keyboard to the foreground.
def signalForeground (m : Machine) (signals : List Nat) : Machine :=
  signals.foldl (fun m n => m.signalGroup m.tty.foreground n) m

def withDiscipline (m : Machine) (d : LineDiscipline) : Machine :=
  { m with tty := { m.tty with discipline := d } }

def typeText (m : Machine) (text : List Char) : Machine :=
  let (d, signals) := m.tty.discipline.typeText text
  (m.withDiscipline d).signalForeground signals

-- The foreground learns of a new size.
def resize (m : Machine) (size : TerminalSize) : Machine :=
  if m.tty.size = size then m
  else { m with tty := { m.tty with size := size } }.signalForeground [Signals.windowChanged]

end Machine

end TermBridge.Unix
