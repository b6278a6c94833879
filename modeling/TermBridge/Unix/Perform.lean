import TermBridge.Unix.Machine

namespace TermBridge.Unix

inductive Outcome (α : Type) where
  | reply (answer : α) (m : Machine)
  -- The time at which there will be an answer in any case, if there is one.
  | wait (m : Machine) (deadline : Option Nat)
  -- A part of a text is written, and the rest is left.
  | rest (m : Machine) (text : List Char)
  | replaced (m : Machine)

namespace Machine

-- Open files.

def opened? (m : Machine) (p : Process) (descriptor : Nat) : Option (Nat × OpenFile) :=
  (p.slot? descriptor).bind fun s => (m.openFile? s.file).map fun f => (s.file, f)

-- Gives an open file its least free number.
def attach (m : Machine) (p : Process) (f : OpenFile) : Except Errno Nat × Machine :=
  let descriptor := p.free 0
  if Process.descriptorLimit ≤ descriptor then (.error Errno.tooManyFiles, m)
  else
    let (m, n) := m.addOpenFile f
    (.ok descriptor, m.update (p.assign descriptor { file := n }))

def answer {α : Type} (r : Except Errno α × Machine) : Outcome (Except Errno α) :=
  .reply r.1 r.2

def fail {α : Type} (m : Machine) (e : Errno) : Outcome (Except Errno α) :=
  .reply (.error e) m

-- What a device leads to when it is opened.
def object? (m : Machine) (p : Process) : Files.Device → Except Errno Object
  | .null => .ok .null
  | .zero => .ok .zero
  | .full => .ok .full
  | .terminal => if m.tty.controls then .ok .terminal else .error Errno.noDevice
  | .descriptor n =>
    match m.opened? p n with
    | some (_, f) => .ok f.object
    | none => .error Errno.noEntry

-- Makes a file that is not there yet, if it may be made.
def create (m : Machine) (p : Process) (path : String) (mode : OpenMode) :
    Except Errno (Machine × Files.Id) :=
  if !mode.creates then .error Errno.noEntry
  else
    match m.files.findParent p.working path with
    | .error e => .error e
    | .ok (_, "") => .error Errno.isDirectory
    | .ok (directory, name) =>
      match m.files.child? directory name with
      | .error e => .error e
      | .ok _ =>
        let mask := p.mask % 512
        let (files, id) := m.files.add directory name ⟨.file [], 0o666 - (0o666 &&& mask)⟩
        .ok ({ m with files := files }, id)

def openFound (m : Machine) (p : Process) (id : Files.Id) (mode : OpenMode) :
    Except Errno Nat × Machine :=
  let attached (m : Machine) (object : Object) :=
    m.attach p { object := object, reads := mode.reads, writes := mode.writes, appends := mode.appends }
  match m.files.content? id with
  | some (.directory _ _) =>
    if mode.writes || mode.creates then (.error Errno.isDirectory, m) else attached m (.file id)
  | some (.device d) =>
    match m.object? p d with
    | .ok object => attached m object
    | .error e => (.error e, m)
  | some (.file _) =>
    let m := if mode.truncates then { m with files := m.files.setContent id (.file []) } else m
    attached m (.file id)
  | _ => attached m (.file id)

def openPath (m : Machine) (p : Process) (path : String) (mode : OpenMode) :
    Except Errno Nat × Machine :=
  match m.files.find p.working path with
  | .ok id => if mode.creates && mode.exclusive then (.error Errno.exists_, m) else m.openFound p id mode
  | .error e =>
    if e ≠ Errno.noEntry then (.error e, m)
    else
      match m.create p path mode with
      | .ok (m, id) => m.openFound p id mode
      | .error e => (.error e, m)

-- The terminal, for processes that may have to stop.

-- What becomes of a call on the terminal that only the foreground may make.
def ifForeground {α : Type} (m : Machine) (p : Process) (signal : Nat) (ignoredToo : Bool)
    (allowed : Outcome (Except Errno α)) : Outcome (Except Errno α) :=
  if !m.tty.controls || p.group == m.tty.foreground then allowed
  else if p.disposition signal = .ignored then
    if ignoredToo then m.fail Errno.inputOutput else allowed
  else if m.isOrphaned p.group then m.fail Errno.inputOutput
  else if p.interrupted then m.fail Errno.interrupted
  else .wait (m.signalGroup p.group signal) none

def tenthOfSecond : Nat := 100000000

def readTerminal (m : Machine) (p : Process) (n : Nat) : Outcome (Except Errno (List Char)) :=
  m.ifForeground p Signals.backgroundRead true <|
    let d := m.tty.discipline
    if d.isReadable n || p.deadline.any (· ≤ m.clock) then
      let (text, d, signals) := d.take n
      .reply (.ok text) ((m.withDiscipline d).signalForeground signals)
    else if p.interrupted then m.fail Errno.interrupted
    else .wait m (p.deadline.or (d.patience?.map fun t => m.clock + t * tenthOfSecond))

def writeTerminal (m : Machine) (p : Process) (text : List Char) : Outcome (Except Errno Unit) :=
  let d := m.tty.discipline
  let written := if d.stopped then .wait m none else .reply (.ok ()) (m.withDiscipline (d.print text))
  if d.isLocal Attributes.stopBackground then
    m.ifForeground p Signals.backgroundWrite false written
  else written

-- Reading and writing.

def readFile (m : Machine) (n : Nat) (f : OpenFile) (id : Files.Id) (count : Nat) :
    Outcome (Except Errno (List Char)) :=
  match m.files.content? id with
  | some (.file data) =>
    let text := (data.drop f.position).take count
    .reply (.ok text) (m.setOpenFile n { f with position := f.position + text.length })
  | some (.directory _ _) => m.fail Errno.isDirectory
  | _ => .reply (.ok []) m

def writeFile (m : Machine) (n : Nat) (f : OpenFile) (id : Files.Id) (text : List Char) :
    Outcome (Except Errno Unit) :=
  match m.files.content? id with
  | some (.file data) =>
    let position := if f.appends then data.length else f.position
    let files := m.files.setContent id (.file (FileSystem.overwrite data position text))
    .reply (.ok ()) ({ m with files := files }.setOpenFile n
      { f with position := position + text.length })
  | _ => m.fail Errno.badDescriptor

def readPipe (m : Machine) (p : Process) (n count : Nat) : Outcome (Except Errno (List Char)) :=
  let pipe := m.pipe n
  if pipe.size = 0 then
    if !m.hasWriter n then .reply (.ok []) m
    else if p.interrupted then m.fail Errno.interrupted
    else .wait m none
  else
    let (text, pipe) := pipe.take count
    .reply (.ok text) (m.setPipe n pipe)

def writePipe (m : Machine) (p : Process) (n : Nat) (text : List Char) :
    Outcome (Except Errno Unit) :=
  let pipe := m.pipe n
  let room := Pipe.capacity - pipe.size
  if !m.hasReader n then m.signal p.id Signals.brokenPipe |>.fail Errno.brokenPipe
  else if text.length ≤ room then .reply (.ok ()) (m.setPipe n (pipe.add text))
  else if room < Pipe.atom then .wait m none
  else .rest (m.setPipe n (pipe.add (text.take room))) (text.drop room)

def read (m : Machine) (p : Process) (descriptor count : Nat) : Outcome (Except Errno (List Char)) :=
  match m.opened? p descriptor with
  | none => m.fail Errno.badDescriptor
  | some (n, f) =>
    if !f.reads then m.fail Errno.badDescriptor
    else
      match f.object with
      | .file id => m.readFile n f id count
      | .null => .reply (.ok []) m
      | .zero | .full => .reply (.ok (List.replicate count '\x00')) m
      | .pipe k => m.readPipe p k count
      | .terminal => m.readTerminal p count
      | .collector _ => m.fail Errno.badDescriptor

def write (m : Machine) (p : Process) (descriptor : Nat) (text : List Char) :
    Outcome (Except Errno Unit) :=
  match m.opened? p descriptor with
  | none => m.fail Errno.badDescriptor
  | some (n, f) =>
    if !f.writes then m.fail Errno.badDescriptor
    else
      match f.object with
      | .file id => m.writeFile n f id text
      | .null | .zero => .reply (.ok ()) m
      | .full => m.fail Errno.noSpace
      | .pipe k => m.writePipe p k text
      | .terminal => m.writeTerminal p text
      | .collector errors =>
        .reply (.ok ()) (if errors then { m with collectedErrors := text.reverse ++ m.collectedErrors }
          else { m with collectedOutput := text.reverse ++ m.collectedOutput })

-- Descriptors.

def close (m : Machine) (p : Process) (descriptor : Nat) : Outcome (Except Errno Unit) :=
  match p.slot? descriptor with
  | none => m.fail Errno.badDescriptor
  | some _ => .reply (.ok ()) (m.update (p.drop descriptor)).sweep

def duplicate (m : Machine) (p : Process) (descriptor least : Nat) (closeOnExecute : Bool) :
    Outcome (Except Errno Nat) :=
  match p.slot? descriptor with
  | none => m.fail Errno.badDescriptor
  | some s =>
    let number := p.free least
    if Process.descriptorLimit ≤ number then m.fail Errno.tooManyFiles
    else .reply (.ok number) (m.update (p.assign number ⟨s.file, closeOnExecute⟩))

def place (m : Machine) (p : Process) (descriptor target : Nat) : Outcome (Except Errno Unit) :=
  match p.slot? descriptor with
  | none => m.fail Errno.badDescriptor
  | some s =>
    if descriptor = target then .reply (.ok ()) m
    else if Process.descriptorLimit ≤ target then m.fail Errno.badDescriptor
    else .reply (.ok ()) (m.update (p.assign target ⟨s.file, false⟩)).sweep

def makePipe (m : Machine) (p : Process) : Outcome (Except Errno (Nat × Nat)) :=
  let (m, n) := m.addPipe {}
  let (m, reader) := m.addOpenFile { object := .pipe n, reads := true, writes := false }
  let (m, writer) := m.addOpenFile { object := .pipe n, reads := false, writes := true }
  let first := p.free 0
  let p := p.assign first { file := reader }
  let second := p.free 0
  .reply (.ok (first, second)) (m.update (p.assign second { file := writer }))

-- Processes.

def childWithNews? (m : Machine) (p : Process) (stopsToo : Bool) : Option (Process × Change) :=
  (m.processes.filter (·.parent == p.id)).findSome? fun q =>
    match q.news with
    | some (.ended status) => some (q, .ended status)
    | some (.stopped signal) => if stopsToo then some (q, .stopped signal) else none
    | none => none

-- The parent has been told. A child that has ended is gone with that.
def told (m : Machine) (q : Process) : Change → Machine
  | .ended _ => { m with processes := m.processes.filter (·.id != q.id) }
  | .stopped _ => m.update { q with news := none }

def wait (m : Machine) (p : Process) (patience : Patience) (stopsToo : Bool) :
    Outcome (Except Errno (Option (Nat × Change))) :=
  match m.childWithNews? p stopsToo with
  | some (q, change) => .reply (.ok (some (q.id, change))) (m.told q change)
  | none =>
    if !m.processes.any (·.parent == p.id) then m.fail Errno.noChild
    else
      match patience with
      | .none => .reply (.ok none) m
      | .unlimited => .wait m none
      | .untilSignal => if p.noted.isEmpty then .wait m none else .reply (.ok none) m

def sendTo (m : Machine) (p : Process) (recipient : Recipient) (n : Nat) : Outcome (Except Errno Unit) :=
  if Signals.last < n then m.fail Errno.invalidArgument
  else
    match recipient with
    | .process id =>
      match m.process? id with
      | some _ => .reply (.ok ()) (m.post p.id [id] n)
      | none => if id = 1 then m.fail Errno.notPermitted else m.fail Errno.noProcess
    | .group id =>
      if (m.members id).isEmpty then m.fail Errno.noProcess
      else .reply (.ok ()) (m.post p.id (m.members id) n)

def arrange (m : Machine) (p : Process) (n : Nat) (d : Disposition) :
    Outcome (Except Errno Disposition) :=
  if n = 0 || Signals.last < n || (Signals.isFinal n && d ≠ .standard) then m.fail Errno.invalidArgument
  else .reply (.ok (p.disposition n)) (m.update (p.arrange n d))

def sleep (m : Machine) (p : Process) (time : Nat) : Outcome Unit :=
  match p.deadline with
  | none => .wait m (some (m.clock + time))
  | some t => if t ≤ m.clock then .reply () m else .wait m (some t)

def execute (m : Machine) (p : Process) (path : String) (arguments environment : List String) :
    Outcome Errno :=
  match m.files.execute p.working path with
  | .error e => .reply e m
  | .ok program =>
    let b := m.load program arguments environment
    .replaced (m.update (p.become b)).sweep

def joinGroup (m : Machine) (p : Process) (id group : Nat) : Outcome (Except Errno Unit) :=
  let id := if id = 0 then p.id else id
  let group := if group = 0 then id else group
  match m.process? id with
  | none => m.fail Errno.noProcess
  | some q =>
    if q.id = m.leader then m.fail Errno.notPermitted
    else if group ≠ id && (m.members group).isEmpty then m.fail Errno.notPermitted
    else .reply (.ok ()) (m.update { q with group := group })

-- The terminal.

def view (m : Machine) : TerminalView where
  attributes := m.tty.discipline.attributes
  size := m.tty.size
  foreground := m.tty.foreground

def onTerminal (m : Machine) (p : Process) (descriptor : Nat) (request : TerminalRequest) :
    Outcome (Except Errno TerminalView) :=
  let done (m : Machine) : Outcome (Except Errno TerminalView) := .reply (.ok m.view) m
  let guarded (allowed : Outcome (Except Errno TerminalView)) :=
    m.ifForeground p Signals.backgroundWrite false allowed
  match m.opened? p descriptor with
  | none => m.fail Errno.badDescriptor
  | some (_, f) =>
    if f.object ≠ .terminal then m.fail Errno.notTerminal
    else
      match request with
      | .look => done m
      | .setUp a => guarded (done (m.withDiscipline (m.tty.discipline.configure a.accepted)))
      | .resize size => done (m.resize size)
      | .bringForward group =>
        if !m.tty.controls then m.fail Errno.notTerminal
        else if (m.members group).isEmpty then m.fail Errno.notPermitted
        else guarded (done { m with tty := { m.tty with foreground := group } })

-- Files.

def statusOf (m : Machine) (id : Files.Id) : FileStatus :=
  ⟨id, m.files.kind id, m.files.mode id, m.files.size id⟩

-- Things that are no files have numbers beyond those of files.
def statusOfObject (m : Machine) : Object → FileStatus
  | .file id => m.statusOf id
  | .pipe n => ⟨m.files.nodes.size + 10 + n, .pipe, 0o600, 0⟩
  | .null => ⟨m.files.nodes.size, .device, 0o666, 0⟩
  | .zero => ⟨m.files.nodes.size + 1, .device, 0o666, 0⟩
  | .full => ⟨m.files.nodes.size + 2, .device, 0o666, 0⟩
  | .terminal => ⟨m.files.nodes.size + 3, .device, 0o620, 0⟩
  | .collector errors => ⟨m.files.nodes.size + (if errors then 5 else 4), .pipe, 0o600, 0⟩

def descriptorStatus (m : Machine) (p : Process) (descriptor : Nat) :
    Outcome (Except Errno FileStatus) :=
  match m.opened? p descriptor with
  | none => m.fail Errno.badDescriptor
  | some (_, f) => .reply (.ok (m.statusOfObject f.object)) m

def changeDirectory (m : Machine) (p : Process) (path : String) : Outcome (Except Errno Unit) :=
  match m.files.find p.working path with
  | .error e => m.fail e
  | .ok id =>
    if m.files.kind id = .directory then .reply (.ok ()) (m.update { p with working := id })
    else m.fail Errno.notDirectory

def entries (m : Machine) (p : Process) (path : String) : Outcome (Except Errno (List String)) :=
  .reply ((m.files.find p.working path).bind m.files.entries) m

def perform (m : Machine) (p : Process) : (c : Call) → Outcome c.Reply
  | .pass => .reply () m
  | .read descriptor count => m.read p descriptor count
  | .write descriptor text => m.write p descriptor text
  | .openFile path mode => answer (m.openPath p path mode)
  | .close descriptor => m.close p descriptor
  | .duplicate descriptor least closeOnExecute => m.duplicate p descriptor least closeOnExecute
  | .place descriptor target => m.place p descriptor target
  | .makePipe => m.makePipe p
  | .wait patience stopsToo => m.wait p patience stopsToo
  | .signal recipient n => m.sendTo p recipient n
  | .arrange n d => m.arrange p n d
  | .noted => .reply p.noted (m.update { p with noted := [] })
  | .sleep time => m.sleep p time
  | .execute path arguments environment => m.execute p path arguments environment
  | .identity => .reply ⟨p.id, p.parent, p.group⟩ m
  | .joinGroup id group => m.joinGroup p id group
  | .terminal descriptor request => m.onTerminal p descriptor request
  | .changeDirectory path => m.changeDirectory p path
  | .workingDirectory => .reply (m.files.path p.working) m
  | .status path follow =>
    .reply ((m.files.lookUp follow p.working path).map m.statusOf) m
  | .descriptorStatus descriptor => m.descriptorStatus p descriptor
  | .entries path => m.entries p path
  | .setMask mask => .reply p.mask (m.update { p with mask := mask % 512 })

end Machine

end TermBridge.Unix
