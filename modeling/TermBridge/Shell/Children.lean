import TermBridge.Shell.Traps

namespace TermBridge.Shell.Sh

open Unix (Change Patience)

inductive Place where
  | foreground
  | background
  -- It belongs to no job that the user can see.
  | apart
  deriving DecidableEq, Repr

-- The table of jobs.

def setJobs (jobs : List Job) : Sh Unit :=
  modify fun s => { s with jobs := jobs }

def job? (number : Nat) : Sh (Option Job) := do
  return (← get).jobs.find? (·.number == number)

def updateJob (j : Job) : Sh Unit :=
  modify fun s => { s with jobs := s.jobs.map fun k => if k.number == j.number then j else k }

def removeJob (number : Nat) : Sh Unit :=
  modify fun s => { s with jobs := s.jobs.filter (·.number != number) }

-- The least number that no job has. The fuel is the number of jobs.
def freeNumber (jobs : List Job) : Nat → Nat → Nat
  | 0, n => n
  | fuel + 1, n => if jobs.any (·.number == n) then freeNumber jobs fuel (n + 1) else n

-- Without job control the place of a job that is done and was waited for can be taken again.
def isReplaceable (controlled : Bool) (j : Job) : Bool :=
  j.phase = .done && j.waited && !controlled

def addJob : Sh Job := do
  let s ← get
  let controlled := s.control.isSome
  let lasting := s.jobs.filter (!isReplaceable controlled ·)
  let number := freeNumber lasting lasting.length 1
  let j : Job := { number := number, controlled := controlled }
  setJobs (j :: s.jobs.filter (·.number != number))
  return j

-- Puts a job in front: all stopped jobs stay in front of one that runs.
def promote (number : Nat) : Sh Unit := do
  let jobs := (← get).jobs
  match jobs.find? (·.number == number) with
  | none => return ()
  | some j =>
    let others := jobs.filter (·.number != number)
    let isStopped (k : Job) := j.phase ≠ .stopped && k.phase = .stopped
    setJobs (others.takeWhile isStopped ++ j :: others.dropWhile isStopped)

-- Starting.

-- Brings a group to the foreground of a terminal.
def bringForward (descriptor group : Nat) : Sh Unit := do
  let _ ← call (.terminal descriptor (.bringForward group))

-- Gives a process its place among the groups of a job.
def joinJob (j : Job) (id : Nat) : Sh Nat := do
  let group := (j.processes.head?.map (·.id)).getD id
  let _ ← call (.joinGroup id group)
  return group

def begin_ (place : Place) (j : Option Job) : Sh Unit := do
  let before ← get
  let top := before.level = 0
  set { before with
    level := before.level + 1
    jobs := []
    pending := []
    control := none }
  clearTraps
  match before.control, j with
  | some descriptor, some j => do
    if top then
      let group ← joinJob j (← call .identity).process
      if place = .foreground then bringForward descriptor group
      arrange Signals.keyboardStop
      arrange Signals.backgroundWrite
  | _, _ => do
    if place = .background then
      shutOut Signals.interrupt
      shutOut Signals.quit
      if j.all (·.processes.isEmpty) then
        let _ ← call (.close Programs.standardInput)
        let _ ← call (.openFile "/dev/null" { reads := true })
  if top && (← isInteractive) then
    if place ≠ .background then
      arrange Signals.interrupt
      arrange Signals.quit
    arrange Signals.terminate

-- Starts a child, which goes on with `body`, and enters it into a job.
def startProcess (body : Sh Unit) : Sh Nat := do
  let s ← get
  let child : Sys Nat := do
    let (_, s) ← body.run.run s
    return s.status
  (Sys.startChild child.toBehaviour : Sys Nat)

def start (place : Place) (j : Job) (text : String) (body : Sh Unit) : Sh Job := do
  let id ← startProcess do
    begin_ place (some j)
    body
  if (← get).control.isSome then
    let _ ← joinJob j id
  let j := { j with processes := j.processes ++ [{ id := id, text := text }] }
  updateJob j
  if place = .background then
    modify fun s => { s with background := id }
    promote j.number
  return j

-- Starts a child that belongs to no job that is controlled.
def startApart (j : Job) (body : Sh Unit) : Sh Job := do
  let id ← startProcess do
    begin_ .apart none
    body
  let j := { j with processes := [{ id := id }] }
  updateJob j
  return j

-- Learning.

-- Takes note of what has become of a process. A job that is being waited for is told of.
def learn (id : Nat) (change : Change) (awaited : Option Nat) : Sh Unit := do
  match (← get).jobs.find? fun j => j.phase ≠ .done && j.has id with
  | none => return ()
  | some j => do
    let after := j.learn id change
    updateJob after
    if after.phase = .stopped && j.phase ≠ .stopped then promote j.number
    let notice := deathNotice change
    if awaited = some j.number && !notice.isEmpty then complain (notice ++ "\n")

-- Learns all that there is to learn at once.
def learnAll (awaited : Option Nat) : Nat → Sh Unit
  | 0 => return ()
  | fuel + 1 => do
    match ← call (.wait .none (← get).control.isSome) with
    | .ok (some (id, change)) => do
      learn id change awaited
      learnAll awaited fuel
    | _ => return ()

-- Waits until a job is not running any more.
def awaitJob (number : Nat) : Nat → Sh Unit
  | 0 => return ()
  | fuel + 1 => do
    match ← job? number with
    | none => return ()
    | some j =>
      if j.phase ≠ .running then learnAll (some number) limit
      else
        match ← call (.wait .unlimited (← get).control.isSome) with
        | .ok (some (id, change)) => do
          learn id change (some number)
          awaitJob number fuel
        | _ => return ()

-- Waits for a job in the foreground, whose status is the result. The terminal comes back to the shell
-- with that.
def await (number : Nat) : Sh Nat := do
  awaitJob number limit
  match ← job? number with
  | none => return 0
  | some j => do
    match (← get).control with
    | some descriptor =>
      if j.controlled then
        bringForward descriptor (← get).process
        if j.interrupted then
          let _ ← call (.signal (.process (← get).process) Signals.interrupt)
    | none => pure ()
    if j.phase = .done then removeJob number
    return j.code

end TermBridge.Shell.Sh
