import TermBridge.Shell.Children

namespace TermBridge.Shell.Builtins

-- Which job is meant.

def contains (text part : String) : Bool :=
  part.isEmpty || 1 < (text.splitOn part).length

-- The only job that begins with a text, or contains it.
def onlyJob (jobs : List Job) (name : String) (isMeant : String → Bool) : Except String Job :=
  match jobs.filter fun j => isMeant ((j.processes.head?.map (·.text)).getD "") with
  | [j] => .ok j
  | [] => .error ("No such job: " ++ name)
  | _ => .error (name ++ ": ambiguous")

def present (j : Option Job) (complaint : String) : Except String Job :=
  match j with
  | some j => .ok j
  | none => .error complaint

def currentJob (jobs : List Job) : Except String Job :=
  present jobs.head? "No current job"

-- The job that a text means, or what is wrong with it.
def jobNamed (jobs : List Job) (name : String) : Except String Job :=
  match name.toList with
  | ['%'] | ['%', '%'] | ['%', '+'] => currentJob jobs
  | ['%', '-'] => present jobs[1]? "No previous job"
  | '%' :: '?' :: rest => onlyJob jobs name (contains · (String.ofList rest))
  | '%' :: rest =>
    let text := String.ofList rest
    match if Signals.isNumber text then text.toNat? else none with
    | some n => present (jobs.find? (·.number == n)) ("No such job: " ++ name)
    | none => onlyJob jobs name (·.startsWith text)
  | _ => .error ("No such job: " ++ name)

def job (name : Option String) (controlled : Bool) : Sh Job := do
  let jobs := (← get).jobs
  match (name.map (jobNamed jobs)).getD (currentJob jobs) with
  | .error complaint => Sh.fail complaint
  | .ok j =>
    if controlled && !j.controlled then
      Sh.fail ("job " ++ name.getD "(null)" ++ " not created under job control")
    else return j

-- Showing.

inductive Listing where
  | commands
  | processes
  | groups
  deriving DecidableEq, Repr

-- The current job is marked, and so is the previous one.
def mark? (jobs : List Job) (number : Nat) : Char :=
  match jobs.findIdx? (·.number == number) with
  | some 0 => '+'
  | some 1 => '-'
  | _ => ' '

-- Shows a job. One that is done is forgotten after that.
def showJob (out : String → Sh Unit) (l : Listing) (j : Job) : Sh Unit := do
  if l = .groups then out (j.group.repr ++ "\n")
  else
    out (j.text (mark? (← get).jobs j.number) (l = .processes))
    if j.phase = .done then Sh.removeJob j.number else Sh.updateJob { j with changed := false }

def showJobs (out : String → Sh Unit) (l : Listing) (changedOnly : Bool) : Sh Unit := do
  Sh.learnAll none Sh.limit
  (← get).jobs.forM fun j => if changedOnly && !j.changed then pure () else showJob out l j

def printNow (text : String) : Sh Unit := do
  Sh.print text
  Sh.flush

def jobs (args : List String) : Sh Nat := do
  let (found, names) ← Sh.options [('l', false), ('p', false)] args
  let l := match found.getLast? with
    | none => Listing.commands
    | some (c, _) => if c = 'l' then .processes else .groups
  if names.isEmpty then showJobs printNow l false
  else names.forM fun name => do showJob printNow l (← job (some name) false)
  return 0

-- Moving.

def resume (j : Job) (foreground : Bool) : Sh Nat := do
  if j.phase ≠ .done then
    match (← get).control with
    | some descriptor => if foreground then Sh.bringForward descriptor j.group
    | none => pure ()
    let _ ← Sh.call (.signal (.group j.group) Signals.resume)
    let goesOn (p : JobProcess) := match p.change with
      | some (.stopped _) => { p with change := none }
      | _ => p
    Sh.updateJob { j with phase := .running, processes := j.processes.map goesOn }
    if !foreground then Sh.promote j.number
  if foreground then Sh.await j.number else return 0

def commandLine (j : Job) : String :=
  " | ".intercalate (j.processes.map (·.text)) ++ "\n"

-- The commands that let jobs go on, in the foreground or in the background.
def move (foreground : Bool) (args : List String) : Sh Nat := do
  let names ← Sh.noOptions args
  let rec each : List (Option String) → Nat → Sh Nat
    | [], status => return status
    | name :: rest, _ => do
      let j ← job name true
      printNow ((if foreground then "" else "[" ++ j.number.repr ++ "] ") ++ commandLine j)
      each rest (← resume j foreground)
  each (if names.isEmpty then [none] else names.map some) 0

-- Waiting.

inductive News where
  | child
  | signal
  -- There are no children.
  | nothing
  deriving DecidableEq, Repr

def awaitNews (awaited : Option Nat) : Nat → Sh News
  | 0 => return .nothing
  | fuel + 1 => do
    match ← Sh.call (.wait .untilSignal (← get).control.isSome) with
    | .error _ => return .nothing
    | .ok (some (id, change)) => do
      Sh.learn id change awaited
      return .child
    | .ok none => do
      Sh.checkInterrupt
      if ← Sh.isDisturbed then return .signal else awaitNews awaited fuel

def disturbedStatus : Sh Nat := do
  return 128 + ((← get).pending.getLast?).getD 0

def markWaited (isMeant : Job → Bool) : Sh Unit :=
  modify fun s => { s with jobs := s.jobs.map fun j => if isMeant j then { j with waited := true } else j }

def waitForAll : Nat → Sh Nat
  | 0 => return 0
  | fuel + 1 => do
    markWaited (·.phase ≠ .running)
    if !(← get).jobs.any (·.phase = .running) then return 0
    else
      match ← awaitNews none Sh.limit with
      | .nothing => return 0
      | .signal => disturbedStatus
      | .child => waitForAll fuel

-- Waits until a job is not running any more, unless a signal comes before that.
def waitForJob (number : Nat) : Nat → Sh Nat
  | 0 => return 0
  | fuel + 1 => do
    match (← Sh.job? number) with
    | none => return 0
    | some j =>
      if j.phase ≠ .running then
        Sh.learnAll (some number) Sh.limit
        markWaited (·.number == number)
        return j.code
      else
        match ← awaitNews (some number) Sh.limit with
        | .nothing => return j.code
        | .signal => disturbedStatus
        | .child => waitForJob number fuel

-- The status of what is not known.
def unknownStatus : Nat := 127

def waitFor (name : String) : Sh Nat := do
  if name.startsWith "%" then waitForJob (← job (some name) false).number Sh.limit
  else
    let id ← Sh.number name
    match (← get).jobs.find? fun j => (j.last?.map (·.id)) = some id with
    | some j => waitForJob j.number Sh.limit
    | none => return unknownStatus

def wait (args : List String) : Sh Nat := do
  let names ← Sh.noOptions args
  if names.isEmpty then waitForAll Sh.limit
  else
    let rec each : List String → Nat → Sh Nat
      | [], status => return status
      | name :: rest, _ => do
        let status ← waitFor name
        if ← Sh.isDisturbed then return status else each rest status
    each names unknownStatus

end TermBridge.Shell.Builtins
