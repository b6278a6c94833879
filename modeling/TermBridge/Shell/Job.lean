import TermBridge.Unix.Call
import TermBridge.Unix.Signals

namespace TermBridge.Shell

open Unix (Change Status)

structure JobProcess where
  id : Nat
  -- What is known of it, which is nothing as long as it goes on.
  change : Option Change := none
  -- The command that it runs, as text.
  text : String := ""
  deriving DecidableEq, Repr

inductive JobPhase where
  | running
  | stopped
  | done
  deriving DecidableEq, Repr

structure Job where
  number : Nat
  processes : List JobProcess := []
  phase : JobPhase := .running
  stopSignal : Nat := 0
  -- It has changed since it was shown.
  changed : Bool := false
  -- Somebody has waited for it.
  waited : Bool := false
  -- It has a process group of its own.
  controlled : Bool := false
  deriving DecidableEq, Repr

-- A status as one number, as scripts see it.
def statusCode : Change → Nat
  | .ended status => status.code
  | .stopped signal => 128 + signal

-- What is said of a process that was killed, if that is worth a word.
def deathNotice (change : Change) : String :=
  match change with
  | .ended (.killed signal) =>
    if signal = Signals.interrupt || signal = Signals.brokenPipe then "" else Signals.description signal
  | _ => ""

-- What is said of a process that is not running any more.
def changeText : Change → String
  | .ended (.exited 0) => "Done"
  | .ended (.exited code) => "Done(" ++ code.repr ++ ")"
  | .ended (.killed signal) | .stopped signal => Signals.description signal

namespace Job

def last? (j : Job) : Option JobProcess :=
  j.processes.getLast?

-- The group of a job is that of its first process.
def group (j : Job) : Nat :=
  (j.processes.head?.map (·.id)).getD 0

def code (j : Job) : Nat :=
  ((j.last?.bind (·.change)).map statusCode).getD 0

-- It was ended by the keyboard.
def interrupted (j : Job) : Bool :=
  (j.last?.bind (·.change)) = some (.ended (.killed Signals.interrupt))

def has (j : Job) (id : Nat) : Bool :=
  j.processes.any (·.id == id)

def learn (j : Job) (id : Nat) (change : Change) : Job :=
  let processes := j.processes.map fun p => if p.id == id then { p with change := some change } else p
  let stops := processes.filterMap fun p =>
    match p.change with
    | some (.stopped signal) => some signal
    | _ => none
  let phase := if processes.any (·.change.isNone) then JobPhase.running
    else if stops.isEmpty then .done else .stopped
  let j := { j with processes := processes, stopSignal := stops.getLast?.getD j.stopSignal }
  if phase = .running then j else { j with changed := true, phase := phase }

-- Pads text to a width, but with at least one blank.
def padTo (width : Nat) (text : String) : String :=
  text ++ String.ofList (List.replicate (max 1 (width - text.length)) ' ')

def phaseText (j : Job) : String :=
  match j.phase, j.last?.bind (·.change) with
  | .running, _ => "Running"
  | .stopped, _ => Signals.description j.stopSignal
  | .done, some change => changeText change
  | .done, none => "Done"

-- The text of a job: its number, a mark, its state and its command. With process numbers there is a
-- line for each process.
def text (j : Job) (mark : Char) (withNumbers : Bool) : String :=
  let number := "[" ++ j.number.repr ++ "] " ++ String.ofList [mark] ++ " "
  let texts := j.processes.map (·.text)
  if withNumbers then
    let indent := String.ofList (List.replicate number.length ' ')
    let lines := j.processes.mapIdx fun n p =>
      if n = 0 then padTo 33 (number ++ p.id.repr ++ " " ++ j.phaseText) ++ p.text
      else padTo 36 (" |\n" ++ indent ++ p.id.repr ++ " ") ++ p.text
    String.join lines ++ "\n"
  else padTo 33 (number ++ j.phaseText) ++ " | ".intercalate texts ++ "\n"

end Job

end TermBridge.Shell
