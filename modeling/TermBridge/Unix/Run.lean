import TermBridge.Unix.Perform

namespace TermBridge.Unix.Machine

-- What a turn of a process has come to.
inductive Turn where
  | moved (m : Machine)
  | waits (m : Machine)

def settle (m : Machine) (id : Nat) (b : Behaviour) : Machine :=
  match m.process? id with
  | some p => if p.isAlive then m.update (p.resume b) else m
  | none => m

def answerCall (m : Machine) (p : Process) (c : Call) (next : c.Reply → Behaviour) : Turn :=
  match m.perform p c with
  | .reply a m => .moved (m.settle p.id (next a))
  | .replaced m => .moved m
  | .rest m text =>
    match c, next with
    | .write descriptor _, next => .moved (m.settle p.id (.call (.write descriptor text) next))
    | _, _ => .moved m
  | .wait m deadline =>
    .waits (match m.process? p.id with
      | some p => if p.isAlive then m.update { p with blocked := true, deadline := deadline } else m
      | none => m)

def startChild (m : Machine) (p : Process) (child : Behaviour) (next : Nat → Behaviour) : Machine :=
  let id := m.nextProcess
  let m := m.settle p.id (next id)
  { m with
    processes := m.processes ++ [p.child id child]
    turns := m.turns ++ [id]
    nextProcess := id + 1 }

def step (m : Machine) (p : Process) : Turn :=
  match p.behaviour with
  | .ended code => .moved (m.exit p code)
  | .fork child next => .moved (m.startChild p child next)
  | .call c next => m.answerCall p c next

def callTime : Nat := 1000

def turnLength : Nat := 1000

def tick (m : Machine) : Machine :=
  { m with clock := m.clock + callTime }

def rotate (m : Machine) : Machine :=
  match m.turns with
  | [] => m
  | first :: rest => { m with turns := rest ++ [first] }

-- The next time that a running process waits for.
def nextDeadline? (m : Machine) : Option Nat :=
  (m.processes.filterMap fun p => if p.isRunning then p.deadline else none).min?

-- Runs all processes. It is over when nobody can go on, and also when `enough` holds or the time is
-- up while everybody waits, or at the end of a turn. `idle` counts those who were found waiting one
-- after another, `length` the calls of the turn at hand.
def runFrom (enough : Machine → Bool) (until_ : Option Nat) : Nat → Nat → Nat → Machine → Machine
  | 0, _, _, m => m
  | fuel + 1, idle, length, m =>
    if idle = m.turns.length then
      if enough m then m
      else
        match m.nextDeadline? with
        | none => m
        | some t =>
          if until_.any (· < t) then { m with clock := max m.clock (until_.getD t) }
          else runFrom enough until_ fuel 0 0 { m with clock := max m.clock t }
    else
      match m.turns.head?.bind m.process? with
      | none => m
      | some p =>
        match m.step p with
        | .waits m =>
          let m' := if m.turns.head? = some p.id then m.rotate else m
          runFrom enough until_ fuel (if m.mail.isEmpty then idle + 1 else 0) 0 m'.deliver
        | .moved m =>
          let m := m.tick
          if m.turns.head? ≠ some p.id then runFrom enough until_ fuel 0 0 m.deliver
          else if length < turnLength then runFrom enough until_ fuel 0 (length + 1) m
          else if enough m || until_.any (· ≤ m.clock) then m.deliver
          else runFrom enough until_ fuel 0 0 m.rotate.deliver

-- More steps than any run is let go on for.
def stepLimit : Nat := 1000000000

def run (enough : Machine → Bool) (m : Machine) : Machine :=
  runFrom enough none stepLimit 0 0 m

def runFor (time : Nat) (enough : Machine → Bool) (m : Machine) : Machine :=
  runFrom enough (some (m.clock + time)) stepLimit 0 0 m

end TermBridge.Unix.Machine
