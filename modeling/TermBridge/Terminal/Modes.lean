import TermBridge.Plan
import TermBridge.Terminal.Attributes

namespace TermBridge

-- A terminal, and what the calls on its attributes will do. Once hung up it is no terminal any more.
structure Terminal where
  attributes : Attributes := .standard
  hungUp : Bool := false
  getPlan : Plan := []
  setPlan : Plan := []
  deriving DecidableEq, Repr

-- All terminals, by number.
abbrev Terminals := Nat → Terminal

namespace Terminals

def update (ts : Terminals) (n : Nat) (t : Terminal) : Terminals :=
  fun m => if m = n then t else ts m

def get (ts : Terminals) (n : Nat) : Except Errno Attributes × Terminals :=
  let t := ts n
  match t.getPlan.next with
  | (some e, plan) => (.error e, ts.update n { t with getPlan := plan })
  | (none, plan) =>
    (if t.hungUp then .error Errno.inputOutput else .ok t.attributes.known,
      ts.update n { t with getPlan := plan })

-- Giving attributes to a terminal. A failure leaves it as it was.
def put (ts : Terminals) (n : Nat) (a : Attributes) : Option Errno × Terminals :=
  let t := ts n
  match t.setPlan.next with
  | (some e, plan) => (some e, ts.update n { t with setPlan := plan })
  | (none, plan) =>
    if t.hungUp then (some Errno.inputOutput, ts.update n { t with setPlan := plan })
    else (none, ts.update n { t with setPlan := plan, attributes := a.accepted })

end Terminals

inductive StreamDevice where
  | terminal (n : Nat)
  | pipe
  deriving DecidableEq, Repr

structure Streams where
  input : StreamDevice
  output : StreamDevice
  error : StreamDevice
  deriving DecidableEq, Repr

-- Streams that are no terminals are left alone if `allowNonTtys`, and refused otherwise.
structure CaptureOptions where
  allowNonTtys : Bool := false
  includeOutput : Bool := false
  includeError : Bool := false
  deriving DecidableEq, Repr

structure SavedMode where
  role : StreamRole
  terminal : Nat
  attributes : Attributes
  deriving DecidableEq, Repr

-- The modes saved by a capture, in the order input, output, error.
abbrev SavedModes := List SavedMode

inductive ModeError where
  | notATty (role : StreamRole)
  | getAttributes (role : StreamRole) (e : Errno)
  | setAttributes (role : StreamRole) (e : Errno)
  deriving DecidableEq, Repr

def ModeError.message : ModeError → String
  | .notATty role => role.name ++ " is not a tty"
  | .getAttributes role e => "tcgetattr failed on " ++ role.name ++ ": " ++ e.text
  | .setAttributes role e => "tcsetattr failed on " ++ role.name ++ ": " ++ e.text

-- The streams that could not be restored, each with its own failure.
structure RestoreError where
  failures : List (StreamRole × Errno)
  deriving DecidableEq, Repr

def RestoreError.message (err : RestoreError) : String :=
  "\n".intercalate (err.failures.map fun f =>
    "error restoring terminal mode on " ++ f.1.name ++ ": " ++ f.2.text)

namespace SavedModes

def isCaptured (modes : SavedModes) (role : StreamRole) : Bool :=
  modes.any fun saved => saved.role = role

def saveOne (allowNonTtys : Bool) (role : StreamRole) (device : StreamDevice) (ts : Terminals) :
    Except ModeError SavedModes × Terminals :=
  let refused : Except ModeError SavedModes := if allowNonTtys then .ok [] else .error (.notATty role)
  match device with
  | .pipe => (refused, ts)
  | .terminal n =>
    if (ts n).hungUp then (refused, ts)
    else
      match ts.get n with
      | (.ok a, ts) => (.ok [⟨role, n, a⟩], ts)
      | (.error e, ts) => (.error (.getAttributes role e), ts)

def saveAll (allowNonTtys : Bool) :
    List (StreamRole × StreamDevice) → Terminals → Except ModeError SavedModes × Terminals
  | [], ts => (.ok [], ts)
  | (role, device) :: rest, ts =>
    match saveOne allowNonTtys role device ts with
    | (.error err, ts) => (.error err, ts)
    | (.ok first, ts) =>
      match saveAll allowNonTtys rest ts with
      | (.error err, ts) => (.error err, ts)
      | (.ok others, ts) => (.ok (first ++ others), ts)

-- Switches one stream. The attributes are read again, since streams may share a terminal.
def makeRaw (role : StreamRole) (n : Nat) (ts : Terminals) : Option ModeError × Terminals :=
  match ts.get n with
  | (.error e, ts) => (some (.getAttributes role e), ts)
  | (.ok a, ts) =>
    match ts.put n (a.raw role) with
    | (some e, ts) => (some (.setAttributes role e), ts)
    | (none, ts) => (none, ts)

-- Gives saved attributes back, in the order of the list, whether or not some of it fails. The
-- answer holds what came of each attempt.
def putBack : SavedModes → Terminals → List (StreamRole × Option Errno) × Terminals
  | [], ts => ([], ts)
  | saved :: rest, ts =>
    let attempt := ts.put saved.terminal saved.attributes
    let others := putBack rest attempt.2
    ((saved.role, attempt.1) :: others.1, others.2)

-- Switches the saved streams one by one. `switched` holds those done so far, newest first.
def switchAll (switched : SavedModes) : SavedModes → Terminals → Option ModeError × Terminals
  | [], ts => (none, ts)
  | saved :: rest, ts =>
    match makeRaw saved.role saved.terminal ts with
    | (some err, ts) => (some err, (putBack switched ts).2)
    | (none, ts) => switchAll (saved :: switched) rest ts

def requested (streams : Streams) (options : CaptureOptions) : List (StreamRole × StreamDevice) :=
  (.input, streams.input) ::
    ((if options.includeOutput then [(.output, streams.output)] else []) ++
      (if options.includeError then [(.error, streams.error)] else []))

def capture (streams : Streams) (options : CaptureOptions) (ts : Terminals) :
    Except ModeError SavedModes × Terminals :=
  match saveAll options.allowNonTtys (requested streams options) ts with
  | (.error err, ts) => (.error err, ts)
  | (.ok modes, ts) =>
    match switchAll [] modes ts with
    | (some err, ts) => (.error err, ts)
    | (none, ts) => (.ok modes, ts)

def failuresOf (attempts : List (StreamRole × Option Errno)) : List (StreamRole × Errno) :=
  attempts.filterMap fun attempt => attempt.2.map fun e => (attempt.1, e)

def restore (modes : SavedModes) (ts : Terminals) : Except RestoreError Unit × Terminals :=
  let attempts := putBack modes ts
  let failures := failuresOf attempts.1
  (if failures.isEmpty then .ok () else .error ⟨failures⟩, attempts.2)

end SavedModes

end TermBridge
