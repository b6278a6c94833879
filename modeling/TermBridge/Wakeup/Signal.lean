import TermBridge.Plan

namespace TermBridge

structure WakeupSignal where
  pending : Bool
  -- How many bytes lie in the pipe.
  bytes : Nat
  deriving DecidableEq, Repr

inductive WakeupError where
  | pipe (e : Errno)
  | configure (e : Errno)
  | wait (e : Errno)
  | alreadyInstalled
  deriving DecidableEq, Repr

def WakeupError.message : WakeupError → String
  | .pipe e => "Failed to create wakeup pipe: " ++ e.text
  | .configure e => "Failed to configure wakeup pipe: " ++ e.text
  | .wait e => "Failed to wait on wakeup descriptor: " ++ e.text
  | .alreadyInstalled => "Main wakeup signal already installed"

-- Which of two descriptors ended a wait.
inductive Wake where
  | signalled
  | readable
  deriving DecidableEq, Repr

namespace WakeupSignal

def fresh : WakeupSignal := ⟨false, 0⟩

-- Each end of the pipe takes four calls to be made non-blocking and private to the process.
def create (pipe fcntl : Plan) : Except WakeupError WakeupSignal :=
  match pipe.firstFailure 1, fcntl.firstFailure 8 with
  | some e, _ => .error (.pipe e)
  | none, some e => .error (.configure e)
  | none, none => .ok fresh

def readable (s : WakeupSignal) : Bool :=
  s.bytes != 0

-- The steps that threads and signal handlers interleave.

def pipeCapacity : Nat := 65536

-- Raises the flag and tells whether it was up before.
def swap (s : WakeupSignal) : Bool × WakeupSignal :=
  (s.pending, { s with pending := true })

-- A full pipe refuses the byte, which does no harm: its bytes wake the waiter as well.
def writeByte (s : WakeupSignal) : WakeupSignal :=
  if s.bytes < pipeCapacity then { s with bytes := s.bytes + 1 } else s

def readSize : Nat := 64

def readBytes (s : WakeupSignal) : WakeupSignal :=
  { s with bytes := s.bytes - readSize }

def clear (s : WakeupSignal) : WakeupSignal :=
  { s with pending := false }

-- The operations.

def set (s : WakeupSignal) : WakeupSignal :=
  match s.swap with
  | (true, s) => s
  | (false, s) => s.writeByte

def setTimes : Nat → WakeupSignal → WakeupSignal
  | 0, s => s
  | n + 1, s => setTimes n s.set

-- Reads until the pipe is empty. An interrupted read is made again, any other failure ends it.
def drain : Plan → WakeupSignal → WakeupSignal × Plan
  | [], s => ({ s with bytes := 0 }, [])
  | e :: rest, s =>
    if e = Errno.interrupted then drain rest s
    else if !e.passes then (s, rest)
    else if s.bytes = 0 then (s, rest)
    else drain rest s.readBytes

def reset (plan : Plan) (s : WakeupSignal) : WakeupSignal × Plan :=
  let drained := drain plan s
  (drained.1.clear, drained.2)

def wait (s : WakeupSignal) (plan : Plan) : Waited Unit × Plan :=
  plan.poll (if s.readable then some () else none)

-- A set signal wins over a readable descriptor.
def wakeOf (s : WakeupSignal) (otherReadable : Bool) : Option Wake :=
  if s.readable then some .signalled else if otherReadable then some .readable else none

def waitOrReadable (s : WakeupSignal) (otherReadable : Bool) (plan : Plan) : Waited Wake × Plan :=
  plan.poll (s.wakeOf otherReadable)

end WakeupSignal

-- The signal that the whole process shares. It is installed once, before any handler uses it.
namespace MainWakeup

def install (installed : Bool) : Except WakeupError Unit :=
  if installed then .error .alreadyInstalled else .ok ()

-- Written before the process aborts because a handler ran without an installed signal.
def missingText : String :=
  "Internal error: main wakeup signal is not installed\r\n"

def abortSignal : Nat := 6

end MainWakeup

end TermBridge
