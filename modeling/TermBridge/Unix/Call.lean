import TermBridge.Unix.Files
import TermBridge.Terminal.Attributes
import TermBridge.Terminal.Size

namespace TermBridge.Unix

inductive Status where
  | exited (code : Nat)
  | killed (signal : Nat)
  deriving DecidableEq, Repr

def Status.code : Status → Nat
  | .exited code => code
  | .killed signal => 128 + signal

-- What a parent learns about a child.
inductive Change where
  | ended (status : Status)
  | stopped (signal : Nat)
  deriving DecidableEq, Repr

-- What a signal does to a process: what it does by default, nothing, or it is noted for the process to
-- see.
inductive Disposition where
  | standard
  | ignored
  | caught
  deriving DecidableEq, Repr

structure OpenMode where
  reads : Bool := false
  writes : Bool := false
  appends : Bool := false
  creates : Bool := false
  truncates : Bool := false
  exclusive : Bool := false
  deriving DecidableEq, Repr

structure FileStatus where
  id : Nat
  kind : Files.Kind
  mode : Nat
  size : Nat
  deriving DecidableEq, Repr

-- How long to wait for a child: not at all, until there is news, or until there is news or a signal.
inductive Patience where
  | none
  | unlimited
  | untilSignal
  deriving DecidableEq, Repr

inductive Recipient where
  | process (id : Nat)
  | group (id : Nat)
  deriving DecidableEq, Repr

structure Identity where
  process : Nat
  parent : Nat
  group : Nat
  deriving DecidableEq, Repr

structure TerminalView where
  attributes : Attributes
  size : TerminalSize
  -- The process group that the keyboard belongs to.
  foreground : Nat
  deriving DecidableEq, Repr

inductive TerminalRequest where
  | look
  | setUp (attributes : Attributes)
  | resize (size : TerminalSize)
  | bringForward (group : Nat)
  deriving DecidableEq, Repr

inductive Call where
  -- Lets the other processes have their turn.
  | pass
  | read (descriptor count : Nat)
  | write (descriptor : Nat) (text : List Char)
  | openFile (path : String) (mode : OpenMode)
  | close (descriptor : Nat)
  -- Gives an open file another number: the least from a number on, or a certain one.
  | duplicate (descriptor least : Nat) (closeOnExecute : Bool)
  | place (descriptor target : Nat)
  | makePipe
  | wait (patience : Patience) (stopsToo : Bool)
  | signal (recipient : Recipient) (number : Nat)
  | arrange (signal : Nat) (disposition : Disposition)
  -- Which signals have been noted since the last time.
  | noted
  -- Waits for a time, in nanoseconds.
  | sleep (time : Nat)
  | execute (path : String) (arguments environment : List String)
  | identity
  | joinGroup (process group : Nat)
  | terminal (descriptor : Nat) (request : TerminalRequest)
  | changeDirectory (path : String)
  | workingDirectory
  | status (path : String) (follow : Bool)
  | descriptorStatus (descriptor : Nat)
  | entries (path : String)
  -- Which permissions are withheld from new files.
  | setMask (mask : Nat)

def Call.Reply : Call → Type
  | .pass => Unit
  | .read _ _ => Except Errno (List Char)
  | .write _ _ => Except Errno Unit
  | .openFile _ _ => Except Errno Nat
  | .close _ => Except Errno Unit
  | .duplicate _ _ _ => Except Errno Nat
  | .place _ _ => Except Errno Unit
  | .makePipe => Except Errno (Nat × Nat)
  | .wait _ _ => Except Errno (Option (Nat × Change))
  | .signal _ _ => Except Errno Unit
  | .arrange _ _ => Except Errno Disposition
  | .noted => List Nat
  | .sleep _ => Unit
  | .execute _ _ _ => Errno
  | .identity => Identity
  | .joinGroup _ _ => Except Errno Unit
  | .terminal _ _ => Except Errno TerminalView
  | .changeDirectory _ => Except Errno Unit
  | .workingDirectory => String
  | .status _ _ => Except Errno FileStatus
  | .descriptorStatus _ => Except Errno FileStatus
  | .entries _ => Except Errno (List String)
  | .setMask _ => Nat

inductive Behaviour where
  | ended (code : Nat)
  -- Starts a child, whose number is the reply.
  | fork (child : Behaviour) (next : Nat → Behaviour)
  | call (c : Call) (next : c.Reply → Behaviour)

instance : Inhabited Behaviour := ⟨.ended 0⟩

end TermBridge.Unix

namespace TermBridge

open Unix

-- A part of what a process does, with a result that the rest of it goes on with.
def Sys (α : Type) : Type :=
  (α → Behaviour) → Behaviour

namespace Sys

instance : Monad Sys where
  pure a := fun next => next a
  bind x f := fun next => x fun a => f a next

def perform (c : Call) : Sys c.Reply :=
  Behaviour.call c

def startChild (child : Behaviour) : Sys Nat :=
  Behaviour.fork child

def exit {α : Type} (code : Nat) : Sys α :=
  fun _ => .ended code

-- A whole process, which ends with the result as its exit code.
def toBehaviour (x : Sys Nat) : Behaviour :=
  x .ended

def print (descriptor : Nat) (text : String) : Sys (Except Errno Unit) :=
  if text.isEmpty then pure (.ok ()) else perform (.write descriptor text.toList)

end Sys

end TermBridge
