import TermBridge.Session.Config
import TermBridge.Text.Utf8
import TermBridge.Wakeup.Signal

namespace TermBridge

-- What one read comes to. No bytes at all mean the end.
inductive ReadResult where
  | bytes (bs : Bytes)
  | failed (e : Errno)
  | blocked
  deriving DecidableEq, Repr

-- The reading side of a pseudo-terminal: the output that waits there, whether more can come, and the
-- signal that ends it early.
structure MasterSide where
  waiting : Bytes := []
  hungUp : Bool := false
  stop : WakeupSignal := .fresh
  pollPlan : Plan := []
  readPlan : Plan := []
  deriving DecidableEq, Repr

namespace MasterSide

def readable (m : MasterSide) : Bool :=
  !m.waiting.isEmpty || m.hungUp

-- A read that is let through. With nothing waiting the other side has hung up, which is the end.
def take (n : Nat) (m : MasterSide) : ReadResult × MasterSide :=
  (.bytes (m.waiting.take n), { m with waiting := m.waiting.drop n })

-- Failures after which the wait starts again.
def isPassing (e : Errno) : Bool :=
  e = Errno.interrupted || e = Errno.tryAgain

def read (n : Nat) (m : MasterSide) : ReadResult × MasterSide :=
  if n = 0 then (.bytes [], m)
  else
    match m.stop.waitOrReadable m.readable m.pollPlan with
    | (.blocked, plan) => (.blocked, { m with pollPlan := plan })
    | (.failed e, plan) => (.failed e, { m with pollPlan := plan })
    | (.ready .signalled, plan) => (.bytes [], { m with pollPlan := plan })
    | (.ready .readable, plan) =>
      match _h : m.readPlan with
      | [] => { m with pollPlan := plan }.take n
      | e :: rest =>
        let m := { m with pollPlan := plan, readPlan := rest }
        if e.passes then m.take n
        else if e = Errno.inputOutput then (.bytes [], m)
        else if isPassing e then m.read n
        else (.failed e, m)
termination_by m.readPlan.length
decreasing_by
  simp [_h]

end MasterSide

namespace Mouse

-- Turns reports of buttons, of dragging, and their extended form on.
def enable : Bytes :=
  Utf8.encode "\x1B[?1000h\x1B[?1002h\x1B[?1006h"

def disable : Bytes :=
  Utf8.encode "\x1B[?1006l\x1B[?1002l\x1B[?1000l"

end Mouse

-- What is left of the sequences around the output. A framed endpoint stays at its end once the
-- output has ended.
structure SessionOutput where
  framed : Bool
  front : Bytes
  back : Bytes
  ended : Bool := false
  master : MasterSide
  deriving DecidableEq, Repr

namespace SessionOutput

def ofMaster (mode : MouseMode) (master : MasterSide) : SessionOutput :=
  match mode with
  | .auto => { framed := false, front := [], back := [], master := master }
  | .force => { framed := true, front := Mouse.enable, back := Mouse.disable, master := master }

def readBack (n : Nat) (o : SessionOutput) : ReadResult × SessionOutput :=
  (.bytes (o.back.take n), { o with back := o.back.drop n })

-- Reads into a buffer of `n` bytes.
def read (n : Nat) (o : SessionOutput) : ReadResult × SessionOutput :=
  if n = 0 then (.bytes [], o)
  else if !o.front.isEmpty then (.bytes (o.front.take n), { o with front := o.front.drop n })
  else if o.ended then o.readBack n
  else
    match o.master.read n with
    | (.bytes [], master) => { o with master := master, ended := o.framed }.readBack n
    | (result, master) => (result, { o with master := master })

def halt (o : SessionOutput) : SessionOutput :=
  { o with master := { o.master with stop := o.master.stop.set } }

-- How many bytes there are to read, and how many failures are planned.
def work (o : SessionOutput) : Nat :=
  o.front.length + o.back.length + o.master.waiting.length + o.master.readPlan.length

-- Reads on until there are `wanted` bytes, or to the end if no number is given. A failure loses what
-- was read before it. The fuel is the work there is.
def gather (wanted : Option Nat) : Nat → Bytes → SessionOutput → Option Bytes × SessionOutput
  | 0, _, o => (none, o)
  | fuel + 1, front, o =>
    if wanted.any (· ≤ front.length) then (some front, o)
    else
      match o.read (wanted.elim 65536 (· - front.length)) with
      | (.bytes [], o) => (if wanted.isNone then some front else none, o)
      | (.bytes bs, o) => gather wanted fuel (front ++ bs) o
      | (_, o) => (none, o)

def readExactly (n : Nat) (o : SessionOutput) : Option Bytes × SessionOutput :=
  o.gather (some n) (o.work + 2) []

def readAll (o : SessionOutput) : Option Bytes × SessionOutput :=
  o.gather none (o.work + 2) []

end SessionOutput

end TermBridge
