import TermBridge.EventLoop
import TermBridge.Launch

namespace TermBridge.Run

inductive Error where
  | wakeup (err : WakeupError)
  | ownPath (e : Errno)
  | session (err : SessionError)
  | launch (err : Launch.Error)
  | resizeHandler (e : Errno)
  | modes (err : ModeError)
  | loop (err : LoopError)
  deriving DecidableEq, Repr

def Error.message : Error → String
  | .wakeup err => err.message
  | .ownPath _ => "Could not determine the adapter's own path"
  | .session err => "Error creating session: " ++ err.message
  | .launch err => err.message
  | .resizeHandler e => "Failed to install resize handler: " ++ e.text
  | .modes err => err.message
  | .loop err => err.message

-- What comes of each step, and what the event loop runs under.
structure Setup where
  wakeup : Except WakeupError Unit := .ok ()
  ownPath : Except Errno Unit := .ok ()
  opened : Except SessionError Unit := .ok ()
  endpoints : Except SessionError Unit := .ok ()
  launched : Except Launch.Error Unit := .ok ()
  resizeHandler : Except Errno Unit := .ok ()
  streams : Streams
  options : CaptureOptions
  terminals : Terminals
  inputWorker : Except WakeupError Unit := .ok ()
  loop : EventLoop.Script := {}
  -- What others do to the terminals after they have been switched and before they are restored.
  meanwhile : Terminals → Terminals := id

-- What a run takes and gives back, in order.
inductive Event where
  | openSession
  | freeSession
  | captureModes
  | restoreModes
  deriving DecidableEq, Repr

def Event.ofLoop? : LoopEvent → Option Event
  | .freeSession => some .freeSession
  | .restoreModes => some .restoreModes
  | _ => none

-- What a run works on: the terminals, and the record of what it has taken and given back so far.
structure World where
  events : List Event := []
  terminals : Terminals

namespace World

def record (w : World) (event : Event) : World :=
  { w with events := w.events ++ [event] }

-- A capture that fails has taken nothing.
def capture (w : World) (streams : Streams) (options : CaptureOptions) :
    Except ModeError SavedModes × World :=
  match SavedModes.capture streams options w.terminals with
  | (.error err, terminals) => (.error err, { w with terminals := terminals })
  | (.ok modes, terminals) => (.ok modes, { w with terminals := terminals }.record .captureModes)

def restore (w : World) (modes : SavedModes) : World :=
  { w with terminals := (modes.restore w.terminals).2 }.record .restoreModes

-- The event loop frees the session and restores the modes by itself.
def loop (w : World) (script : EventLoop.Script) (modes : SavedModes) :
    Except LoopError UInt32 × World :=
  let restored := modes.restore w.terminals
  let ran := EventLoop.run script restored.1
  (ran.1, ⟨w.events ++ ran.2.filterMap Event.ofLoop?, restored.2⟩)

end World

structure Outcome extends World where
  result : Except Error UInt32

namespace Setup

-- Installs the resize handler and switches the terminal.
def prepareTerminal (s : Setup) (w : World) : Except Error SavedModes × World :=
  match s.resizeHandler with
  | .error e => (.error (.resizeHandler e), w)
  | .ok () =>
    match w.capture s.streams s.options with
    | (.error err, w) => (.error (.modes err), w)
    | (.ok modes, w) => (.ok modes, w)

-- The last part: the terminal is switched already, and the workers can start.
def forward (s : Setup) (modes : SavedModes) (w : World) : Outcome :=
  let w := { w with terminals := s.meanwhile w.terminals }
  match s.inputWorker with
  | .error err => ⟨(w.record .freeSession).restore modes, .error (.wakeup err)⟩
  | .ok () =>
    let (result, w) := w.loop s.loop modes
    ⟨w, result.mapError .loop⟩

end Setup

def run (s : Setup) : Outcome :=
  let w : World := { terminals := s.terminals }
  match s.wakeup with
  | .error err => ⟨w, .error (.wakeup err)⟩
  | .ok () =>
    match s.ownPath with
    | .error e => ⟨w, .error (.ownPath e)⟩
    | .ok () =>
      match s.opened with
      | .error err => ⟨w, .error (.session err)⟩
      | .ok () =>
        let w := w.record .openSession
        match s.endpoints with
        | .error err => ⟨w.record .freeSession, .error (.session err)⟩
        | .ok () =>
          match s.launched with
          | .error err => ⟨w.record .freeSession, .error (.launch err)⟩
          | .ok () =>
            match s.prepareTerminal w with
            | (.error err, w) => ⟨w.record .freeSession, .error err⟩
            | (.ok modes, w) => s.forward modes w

end TermBridge.Run
