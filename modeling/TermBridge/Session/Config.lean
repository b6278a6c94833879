import TermBridge.Errno
import TermBridge.Terminal.Size

namespace TermBridge

structure SessionFlags where
  separateErrors : Bool := false
  plainOutput : Bool := false
  colorEscapes : Bool := false
  deriving DecidableEq, Repr

namespace SessionFlags

def ofBits (n : Nat) : SessionFlags :=
  ⟨n.testBit 0, n.testBit 1, n.testBit 2⟩

def bits (f : SessionFlags) : Nat :=
  f.separateErrors.toNat + 2 * f.plainOutput.toNat + 4 * f.colorEscapes.toNat

end SessionFlags

-- Whether terminal mouse reporting is left to the child or always turned on.
inductive MouseMode where
  | auto
  | force
  deriving DecidableEq, Repr

-- Changes to the environment of a child: the variables to set come before those to remove.
structure EnvironmentChanges where
  set : List (String × String) := []
  remove : List String := []
  deriving DecidableEq, Repr

structure SessionConfig where
  flags : SessionFlags := {}
  mouseMode : MouseMode := .auto
  initialSize : TerminalSize := TerminalSize.standard
  environment : EnvironmentChanges := {}
  deriving DecidableEq, Repr

inductive SessionError where
  | backend (text : String)
  | errorChannelUnsupported
  | endpointsTaken
  deriving DecidableEq, Repr

def SessionError.message : SessionError → String
  | .backend text => text
  | .errorChannelUnsupported => "a separate error channel is not supported by this session backend"
  | .endpointsTaken => "session endpoints were already taken"

-- Why a process could not be started: the system refused, or the session itself failed.
inductive SpawnError where
  | createProcess (code : Errno)
  | internal (text : String)
  deriving DecidableEq, Repr

def SpawnError.message : SpawnError → String
  | .createProcess code => OsError.describe code
  | .internal text => "internal error: " ++ text

end TermBridge
