namespace TermBridge

structure TerminalSize where
  cols : UInt16
  rows : UInt16
  deriving DecidableEq, Repr

namespace TerminalSize

-- Assumed where the size is not known.
def standard : TerminalSize := ⟨80, 25⟩

-- What a descriptor leads to. Both sides of a pseudo-terminal know the size of the terminal.
inductive Device where
  | slave (size : TerminalSize)
  | master (size : TerminalSize)
  | pipe
  deriving DecidableEq, Repr

def query : Device → Option TerminalSize
  | .slave size => some size
  | .master size => some size
  | .pipe => none

def queryOrStandard (device : Device) : TerminalSize :=
  (query device).getD standard

end TerminalSize

end TermBridge
