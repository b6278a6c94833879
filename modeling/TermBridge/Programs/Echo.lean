import TermBridge.Programs.Escapes
import TermBridge.Programs.Output

namespace TermBridge.Programs.Echo

structure Mode where
  newline : Bool := true
  escapes : Bool := false
  deriving DecidableEq, Repr

def isOption (arg : String) : Bool :=
  match arg.toList with
  | '-' :: c :: rest => (c :: rest).all fun c => c == 'n' || c == 'e' || c == 'E'
  | _ => false

def Mode.apply (m : Mode) (arg : String) : Mode :=
  arg.toList.foldl (fun m c =>
    if c = 'n' then { m with newline := false }
    else if c = 'e' then { m with escapes := true }
    else if c = 'E' then { m with escapes := false }
    else m) m

-- The leading options, and the arguments to print.
def options (m : Mode) : List String → Mode × List String
  | [] => (m, [])
  | arg :: rest => if isOption arg then options (m.apply arg) rest else (m, arg :: rest)

def text (m : Mode) (d : Dialect) (args : List String) : String :=
  let line := " ".intercalate args
  let ending := if m.newline then "\n" else ""
  if m.escapes then
    match Escapes.replace d .text line with
    | (chars, .stopped) => String.ofList chars
    | (chars, _) => String.ofList chars ++ ending
  else line ++ ending

def output (d : Dialect) (args : List String) : String :=
  match d, args with
  | .standalone, args =>
    let (m, args) := options {} args
    text m d args
  | .builtin, "-n" :: rest => text ⟨false, true⟩ d rest
  | .builtin, args => text ⟨true, true⟩ d args

def run : Program := fun argv _ =>
  printText (argv.headD "echo") (output .standalone (argv.drop 1))

end TermBridge.Programs.Echo
