import TermBridge.Session.Config

namespace TermBridge

structure Switches where
  mouse : Bool := false
  showKeys : Bool := false
  allowNonTtys : Bool := false
  separateErrors : Bool := false
  plainOutput : Bool := false
  colorEscapes : Bool := false
  deriving DecidableEq, Repr

-- A request to run a child: its words and the switches that were given.
structure LaunchOptions where
  childArgv : List String
  switches : Switches
  deriving DecidableEq, Repr

inductive Request where
  | help
  | version
  | showKeys (allowNonTtys : Bool)
  | run (options : LaunchOptions)
  deriving DecidableEq, Repr

inductive OptionsError where
  | unrecognized (option : String)
  | missingProgram
  deriving DecidableEq, Repr

def OptionsError.message : OptionsError → String
  | .unrecognized option => "unrecognized option: '" ++ option ++ "'"
  | .missingProgram => "no program given"

namespace Switches

-- What one word does to the switches. Other words give nothing.
def turnOn? (s : Switches) : String → Option Switches
  | "--mouse" => some { s with mouse := true }
  | "--showkey" => some { s with showKeys := true }
  | "-Xallow-non-tty" => some { s with allowNonTtys := true }
  | "-Xconerr" => some { s with separateErrors := true }
  | "-Xplain" => some { s with plainOutput := true }
  | "-Xcolor" => some { s with colorEscapes := true }
  | _ => none

end Switches

namespace Request

-- The request made by the switches and the child's words. Showing keys needs no program.
def ofSwitches (s : Switches) (childArgv : List String) : Except OptionsError Request :=
  if s.showKeys then .ok (.showKeys s.allowNonTtys)
  else if childArgv.isEmpty then .error .missingProgram
  else .ok (.run ⟨childArgv, s⟩)

def isOption (word : String) : Bool :=
  word.toList.head? == some '-'

def parseWith (s : Switches) : List String → Except OptionsError Request
  | [] => ofSwitches s []
  | word :: rest =>
    if !isOption word then ofSwitches s (word :: rest)
    else if word = "-h" || word = "--help" then .ok .help
    else if word = "--version" then .ok .version
    else if word = "--" then ofSwitches s rest
    else
      match s.turnOn? word with
      | some s => parseWith s rest
      | none => .error (.unrecognized word)

def parse (words : List String) : Except OptionsError Request :=
  parseWith {} words

end Request

namespace LaunchOptions

def sessionFlags (o : LaunchOptions) : SessionFlags :=
  ⟨o.switches.separateErrors, o.switches.plainOutput, o.switches.colorEscapes⟩

-- The settings file and the option each turn mouse reporting on by themselves.
def mouseMode (o : LaunchOptions) (forcedBySettings : Bool) : MouseMode :=
  if o.switches.mouse || forcedBySettings then .force else .auto

end LaunchOptions

namespace Usage

def version : String := "0.3.0"

def versionText : String :=
  "ptyadapter " ++ version ++ "\n"

def text (program : String) : String :=
  "Usage: " ++ program ++ " [options] [--] program [args]\n\n" ++
  "Options:\n" ++
  "  -h, --help  Show this help message\n" ++
  "  --mouse     Enable terminal mouse input\n" ++
  "  --showkey   Dump STDIN escape sequences\n" ++
  "  --version   Show the ptyadapter version number\n"

end Usage

end TermBridge
