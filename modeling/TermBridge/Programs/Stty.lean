import TermBridge.Programs.Output
import TermBridge.Programs.Stty.Display
import TermBridge.Text.Real
import TermBridge.Text.ShellQuoted

namespace TermBridge.Programs.Stty

inductive Style where
  | differences
  | everything
  | record
  deriving DecidableEq, Repr

structure Request where
  styles : List Style := []
  file : Option String := none
  settings : List String := []
  -- There are settings besides those that change nothing.
  changes : Bool := false
  deriving DecidableEq, Repr

inductive Error where
  | invalid (arg : String)
  | invalidSpeed (what value : String)
  | missing (arg : String)
  | number (value : String) (reason : String)
  | twoDevices
  | twoStyles
  | styleAndSettings
  deriving DecidableEq, Repr

-- Whether the usage is pointed to.
def Error.hinted : Error → Bool
  | .invalid _ | .invalidSpeed _ _ | .missing _ => true
  | _ => false

def Error.message : Error → String
  | .invalid arg => "invalid argument " ++ ShellQuoted.encode arg
  | .invalidSpeed what value => "invalid " ++ what ++ " " ++ ShellQuoted.encode value
  | .missing arg => "missing argument to " ++ ShellQuoted.encode arg
  | .number value reason => "invalid integer argument: " ++ ShellQuoted.encode value ++ reason
  | .twoDevices => "only one device may be specified"
  | .twoStyles =>
    "the options for verbose and stty-readable output styles are\nmutually exclusive"
  | .styleAndSettings => "when specifying an output style, modes may not be set"

def isDrain (arg : String) : Bool :=
  arg = "drain" || arg = "-drain"

-- Options. What is none of them is a setting.

-- The letters of an option argument: the styles, and a device behind the letter F, which may be the
-- next argument.
def optionLetters : List Char → Option (List Style × Option String)
  | [] => some ([], none)
  | 'a' :: rest => (optionLetters rest).map fun r => (.everything :: r.1, r.2)
  | 'g' :: rest => (optionLetters rest).map fun r => (.record :: r.1, r.2)
  | 'F' :: rest => some ([], some (String.ofList rest))
  | _ => none

def isPrefixOfWord (word text : String) : Bool :=
  !text.isEmpty && text.toList.isPrefixOf word.toList

def option? (arg : String) : Option (List Style × Option String) :=
  match arg.toList with
  | '-' :: '-' :: word =>
    let name := String.ofList (word.takeWhile (· != '='))
    match word.dropWhile (· != '=') with
    | [] =>
      if isPrefixOfWord "all" name then some ([.everything], none)
      else if isPrefixOfWord "save" name then some ([.record], none)
      else if isPrefixOfWord "file" name then some ([], some "")
      else none
    | _ :: value => if isPrefixOfWord "file" name then some ([], some (String.ofList value)) else none
  | '-' :: c :: rest => optionLetters (c :: rest)
  | _ => none

def Request.addSetting (r : Request) (arg : String) : Request :=
  { r with settings := r.settings ++ [arg], changes := r.changes || !isDrain arg }

def readFrom (r : Request) : List String → Except Error Request
  | [] => .ok r
  | arg :: rest =>
    match option? arg with
    | none => readFrom (r.addSetting arg) rest
    | some (styles, none) => readFrom { r with styles := r.styles ++ styles } rest
    | some (styles, some file) =>
      let r := { r with styles := r.styles ++ styles }
      if r.file.isSome then .error .twoDevices
      else if !file.isEmpty then readFrom { r with file := some file } rest
      else
        match rest with
        | [] => .error (.invalid arg)
        | file :: rest => readFrom { r with file := some file } rest

def Request.read (args : List String) : Except Error Request :=
  match readFrom {} args with
  | .error err => .error err
  | .ok r =>
    if r.styles.contains .everything && r.styles.contains .record then .error .twoStyles
    else if r.changes && !r.styles.isEmpty then .error .styleAndSettings
    else .ok r

-- Settings.

def mostInteger : Nat := 0x7FFFFFFF

-- A number in any base, which may be multiplied by a letter behind it.
def integer (most : Nat) (text : String) : Except Error Nat :=
  let body := text.toList.dropWhile Real.isSpace
  let body := match body with
    | '+' :: rest => rest
    | body => body
  let (base, body) := Numeral.baseOf body
  let (ds, rest) := Numeral.digits base body
  let n := Numeral.ofDigits base ds
  let scale? : Option Nat := match rest with
    | [] => some 1
    | ['b'] => some 512
    | ['B'] => some 1024
    | _ => none
  match scale? with
  | none => .error (.number text "")
  | some scale =>
    if ds.isEmpty then .error (.number text "")
    else if n * scale ≤ most then .ok (n * scale)
    else if mostInteger / 2 < n * scale then
      .error (.number text ": Value too large for defined data type")
    else .error (.number text ": Numerical result out of range")

def mostKey : Nat := 0xFF

-- The control character that an argument describes.
def key (text : String) : Except Error Char :=
  match text.toList with
  | [] => .ok Controls.none
  | [c] => .ok c
  | ['^', '-'] => .ok Controls.none
  | '^' :: '?' :: _ => .ok '\x7F'
  | '^' :: c :: _ => .ok (Char.ofNat (c.toNat - (c.toNat &&& 0x60)))
  | _ => if text = "undef" then .ok Controls.none else (integer mostKey text).map Char.ofNat

inductive Action where
  | change (c : Change)
  | resize (rows cols : Option Nat)
  | showSize
  | showSpeed
  | nothing

def speed (what value : String) : Except Error Action :=
  match speeds.lookup value with
  | some code => .ok (.change (setSpeed code))
  | none => .error (.invalidSpeed what value)

-- A setting that is followed by a value.
def valued? (name : String) : Option (String → Except Error Action) :=
  match keys.find? (·.name == name) with
  | some k =>
    some fun value => (key value).map fun c =>
      .change fun a => { a with controls := k.set a.controls c }
  | none =>
    match name with
    | "min" =>
      some fun value => (integer mostKey value).map fun n =>
        .change fun a => { a with vmin := UInt8.ofNat n }
    | "time" =>
      some fun value => (integer mostKey value).map fun n =>
        .change fun a => { a with vtime := UInt8.ofNat n }
    | "rows" => some fun value => (integer mostInteger value).map fun n => .resize (some n) none
    | "cols" | "columns" =>
      some fun value => (integer mostInteger value).map fun n => .resize none (some n)
    | "ispeed" | "ospeed" => some (speed name)
    | "line" =>
      some fun value => (integer mostKey value).map fun n =>
        .change fun a => { a with discipline := UInt8.ofNat n }
    | _ => none

def plain (arg : String) : Except Error Action :=
  match arg with
  | "size" => .ok .showSize
  | "speed" => .ok .showSpeed
  | _ =>
    match speeds.lookup arg, ofRecord? arg with
    | some code, _ => .ok (.change (setSpeed code))
    | none, some recorded => .ok (.change fun a => { recorded with discipline := a.discipline })
    | none, none => .error (.invalid arg)

def actions : List String → Except Error (List Action)
  | [] => .ok []
  | arg :: rest =>
    let (name, on) := match arg.toList with
      | '-' :: name => (String.ofList name, false)
      | _ => (arg, true)
    if isDrain arg then (actions rest).map (.nothing :: ·)
    else
      match change? name on with
      | some c => (actions rest).map (.change c :: ·)
      | none =>
        if !on then .error (.invalid arg)
        else
          match valued? name, rest with
          | some _, [] => .error (.missing name)
          | some action, value :: rest => do return (← action value) :: (← actions rest)
          | none, rest => do return (← plain arg) :: (← actions rest)

-- The program.

structure Session where
  name : String
  device : String
  descriptor : Nat

def Session.fail (s : Session) (reason : String) : Sys Nat :=
  Programs.fail 1 (s.name ++ ": " ++ ShellQuoted.name s.device ++ ": " ++ reason ++ "\n")

def Session.request (s : Session) (r : Unix.TerminalRequest) :
    Sys (Except Errno Unix.TerminalView) :=
  Sys.perform (.terminal s.descriptor r)

def resized (size : TerminalSize) (rows cols : Option Nat) : TerminalSize :=
  ⟨cols.elim size.cols UInt16.ofNat, rows.elim size.rows UInt16.ofNat⟩

-- Does what was asked for, one by one. The attributes are collected, and set at the end.
def perform (s : Session) (a : Attributes) (printed : String) :
    List Action → Sys (Except Errno (Attributes × String))
  | [] => return .ok (a, printed)
  | action :: rest => do
    match action with
    | .nothing => perform s a printed rest
    | .change c => perform s (c a) printed rest
    | .showSpeed => perform s a (printed ++ speedText a ++ "\n") rest
    | .showSize =>
      match ← s.request .look with
      | .error e => return .error e
      | .ok v =>
        let text := v.size.rows.toNat.repr ++ " " ++ v.size.cols.toNat.repr ++ "\n"
        perform s a (printed ++ text) rest
    | .resize rows cols =>
      match ← s.request .look with
      | .error e => return .error e
      | .ok v =>
        match ← s.request (.resize (resized v.size rows cols)) with
        | .error e => return .error e
        | .ok _ => perform s a printed rest

def Action.changes : Action → Bool
  | .change _ => true
  | _ => false

-- A terminal that does not take what it is given says so.
def apply (s : Session) (as : List Action) : Sys Nat := do
  match ← s.request .look with
  | .error e => s.fail e.message
  | .ok v =>
    match ← perform s v.attributes "" as with
    | .error e => s.fail e.message
    | .ok (a, printed) =>
      if !as.any Action.changes then printText s.name printed
      else
        match ← s.request (.setUp a) with
        | .error e => s.fail e.message
        | .ok _ =>
          if a.accepted.cflag ≠ a.cflag then
            s.fail Errno.invalidArgument.message
          else printText s.name printed

-- The width of the screen that the output goes to.
def outputWidth (environment : List String) : Sys Nat := do
  let declared := environment.findSome? fun entry =>
    if entry.startsWith "COLUMNS=" then (entry.drop 8).toNat? else none
  let standard := (declared.filter (0 < ·)).getD 80
  match ← Sys.perform (.terminal standardOutput .look) with
  | .ok v => return if v.size.cols = 0 then standard else v.size.cols.toNat
  | .error _ => return standard

def display (s : Session) (style : Style) (environment : List String) : Sys Nat := do
  match ← s.request .look with
  | .error e => s.fail e.message
  | .ok v => do
    let width ← outputWidth environment
    printText s.name (match style with
      | .differences => differences width v
      | .everything => everything width v
      | .record => record v.attributes)

def serve (s : Session) (r : Request) (as : List Action) (environment : List String) : Sys Nat :=
  match r.styles with
  | style :: more => display s ((style :: more).getLast?.getD style) environment
  | [] => if r.changes then apply s as else display s .differences environment

def run : Program := fun argv environment => do
  let name := argv.headD "stty"
  let checked := do
    let r ← Request.read (argv.drop 1)
    return (r, ← if r.changes then actions r.settings else .ok [])
  match checked with
  | .error err =>
    let hint := if err.hinted then "Try '" ++ name ++ " --help' for more information.\n" else ""
    fail 1 (name ++ ": " ++ err.message ++ "\n" ++ hint)
  | .ok (r, as) =>
    match r.file with
    | none => serve ⟨name, "standard input", standardInput⟩ r as environment
    | some file =>
      match ← Sys.perform (.openFile file { reads := true }) with
      | .error e => fail 1 (name ++ ": " ++ ShellQuoted.name file ++ ": " ++ e.message ++ "\n")
      | .ok descriptor => serve ⟨name, file, descriptor⟩ r as environment

end TermBridge.Programs.Stty
