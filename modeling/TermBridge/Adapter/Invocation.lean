import TermBridge.Adapter.ChildExec
import TermBridge.Adapter.Run
import TermBridge.KeyDump
import TermBridge.Log.Filter
import TermBridge.Options
import TermBridge.Session.Pty
import TermBridge.Settings.Location

namespace TermBridge

open Unix (Machine Object OpenFile Status)

-- What the standard streams are connected to: a file or pipe with bytes in it, which may stay open
-- behind them, or a terminal with somebody typing.
inductive Console where
  | pipes (input : Bytes) (held : Bool)
  | terminal (size : TerminalSize) (keys : List Bytes)

namespace Console

def size? : Console → Option TerminalSize
  | .pipes _ _ => none
  | .terminal size _ => some size

def device : Console → StreamDevice
  | .pipes _ _ => .pipe
  | .terminal _ _ => .terminal 0

def streams (c : Console) : Streams :=
  ⟨c.device, c.device, c.device⟩

-- The texts that a program reads which takes all that is there.
def chunks : Console → List Bytes
  | .pipes input _ => if input.isEmpty then [] else [input]
  | .terminal _ keys => keys

-- Whether the input ends behind its bytes.
def ends : Console → Bool
  | .pipes _ held => !held
  | .terminal _ _ => false

end Console

structure Invocation where
  -- The arguments, the name the program was started under first.
  arguments : List Bytes
  -- The program's own file.
  selfPath : Bytes
  site : Spawn.Site
  -- What is in the place of the settings file, for those directories that can be used.
  directories : String → Option SettingsFile
  console : Console

-- What a run of the program leaves behind. On a terminal both outputs are shown together.
structure Answer where
  status : Status
  out : Bytes := []
  err : Bytes := []
  -- The records that went to the log file, if there is one.
  log : Option (List Log.Record) := none
  -- Whether the terminal is as it was before.
  restored : Bool := true

namespace Invocation

def programName (i : Invocation) : String :=
  match i.arguments with
  | name :: _ => Utf8.decodeLossy name
  | [] => "<program>"

def words (i : Invocation) : List String :=
  (i.arguments.drop 1).map Utf8.decodeLossy

-- Printing.

-- What a terminal shows of bytes that are printed while its output is processed.
def cooked (bytes : Bytes) : Bytes :=
  Octets.toBytes (String.ofList (({} : LineDiscipline).print (Octets.ofBytes bytes).toList).output)

-- An answer with text on each of the two outputs, in this order.
def printing (i : Invocation) (code : Nat) (out err : Bytes) : Answer :=
  match i.console with
  | .pipes _ _ => { status := .exited code, out := out, err := err }
  | .terminal _ _ => { status := .exited code, out := cooked out ++ cooked err }

def usage (i : Invocation) (code : Nat) : Answer :=
  i.printing code (Utf8.encode (Usage.text i.programName)) []

def refusal (i : Invocation) (text : String) : Answer :=
  i.printing 1 [] (Utf8.encode (text ++ "\n"))

-- Settings and log.

def lookup (i : Invocation) : Environment.Vars :=
  i.site.vars

def home? (i : Invocation) : Option String :=
  Settings.home (i.lookup "HOME") (i.lookup "USERPROFILE")

def settingsPath (home : String) : String :=
  Utf8.decodeLossy (Settings.dataDirectory (Utf8.encode home)) ++ "/" ++ Settings.fileName

def mainTarget : String := "ptyadapter"

def unusableText (path : String) : SettingsError → String
  | err@(.unreadable _) => err.message path ++ "; using defaults"
  | err@.malformed => err.message path

-- The settings, and what is logged if they cannot be used.
def settings (i : Invocation) : Settings × List Log.Record :=
  let home := i.home?.getD ""
  match Settings.load ((i.home?.bind i.directories).getD .absent) with
  | .ok settings => (settings, [])
  | .error err => ({}, [⟨.warn, mainTarget, unusableText (settingsPath home) err⟩])

def logVariable : String := "PTYADAPTER_LOG"

-- The log of a run: the records that the filter keeps, if there is a place for them.
def logged (i : Invocation) (settings : Settings) (records : List Log.Record) :
    Option (List Log.Record) :=
  (i.home?.bind i.directories).map fun _ =>
    records.filter (Log.Filter.choose (i.lookup logVariable) settings.logLevel).keeps

-- Showing keys.

-- What one read at a time returns: parts of a file, or what is typed before the next read.
def readsOf (console : Console) : List KeyDump.KeyRead :=
  console.chunks.flatMap cut
where
  cut : Bytes → List KeyDump.KeyRead
    | [] => []
    | first :: others =>
      .chunk first (others.take (KeyDump.readSize - 1)) :: cut (others.drop (KeyDump.readSize - 1))
  termination_by bytes => bytes.length
  decreasing_by
    simp only [List.length_drop, List.length_cons]
    omega

def isRestored (terminals : Terminals) : Bool :=
  (terminals 0).attributes = Attributes.standard

def showKeysTarget : String := "ptyadapter::showkey"

def showKeys (i : Invocation) (allowNonTtys : Bool) : Answer :=
  let (settings, unusable) := i.settings
  let o := KeyDump.run i.console.streams allowNonTtys (fun _ => {}) {} (readsOf i.console)
  let started :=
    if o.events.contains (.capture true) then [⟨.info, showKeysTarget, "showkey started"⟩] else []
  let (code, err, failed) : Nat × Bytes × List Log.Record :=
    match o.result with
    | .ok () => (0, [], [])
    | .error err =>
      let message := err.message?.getD ""
      (1, Utf8.encode (message ++ "\n"), [⟨.error, mainTarget, message⟩])
  { i.printing code o.sink.taken err with
    log := i.logged settings (unusable ++ started ++ failed)
    restored := isRestored o.terminals }

-- Running a child.

def launchTarget : String := "ptyadapter::core::launch"

def loopTarget : String := "ptyadapter::core::event_loop"

def config (i : Invocation) (o : LaunchOptions) (settings : Settings) : SessionConfig where
  flags := o.sessionFlags
  mouseMode := o.mouseMode settings.mouse
  initialSize := i.console.size?.getD .standard
  environment := Environment.changes settings.environment.propagate
    settings.environment.clearTerm i.lookup

-- What passes through a session, and the child's exit status. The end of the input ends the session
-- before the child has done anything.
def exchange (i : Invocation) (s : PtySession) : Bytes × Option UInt32 :=
  let s := i.console.chunks.foldl PtySession.write s
  let (output, s) := (if i.console.ends then s.free else s).readAll [] []
  let (code, _) := (if i.console.ends then s else s.free).exitCode []
  (output.getD [], code)

-- The steps of a run up to the launch: what came of them, the session, and what is logged.
structure Launched where
  opened : Except SessionError Unit
  endpoints : Except SessionError Unit := .ok ()
  launched : Except Launch.Error Unit := .ok ()
  session : Option PtySession := none
  records : List Log.Record := []

def launch (i : Invocation) (o : LaunchOptions) (settings : Settings) : Launched :=
  match PtySession.openSession i.site.system (i.config o settings) {} with
  | .error err => { opened := .error err }
  | .ok s =>
    match s.takeEndpoints [] with
    | (.error err, s) => { opened := .ok (), endpoints := .error err, session := some s }
    | (.ok (), s) =>
      let command : Launch.Command := ⟨i.selfPath, o.childArgv⟩
      let start := PtySession.spawn (ChildExec.startIn i.site)
      let (launched, s) := Launch.launch command start s
      { opened := .ok ()
        launched := launched
        session := some s
        records := [⟨.info, launchTarget, "spawning: " ++ command.sessionCommandLine⟩] }

def setup (i : Invocation) (o : LaunchOptions) (l : Launched) (code : Option UInt32) :
    Run.Setup where
  opened := l.opened
  endpoints := l.endpoints
  launched := l.launched
  streams := i.console.streams
  options := ⟨o.switches.allowNonTtys, true, o.switches.separateErrors⟩
  terminals := fun _ => {}
  loop := {
    opening := i.console.size?.getD .standard
    done := [if i.console.ends then .input else .output]
    exitCode := code }

def run (i : Invocation) (o : LaunchOptions) : Answer :=
  let (settings, unusable) := i.settings
  let l := i.launch o settings
  let (output, code) := (l.session.map i.exchange).getD ([], none)
  let outcome := Run.run (i.setup o l code)
  let begun := unusable ++ ⟨.info, mainTarget, "ptyadapter " ++ Usage.version ++ " starting"⟩ ::
    l.records
  match outcome.result with
  | .ok code =>
    { status := .exited code.toNat
      out := output
      log := i.logged settings
        (begun ++ [⟨.info, loopTarget, "child exited with status " ++ code.toNat.repr⟩])
      restored := isRestored outcome.terminals }
  | .error err =>
    { i.refusal err.message with
      log := i.logged settings (begun ++ [⟨.error, mainTarget, err.message⟩])
      restored := isRestored outcome.terminals }

-- The second instance, when it is started by hand.

-- A machine for a program whose standard streams are connected to the console. A file is not in any
-- directory.
def machine (i : Invocation) : Machine × List (List Nat × OpenFile) :=
  let system := i.site.system
  match i.console with
  | .terminal size _ => (.ofSystem system { size := size }, Machine.terminalStreams)
  | .pipes input held =>
    let m := Machine.ofSystem system { size := .standard, controls := false }
    let text := (Octets.ofBytes input).toList
    let (m, object) : Machine × Object :=
      if held then
        let (m, n) := m.addPipe (.ofText text true)
        (m, .pipe n)
      else
        ({ m with files := ⟨m.files.nodes.push ⟨.file text, 0o600⟩⟩ }, .file m.files.nodes.size)
    (m, [
      ([0], { object := object, reads := true, writes := false }),
      ([1], { object := .collector false, reads := false, writes := true }),
      ([2], { object := .collector true, reads := false, writes := true })])

-- A program that waits for more input than there will be is taken to be killed.
def statusOf (m : Machine) : Status :=
  m.status?.getD (.killed Signals.kill)

def become (i : Invocation) (target : List Bytes) : Answer :=
  let environment := (Environment.entries (i.site.env.map (·.1)) i.lookup).map Spawn.octetEntry
  let program := ChildExec.become environment (target.map Octets.ofBytes)
  let (m, streams) := i.machine
  let m := (m.startLeader i.site.system.working streams program.toBehaviour).run fun _ => false
  let text (shown : List Char) := Octets.toBytes (String.ofList shown)
  match i.console with
  | .pipes _ _ =>
    { status := statusOf m
      out := text m.collectedOutput.reverse
      err := text m.collectedErrors.reverse }
  | .terminal _ _ =>
    { status := statusOf m
      out := text m.tty.discipline.output
      restored := m.tty.discipline.attributes = Attributes.standard }

-- The whole program. Becoming another program comes before everything else.
def answer (i : Invocation) : Answer :=
  match childExecTarget? (Utf8.encode Launch.childExecFlag) i.arguments with
  | some target => i.become target
  | none =>
    match Request.parse i.words with
    | .error .missingProgram => i.usage 1
    | .error err => i.refusal ("Error: " ++ err.message)
    | .ok .help => i.usage 0
    | .ok .version => i.printing 0 (Utf8.encode Usage.versionText) []
    | .ok (.showKeys allowNonTtys) => i.showKeys allowNonTtys
    | .ok (.run o) => i.run o

end Invocation

end TermBridge
