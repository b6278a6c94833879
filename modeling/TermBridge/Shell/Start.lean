import TermBridge.Shell.Evaluation

namespace TermBridge.Shell

namespace Start

-- Variables.

-- What a prompt ends with tells who the user is, who may do anything here.
def prompt : String := "# "

-- The variables that are always known.
def ownVariables : Variables :=
  ⟨[(Sh.separatorsName, some Sh.standardSeparators), ("MAIL", none), ("MAILPATH", none),
    (Sh.searchPathName, some Lookup.standardPath), ("PS1", some prompt), ("PS2", some "> "),
    ("PS4", some "+ "), (Sh.optionIndexName, some "1")].map fun (name, value) =>
      { name := name, value := value, permanent := true }⟩

def takeVariable (entry : String) : Sh Unit := do
  match Sh.splitAssignment entry with
  | (name, some value) => if Word.isName name then Sh.assign name (some value) { exported := true }
  | _ => return ()

-- The path in the environment, if it leads to the working directory.
def knownWorking? : Sh (Option String) := do
  match ← Sh.lookup Sh.workingName with
  | none => return none
  | some path =>
    if !Files.isAbsolute path then return none
    else
      match ← Sh.call (.status path true), ← Sh.call (.status "." true) with
      | .ok there, .ok here => return if there.id = here.id then some path else none
      | _, _ => return none

def takeEnvironment (environment : List String) : Sh Unit := do
  modify fun s => { s with bindings := ownVariables }
  environment.forM takeVariable
  Sh.setTo Sh.separatorsName Sh.standardSeparators
  Sh.setTo Sh.optionIndexName "1"
  Sh.setTo "PPID" (← Sh.call .identity).parent.repr
  Builtins.setWorking (← knownWorking?) none

-- Arguments.

-- What the arguments ask for besides options that stay.
structure Request where
  -- The first argument is a script itself.
  takesScript : Bool := false
  login : Bool := false
  -- The options that have been turned on or off.
  given : List Char := []
  deriving DecidableEq, Repr

def letters (on : Bool) (r : Request) : List Char → List String → Sh (Request × List String)
  | [], args => return (r, args)
  | 'c' :: rest, args => letters on { r with takesScript := true } rest args
  | 'l' :: rest, args => letters on { r with login := true } rest args
  | 'o' :: rest, args => do
    match args with
    | [] => Builtins.showOptions on
    | name :: _ => Builtins.setNamedOption name on
    let given := (args.head?.bind fun name => Builtins.optionTable.lookup name).join.toList
    letters on { r with given := given ++ r.given } rest (args.drop 1)
  | c :: rest, args => do
    Builtins.setOption c on
    letters on { r with given := c :: r.given } rest args

-- Reads options. The fuel is more than the number of arguments.
def request : Nat → Request → List String → Sh (Request × List String)
  | 0, r, args => return (r, args)
  | fuel + 1, r, args => do
    match args with
    | [] => return (r, [])
    | arg :: rest =>
      match arg.toList with
      | ['-'] | ['-', '-'] => return (r, rest)
      | '-' :: cs => do
        let (r, rest) ← letters true r cs rest
        request fuel r rest
      | '+' :: cs => do
        let (r, rest) ← letters false r cs rest
        request fuel r rest
      | _ => return (r, args)

def setOn (option : Char) (on : Bool) : Sh Unit :=
  modify fun s =>
    let others := s.options.filter (· != option)
    { s with options := if on then option :: others else others }

-- Someone types the commands, as far as the shell can see.
def isTypedAt : Sh Bool := do
  if !(← Sh.has 's') then return false
  else return (← Sh.isTerminal Programs.standardInput) && (← Sh.isTerminal Programs.standardOutput)

-- Where commands come from, and whether files of the user are to be run before that.
structure Plan where
  login : Bool
  script : Option String := none
  descriptor : Nat := Programs.standardInput
  deriving DecidableEq, Repr

def setNames (args : List String) : Sh Unit := do
  match args with
  | name :: rest => do
    modify fun s => { s with name := name }
    Builtins.setParameters rest
  | [] => return ()

def readArguments (argv : List String) : Sh Plan := do
  let name := argv.headD "sh"
  modify fun s => { s with name := name }
  let (r, args) ← request (argv.length + 1) { login := name.startsWith "-" } (argv.drop 1)
  if args.isEmpty then
    if r.takesScript then Sh.fail "-c requires an argument"
    setOn 's' true
  if !r.given.contains 'i' then setOn 'i' (← isTypedAt)
  if !r.given.contains 'm' then setOn 'm' (← Sh.isInteractive)
  modify fun s => { s with fromArgument := r.takesScript }
  let plan : Plan := { login := r.login }
  let plan ←
    if r.takesScript then do
      setNames (args.drop 1)
      pure { plan with script := args.head? }
    else if ← Sh.has 's' then do
      Builtins.setParameters args
      pure plan
    else do
      let descriptor ← Run.openScript (args.headD "")
      setNames args
      pure { plan with descriptor := descriptor }
  Sh.applyOptions
  return plan

-- Stages.

-- Whether the shell goes on after something has gone wrong. It does so only for a user.
def goesOn (e : Exit) : Sh Bool := do
  Run.settle e
  let s ← get
  if e = .ended || e = .exit || !s.options.contains 'i' || 0 < s.level then return false
  else
    SimpleCommand.leaveDownTo 0 Sh.limit
    modify fun s => { s with command := none }
    if e = .interrupt then Sh.complain "\n"
    return true

-- Runs a part of what is to be done. Whether there is more to do is the result.
def stage (body : Sh Unit) : Sh Bool := do
  match ← Sh.attempt body with
  | .ok () => return true
  | .error e => goesOn e

-- Goes on where the user can type the next command.
def recover (descriptor : Nat) : Run.Recovery := fun e line => do
  if ← goesOn e then
    let source := Source.ofDescriptor descriptor
    return { source with reader := { source.reader with line := line } }
  else Sh.raise .ended

-- A file that does not have to be there.
def profile (name : String) : Sh Unit := do
  let path ← Source.expandText evaluate.substitute name
  match ← Sh.call (.status path true) with
  | .ok _ =>
    let _ ← evaluate.script (← Run.openScript path)
  | .error _ => return ()

def startup (plan : Plan) : List (Sh Unit) :=
  (if plan.login then [profile "/etc/profile", profile "$HOME/.profile"] else []) ++
    [do
      match ← Sh.lookup "ENV" with
      | some name => if (← Sh.isInteractive) && !name.isEmpty then profile name
      | none => return ()]

-- Runs the script that is an argument. Whether input is to be read after that is the result.
def argument (plan : Plan) : Sh Bool := do
  match plan.script with
  | none => return true
  | some script => do
    let more ← Sh.has 's'
    match ← Sh.attempt (evaluate.text script { last := !more }) with
    | .ok _ => return more
    | .error e => goesOn e

def stages : List (Sh Unit) → Sh Bool
  | [] => return true
  | body :: rest => do
    if ← stage body then stages rest else return false

def session (argv environment : List String) : Sh Unit := do
  let id ← Sh.call .identity
  modify fun s => { s with process := id.process }
  match ← Sh.attempt (do
      Sh.arrange Signals.childEnded
      takeEnvironment environment
      readArguments argv) with
  | .error e => Run.settle e
  | .ok plan =>
    if ← stages (startup plan) then
      if ← argument plan then
        let _ ← Sh.attempt (evaluate.loop true (recover plan.descriptor)
          (Source.ofDescriptor plan.descriptor))
  evaluate.finish

end Start

def run : Programs.Program := fun argv environment => do
  let (_, s) ← (Start.session argv environment).run.run {}
  return s.status

end TermBridge.Shell
