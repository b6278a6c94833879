import TermBridge.Environment
import TermBridge.Text.Octets
import TermBridge.Text.Quoted
import TermBridge.Unix.Machine

namespace TermBridge.Spawn

open Unix (Behaviour System)

-- What a session starts programs from: the files, the working directory's path, and the environment
-- that it changes for the program.
structure Site where
  system : System
  workingPath : String := "/"
  env : List (String × String)

def Site.vars (site : Site) : Environment.Vars :=
  fun name => site.env.lookup name

def hasNul (text : String) : Bool :=
  text.toList.contains '\x00'

-- Looks at the file of a path: the program, or what else there is.
inductive Found where
  | program (name : String)
  | directory
  | notExecutable
  | nothing (e : Errno)

def look (site : Site) (path : String) : Found :=
  if hasNul path then .nothing Errno.invalidArgument
  else
    match site.system.files.find site.system.working (Octets.ofText path) with
    | .error e => .nothing e
    | .ok id =>
      match site.system.files.content? id with
      | some (.program name) => .program name
      | some (.directory _ _) => .directory
      | _ => .notExecutable

def unable (name reason : String) : String :=
  "Unable to spawn " ++ name ++ " because" ++ reason

def atPath (site : Site) (path : String) : Except String String :=
  match look site path with
  | .program name => .ok name
  | .directory => .error (unable path " it is a directory")
  | .notExecutable =>
    .error (unable path (" it is not executable (" ++ Errno.accessDenied.text ++ ")"))
  | .nothing e =>
    .error (unable path (" it doesn't exist on the filesystem (" ++ e.text ++ ")"))

-- A name that begins with the working directory or its parent.
def atWorkingPath (site : Site) (name : String) : Except String String :=
  let path := Files.join site.workingPath name
  match look site path with
  | .program name => .ok name
  | .directory => .error (unable path " it is a directory")
  | .notExecutable => .error (unable path " it is not executable")
  | .nothing _ => .error (unable path " it does not exist")

-- Goes through directories, and collects what stands in the way.
def through (site : Site) (name : String) : List String → List String → Except (List String) String
  | reasons, [] => .error reasons
  | reasons, directory :: rest =>
    let path := Files.join (Files.join site.workingPath directory) name
    let path := if name.isEmpty && !path.endsWith "/" then path ++ "/" else path
    match look site path with
    | .program name => .ok name
    | .directory => through site name (reasons ++ [path ++ " exists but is a directory"]) rest
    | .notExecutable =>
      through site name (reasons ++ [path ++ " exists but is not executable"]) rest
    | .nothing _ => through site name reasons rest

def inSearchPath (site : Site) (searchPath : Option String) (name : String) :
    Except String String :=
  let because (reasons : List String) := unable name (":\n" ++ ".\n".intercalate reasons)
  match searchPath with
  | none => .error (because ["Unable to resolve the PATH"])
  | some searchPath =>
    match through site name [] (searchPath.splitOn ":") with
    | .ok program => .ok program
    | .error reasons =>
      .error (because (reasons ++ ["No viable candidates found in PATH " ++ Quoted.encode searchPath]))

def isBelowWorkingPath (name : String) : Bool :=
  match name.splitOn "/" with
  | first :: _ => first = "." || first = ".."
  | [] => false

def find (site : Site) (searchPath : Option String) (name : String) : Except String String :=
  if Files.isAbsolute name then atPath site name
  else if isBelowWorkingPath name then atWorkingPath site name
  else inSearchPath site searchPath name

-- The variable that names the user's shell is never missing.
def withShell (vars : Environment.Vars) : Environment.Vars :=
  match vars "SHELL" with
  | some _ => vars
  | none => Environment.assign vars "SHELL" "/bin/sh"

-- The environment that a program gets, in the order of the names.
def environment (site : Site) (changes : EnvironmentChanges) : List (String × String) :=
  Environment.entries ("SHELL" :: site.env.map (·.1) ++ changes.set.map (·.1))
    (withShell (Environment.apply changes site.vars))

-- A variable as programs see it, in octet text.
def octetEntry (entry : String × String) : String :=
  Octets.ofText (entry.1 ++ "=" ++ entry.2)

-- Starts a command in a session, with the session's changes to the environment.
def start (site : Site) (changes : EnvironmentChanges) (argv : List String) :
    Except SpawnError Behaviour :=
  match argv with
  | [] => .error (.internal "empty command line")
  | name :: _ =>
    let env := environment site changes
    match find site (env.lookup "PATH") name with
    | .error reason => .error (.internal reason)
    | .ok program =>
      if argv.any hasNul || env.any fun entry => hasNul entry.1 || hasNul entry.2 then
        .error (.internal "nul byte found in provided data")
      else .ok (site.system.load program (argv.map Octets.ofText) (env.map octetEntry))

end TermBridge.Spawn
