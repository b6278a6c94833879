import TermBridge.Launch
import TermBridge.Programs.Search
import TermBridge.Session.Spawn

namespace TermBridge.ChildExec

open Unix (Behaviour)

def failureText (e : Errno) : String :=
  "error: exec failed: " ++ OsError.text e ++ "\n"

-- What an environment in octet text gives to a name.
def valueIn (environment : List String) (name : String) : Option String :=
  let front := (name ++ "=").toList
  (environment.find? fun entry => front.isPrefixOf entry.toList).map fun entry =>
    String.ofList (entry.toList.drop front.length)

-- Becomes the program that the first word names, or says why that failed. All words are octet text.
def become (environment words : List String) : Sys Nat := do
  match words with
  | [] => return 1
  | name :: _ =>
    let e ← Search.execute (valueIn environment "PATH") name words environment
    Programs.fail 1 (failureText e)

-- The second instance with its arguments, the name it was started under first.
def secondInstance (environment argv : List String) : Sys Nat :=
  become environment ((childExecTarget? Launch.childExecFlag argv).getD [])

-- How a session starts the second instance.
def startIn (site : Spawn.Site) (changes : EnvironmentChanges) (argv : List String) :
    Except SpawnError Behaviour :=
  .ok (secondInstance ((Spawn.environment site changes).map Spawn.octetEntry)
    (argv.map Octets.ofText)).toBehaviour

end TermBridge.ChildExec
