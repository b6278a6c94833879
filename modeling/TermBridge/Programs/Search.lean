import TermBridge.Programs.Output
import TermBridge.Unix.Files

namespace TermBridge.Search

-- Searched when the environment names no search path.
def standardPath : String := "/bin:/usr/bin"

def isPath (name : String) : Bool :=
  name.toList.contains '/'

-- Errors after which the search goes on with the next directory.
def isMiss (e : Errno) : Bool :=
  e = Errno.noEntry || e = Errno.notDirectory || e = Errno.accessDenied

-- Goes through the directories. A file that may not be executed is remembered, and is the reason given
-- if nothing else is found; `last` is the reason otherwise.
def through (name : String) (argv environment : List String) (denied : Bool) (last : Errno) :
    List String → Sys Errno
  | [] => return if denied then Errno.accessDenied else last
  | directory :: rest => do
    let e : Errno ← Sys.perform (.execute (Files.join directory name) argv environment)
    if isMiss e then through name argv environment (denied || e == Errno.accessDenied) e rest
    else return e

-- Comes back only with the reason why there is no such program.
def execute (searchPath : Option String) (name : String) (argv environment : List String) :
    Sys Errno :=
  if name.isEmpty then return Errno.noEntry
  else if isPath name then Sys.perform (.execute name argv environment)
  else if name.length > Files.maxName then return Errno.nameTooLong
  else
    through name argv environment false Errno.noEntry
      ((searchPath.getD standardPath).splitOn ":")

end TermBridge.Search
