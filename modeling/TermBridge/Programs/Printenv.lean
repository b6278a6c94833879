import TermBridge.Programs.Arguments
import TermBridge.Programs.Output

namespace TermBridge.Programs.Printenv

def switches : List Switch := [⟨'0', "null", false⟩]

-- The values that entries give to a name, which is what stands in front of an equals sign. Names with
-- such a sign have no value.
def values (environment : List String) (name : String) : List String :=
  let front := (name ++ "=").toList
  if name.isEmpty || name.toList.contains '=' then []
  else
    (environment.filter fun entry => front.isPrefixOf entry.toList).map fun entry =>
      String.ofList (entry.toList.drop front.length)

def run : Program := fun argv environment => do
  let name := argv.headD "printenv"
  match Arguments.read? switches false (argv.drop 1) with
  | .error err => fail 2 (err.complaint name)
  | .ok a =>
    let ending := if a.has '0' then "\x00" else "\n"
    let line (text : String) : Print := .out (text ++ ending)
    if a.operands.isEmpty then printAll name 0 (environment.map line)
    else
      let found := a.operands.map (values environment)
      printAll name (if found.any List.isEmpty then 1 else 0) (found.flatten.map line)

end TermBridge.Programs.Printenv
