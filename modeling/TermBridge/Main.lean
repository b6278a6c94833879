import TermBridge.Adapter.Invocation
import TermBridge.Programs.Installed

open TermBridge

namespace TermBridge.CommandLine

-- The variables that mean something to the program or to the programs it can start.
def knownVariables : List String :=
  ["PATH", "TERM", "SHELL", "HOME", "USERPROFILE", "LANG", Invocation.logVariable] ++
    Environment.diagnosticNames

def readVariables (names : List String) : IO (List (String × String)) :=
  names.filterMapM fun name => do
    let value ← IO.getEnv name
    return value.map fun value => (name, value)

partial def readAll (stream : IO.FS.Stream) (front : ByteArray) : IO ByteArray := do
  let chunk ← stream.read 65536
  if chunk.isEmpty then return front else readAll stream (front ++ chunk)

-- The settings file of a home directory, as far as it can be read.
def readSettings (home : Option String) : IO (Option SettingsFile) := do
  match home with
  | none => return none
  | some home =>
    try
      let content ← IO.FS.readBinFile (Invocation.settingsPath home)
      return some (.content content.toList)
    catch _ => return some .absent

def invocation (words : List String) : IO Invocation := do
  let vars ← readVariables knownVariables
  let env : Environment.Vars := fun name => vars.lookup name
  let home := Settings.home (env "HOME") (env "USERPROFILE")
  let settings ← readSettings home
  let stdin ← IO.getStdin
  let input := (← readAll stdin .empty).toList
  return {
    arguments := (Invocation.mainTarget :: words).map Utf8.encode
    selfPath := Utf8.encode Invocation.mainTarget
    site := { system := { files := Installed.files, load := Installed.load }, env := vars }
    directories := fun path => if some path = home then settings else none
    console := if ← stdin.isTty then .terminal .standard [input] else .pipes input false }

end TermBridge.CommandLine

def main (words : List String) : IO UInt32 := do
  let answer := (← CommandLine.invocation words).answer
  (← IO.getStdout).write ⟨answer.out.toArray⟩
  (← IO.getStderr).write ⟨answer.err.toArray⟩
  return UInt32.ofNat answer.status.code
