import TermBridge.Unix.Files
import TermBridge.Settings
import TermBridge.Text.Octets

namespace TermBridge

namespace Settings

def directoryName : String := ".ptyadapter"

def fileName : String := "config.toml"

-- The first of the two variables that is set.
def home {α : Type} (home userProfile : Option α) : Option α :=
  home.or userProfile

def slash : UInt8 := 47

-- The directory for settings and log in a home directory.
def dataDirectory (home : Bytes) : Bytes :=
  let name := Utf8.encode directoryName
  if home.isEmpty || home.getLast? == some slash then home ++ name else home ++ slash :: name

-- Loads the settings file of a home directory, if it has one.
def load : SettingsFile → Except SettingsError Settings
  | .absent => .ok {}
  | .directory => .error (.unreadable (OsError.text Errno.isDirectory))
  | .content bytes => ofContent bytes

-- Loads the file at a path from a working directory. It has to be there.
def loadPath (files : FileSystem) (working : Files.Id) (path : String) :
    Except SettingsError Settings :=
  if path.toList.contains '\x00' then
    .error (.unreadable "file name contained an unexpected NUL byte")
  else
    match files.find working (Octets.ofText path) with
    | .error e => .error (.unreadable (OsError.text e))
    | .ok id =>
      match files.content? id with
      | some (.directory _ _) => .error (.unreadable (OsError.text Errno.isDirectory))
      | some (.file data) => ofContent (Octets.toBytes (String.ofList data))
      | some (.program _) => .error notText
      | _ => ofContent []

end Settings

-- The text of an error for the file at `path`. What is wrong with a malformed file is not part of it.
def SettingsError.message (path : String) : SettingsError → String
  | .unreadable cause => "Failed to read " ++ path ++ ": " ++ cause
  | .malformed => "Failed to parse " ++ path

end TermBridge
