import TermBridge.Text.Utf8
import TermBridge.Toml.Document

namespace TermBridge

structure EnvironmentSettings where
  -- Whether the child's environment loses the variable that names the terminal type.
  clearTerm : Bool := true
  -- Further variables that are copied into the child's environment.
  propagate : List String := []
  deriving DecidableEq, Repr

structure Settings where
  mouse : Bool := false
  logLevel : String := "info"
  environment : EnvironmentSettings := {}
  deriving DecidableEq, Repr

namespace Settings

open Toml (Value Entries)

-- The value of a setting: its default where it is absent, and nothing where it has a wrong type.
def orDefault {α : Type} (default : α) (read : Value → Option α) : Option Value → Option α
  | none => some default
  | some v => read v

def boolean : Value → Option Bool
  | .boolean b => some b
  | _ => none

def string : Value → Option String
  | .string s => some s
  | _ => none

def stringList : Value → Option (List String)
  | .array items => items.mapM string
  | _ => none

def environmentOf (clearTerm propagate : Option Value) : Option EnvironmentSettings := do
  let clearTerm ← orDefault true boolean clearTerm
  let propagate ← orDefault [] stringList propagate
  return { clearTerm := clearTerm, propagate := propagate }

-- A group of settings is a table, or an array with the values in the order of the settings. A date
-- counts as a table without any of the keys. Tables of a repeated header are no values of settings.
def group : Value → Option EnvironmentSettings
  | .table _ entries => environmentOf (Entries.find? entries "clear_term") (Entries.find? entries "propagate")
  | .array items => environmentOf items[0]? items[1]?
  | .date _ => some {}
  | _ => none

def ofEntries (entries : Entries) : Option Settings := do
  let mouse ← orDefault false boolean (entries.find? "mouse")
  let logLevel ← orDefault "info" string (entries.find? "log_level")
  let environment ← orDefault {} group (entries.find? "environment")
  return { mouse := mouse, logLevel := logLevel, environment := environment }

end Settings

inductive SettingsError where
  | unreadable (cause : String)
  | malformed
  deriving DecidableEq, Repr

-- What lies at the path of the settings file.
inductive SettingsFile where
  | absent
  | directory
  | content (bytes : Bytes)
  deriving DecidableEq, Repr

namespace Settings

def ofText (text : String) : Except SettingsError Settings :=
  match (Toml.parse? text).bind ofEntries with
  | some s => .ok s
  | none => .error .malformed

def notText : SettingsError := .unreadable "stream did not contain valid UTF-8"

def ofContent (bytes : Bytes) : Except SettingsError Settings :=
  match Utf8.decode? bytes with
  | some text => ofText text
  | none => .error notText

end Settings

end TermBridge
