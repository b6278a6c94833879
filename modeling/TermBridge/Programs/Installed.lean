import TermBridge.Programs.Cat
import TermBridge.Programs.Echo
import TermBridge.Programs.Printenv
import TermBridge.Programs.Printf
import TermBridge.Programs.Sleep
import TermBridge.Programs.Stty
import TermBridge.Shell.Start

namespace TermBridge.Installed

open Programs
open Unix (Behaviour)
open Files (Content Device Id)

-- A program that does nothing but end.
def ends (code : Nat) : Program :=
  fun _ _ => return code

def programs : List (String × Program) := [
  ("cat", Cat.run),
  ("dash", Shell.run),
  ("echo", Echo.run),
  ("false", ends 1),
  ("printenv", Printenv.run),
  ("printf", Printf.run),
  ("sleep", Sleep.run),
  ("stty", Stty.run),
  ("true", ends 0)]

-- The exit code of what cannot be run.
def notRunnable : Nat := 126

def load (name : String) (argv environment : List String) : Behaviour :=
  match programs.lookup name with
  | some run => (run argv environment).toBehaviour
  | none => .ended notRunnable

-- The files.

def directories : List String := [
  "/boot", "/dev", "/dev/fd", "/etc", "/home", "/media", "/mnt", "/opt", "/proc", "/root", "/run", "/run/lock",
  "/srv", "/sys", "/tmp", "/usr", "/usr/bin", "/usr/games", "/usr/include", "/usr/lib", "/usr/lib64",
  "/usr/libexec", "/usr/local", "/usr/local/bin", "/usr/local/lib", "/usr/local/sbin",
  "/usr/local/share", "/usr/sbin", "/usr/share", "/usr/src", "/var", "/var/backups", "/var/cache",
  "/var/lib", "/var/local", "/var/log", "/var/mail", "/var/opt", "/var/spool", "/var/tmp"]

def links : List (String × String) := [
  ("/bin", "usr/bin"),
  ("/lib", "usr/lib"),
  ("/lib64", "usr/lib64"),
  ("/sbin", "usr/sbin"),
  ("/usr/bin/sh", "dash"),
  ("/var/lock", "/run/lock"),
  ("/var/run", "/run")]

-- Users with their numbers, and where they are at home.
def users : List (String × Nat × String) := [
  ("root", 0, "/root"),
  ("daemon", 1, "/usr/sbin"),
  ("bin", 2, "/bin"),
  ("sys", 3, "/dev"),
  ("sync", 4, "/bin"),
  ("games", 5, "/usr/games"),
  ("man", 6, "/var/cache/man"),
  ("lp", 7, "/var/spool/lpd"),
  ("mail", 8, "/var/mail"),
  ("news", 9, "/var/spool/news"),
  ("uucp", 10, "/var/spool/uucp"),
  ("proxy", 13, "/bin"),
  ("www-data", 33, "/var/www"),
  ("backup", 34, "/var/backups"),
  ("list", 38, "/var/list"),
  ("irc", 39, "/run/ircd"),
  ("_apt", 42, "/nonexistent"),
  ("nobody", 65534, "/nonexistent")]

def userLine (entry : String × Nat × String) : String :=
  let (name, id, home) := entry
  ":".intercalate [name, "x", id.repr, id.repr, name, home, if id = 0 then "/bin/sh" else "/bin/false"]

def texts : List (String × String) := [
  ("/etc/hostname", "localhost\n"),
  ("/etc/passwd", String.join (users.map fun u => userLine u ++ "\n")),
  ("/etc/shells", "/bin/sh\n/bin/dash\n")]

def devices : List (String × Device) := [
  ("/dev/null", .null),
  ("/dev/zero", .zero),
  ("/dev/full", .full),
  ("/dev/tty", .terminal),
  ("/dev/stdin", .descriptor 0),
  ("/dev/stdout", .descriptor 1),
  ("/dev/stderr", .descriptor 2)] ++
  (List.range 10).map fun n => ("/dev/fd/" ++ n.repr, .descriptor n)

-- Puts a file where nothing is yet.
def place (fs : FileSystem) (path : String) (content : Id → Content) (mode : Nat) : FileSystem :=
  match fs.findParent FileSystem.root path with
  | .ok (directory, name) => (fs.add directory name ⟨content directory, mode⟩).1
  | .error _ => fs

def standardMode : Nat := 0o644

def programMode : Nat := 0o755

def deviceMode : Nat := 0o666

def files : FileSystem :=
  let fs := directories.foldl
    (fun fs path => place fs path (fun parent => .directory parent []) programMode) FileSystem.empty
  let fs := links.foldl (fun fs l => place fs l.1 (fun _ => .link l.2) programMode) fs
  let fs := texts.foldl (fun fs t => place fs t.1 (fun _ => .file t.2.toList) standardMode) fs
  let fs := devices.foldl (fun fs d => place fs d.1 (fun _ => .device d.2) deviceMode) fs
  programs.foldl
    (fun fs p => place fs ("/usr/bin/" ++ p.1) (fun _ => .program p.1) programMode) fs

end TermBridge.Installed
