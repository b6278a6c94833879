import TermBridge.Errno

namespace TermBridge

namespace Files

-- Files are known by number. The root has number zero.
abbrev Id := Nat

inductive Device where
  | null
  | zero
  | full
  -- The terminal of the session that a process belongs to.
  | terminal
  -- What the process has open under a number.
  | descriptor (n : Nat)
  deriving DecidableEq, Repr

inductive Content where
  | file (data : List Char)
  | program (name : String)
  | directory (parent : Id) (entries : List (String × Id))
  | device (d : Device)
  | link (target : String)
  deriving DecidableEq, Repr

inductive Kind where
  | regular
  | directory
  | device
  | link
  | pipe
  deriving DecidableEq, Repr

-- The permissions are nine bits: three for the owner, three for the group, and three for others.
structure Node where
  content : Content
  mode : Nat
  deriving DecidableEq, Repr

def Content.kind : Content → Kind
  | .file _ | .program _ => .regular
  | .directory _ _ => .directory
  | .device _ => .device
  | .link _ => .link

def Content.size : Content → Nat
  | .file data => data.length
  | .program name => name.length + 1
  | .directory _ _ => 4096
  | .device _ => 0
  | .link target => target.length

def maxName : Nat := 255

def maxPath : Nat := 4095

def maxLinks : Nat := 40

def isAbsolute (path : String) : Bool :=
  path.toList.head? == some '/'

-- Joins a path to a directory as the system's tools do: an absolute path replaces it.
def join (directory path : String) : String :=
  if isAbsolute path || directory.isEmpty then path
  else if directory.endsWith "/" then directory ++ path
  else directory ++ "/" ++ path

def parts (path : String) : List String :=
  path.splitOn "/"

end Files

open Files

structure FileSystem where
  nodes : Array Node
  deriving Repr

namespace FileSystem

def root : Id := 0

def content? (fs : FileSystem) (id : Id) : Option Content :=
  (fs.nodes[id]?).map (·.content)

-- One step down from a directory.
def child? (fs : FileSystem) (directory : Id) (name : String) : Except Errno (Option Id) :=
  match fs.content? directory with
  | some (.directory parent entries) =>
    if name = "" ∨ name = "." then .ok (some directory)
    else if name = ".." then .ok (some parent)
    else if name.length > maxName then .error Errno.nameTooLong
    else .ok (entries.lookup name)
  | _ => .error Errno.notDirectory

-- Follows the parts of a path. Links on the way are followed, and one at the end if `follow`. The fuel
-- is more than the parts that so many links can have.
def walk (fs : FileSystem) (follow : Bool) : Nat → Nat → Id → List String → Except Errno Id
  | 0, _, _, _ => .error Errno.tooManyLinks
  | _ + 1, _, id, [] => .ok id
  | fuel + 1, links, id, part :: rest =>
    match fs.child? id part with
    | .error e => .error e
    | .ok none => .error Errno.noEntry
    | .ok (some next) =>
      match fs.content? next with
      | some (.link target) =>
        if rest.isEmpty && !follow then .ok next
        else if links = 0 then .error Errno.tooManyLinks
        else
          walk fs follow fuel (links - 1) (if isAbsolute target then root else id)
            (parts target ++ rest)
      | _ => walk fs follow fuel links next rest

def walkFuel : Nat := 200000

def lookUp (fs : FileSystem) (follow : Bool) (working : Id) (path : String) : Except Errno Id :=
  if path.isEmpty then .error Errno.noEntry
  else if path.length > maxPath then .error Errno.nameTooLong
  else walk fs follow walkFuel maxLinks (if isAbsolute path then root else working) (parts path)

def find (fs : FileSystem) (working : Id) (path : String) : Except Errno Id :=
  fs.lookUp true working path

-- The directory that a path's last part is in, and that part.
def findParent (fs : FileSystem) (working : Id) (path : String) : Except Errno (Id × String) :=
  match (parts path).reverse with
  | name :: front =>
    let front := front.reverse
    let start := if isAbsolute path then root else working
    (walk fs true walkFuel maxLinks start front).map fun id => (id, name)
  | [] => .error Errno.noEntry

-- What executing a file gives: the program that it is.
def execute (fs : FileSystem) (working : Id) (path : String) : Except Errno String :=
  match fs.find working path with
  | .error e => .error e
  | .ok id =>
    match fs.content? id with
    | some (.program name) => .ok name
    | _ => .error Errno.accessDenied

def setContent (fs : FileSystem) (id : Id) (content : Content) : FileSystem :=
  match fs.nodes[id]? with
  | some node => ⟨fs.nodes.setIfInBounds id { node with content := content }⟩
  | none => fs

def add (fs : FileSystem) (directory : Id) (name : String) (node : Node) : FileSystem × Id :=
  let id := fs.nodes.size
  match fs.content? directory with
  | some (.directory parent entries) =>
    (({ fs with nodes := fs.nodes.push node }).setContent directory
      (.directory parent (entries ++ [(name, id)])), id)
  | _ => (fs, directory)

def addDirectory (fs : FileSystem) (directory : Id) (name : String) : FileSystem × Id :=
  fs.add directory name ⟨.directory directory [], 0o755⟩

-- A file system with a root and nothing else.
def empty : FileSystem :=
  ⟨#[⟨.directory root [], 0o755⟩]⟩

-- Puts text into a file's data at a position. A gap in front of it is filled with zeros.
def overwrite (data : List Char) (position : Nat) (text : List Char) : List Char :=
  let gap := List.replicate (position - data.length) '\x00'
  data.take position ++ gap ++ text ++ data.drop (position + text.length)

def size (fs : FileSystem) (id : Id) : Nat :=
  match fs.content? id with
  | some c => c.size
  | none => 0

def kind (fs : FileSystem) (id : Id) : Kind :=
  match fs.content? id with
  | some c => c.kind
  | none => .regular

def mode (fs : FileSystem) (id : Id) : Nat :=
  match fs.nodes[id]? with
  | some node => node.mode
  | none => 0

-- The names in a directory, without those of the directory itself and its parent.
def entries (fs : FileSystem) (id : Id) : Except Errno (List String) :=
  match fs.content? id with
  | some (.directory _ entries) => .ok (entries.map (·.1))
  | _ => .error Errno.notDirectory

-- The path of a directory, found by going up. The fuel bounds its depth.
def pathFrom (fs : FileSystem) : Nat → Id → String → String
  | 0, _, path => path
  | fuel + 1, id, path =>
    if id = root then if path.isEmpty then "/" else path
    else
      match fs.content? id with
      | some (.directory parent _) =>
        match fs.content? parent with
        | some (.directory _ entries) =>
          match entries.find? (·.2 == id) with
          | some (name, _) => pathFrom fs fuel parent ("/" ++ name ++ path)
          | none => path
        | _ => path
      | _ => path

def path (fs : FileSystem) (id : Id) : String :=
  fs.pathFrom maxPath id ""

end FileSystem

end TermBridge
