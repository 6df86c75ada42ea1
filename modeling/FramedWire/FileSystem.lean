import FramedWire.Descriptor
import FramedWire.SocketPath
import FramedWire.TransportError

/-!
# File systems

A tree of directories, files, devices and sockets, as far as sockets and the opening of
files depend on it. A location is the list of names that lead to a node from the root; a
path is a text that leads to one, from the root or from the working directory.

Every socket has an identity of its own. Identities are handed out in order, so one that
has been used is never used again.
-/
namespace FramedWire

/-- The names on the way from the root. -/
abbrev Location := List String

inductive Node where
  /-- A socket; only one that somebody listens on can be connected to. -/
  | socket (identity mode : Nat) (listening : Bool)
  | file (mode : Nat)
  | directory (mode : Nat)
  | device (mode : Nat)
  deriving DecidableEq, Repr

namespace Node

def isSocket : Node → Bool
  | .socket .. => true
  | _ => false

def isDirectory : Node → Bool
  | .directory _ => true
  | _ => false

/-- The permissions of a node. -/
def mode : Node → Nat
  | .socket _ mode _ | .file mode | .directory mode | .device mode => mode

end Node

structure FileSystem where
  nodes : List (Location × Node)
  workingDirectory : Location
  /-- No socket has this identity or a larger one. -/
  nextIdentity : Nat := 0

namespace FileSystem

/-- An empty working directory, and the one device that everybody relies on. -/
def empty : FileSystem where
  nodes := [([], .directory 0o755), (["dev"], .directory 0o755),
    (["dev", "null"], .device 0o666), (["tmp"], .directory 0o777),
    (["tmp", "work"], .directory 0o755)]
  workingDirectory := ["tmp", "work"]

def node? (fs : FileSystem) (loc : Location) : Option Node := fs.nodes.lookup loc

def remove (fs : FileSystem) (loc : Location) : FileSystem :=
  { fs with nodes := fs.nodes.filter (·.1 ≠ loc) }

/-- Put a node in the place of whatever is there. -/
def put (fs : FileSystem) (loc : Location) (node : Node) : FileSystem :=
  { fs with nodes := (loc, node) :: (fs.remove loc).nodes }

/-- Put a new socket at a place. -/
def putSocket (fs : FileSystem) (loc : Location) (mode : Nat) (listening : Bool) : FileSystem :=
  { fs.put loc (.socket fs.nextIdentity mode listening) with nextIdentity := fs.nextIdentity + 1 }

@[simp] theorem node?_remove_self (fs : FileSystem) (loc : Location) :
    (fs.remove loc).node? loc = none := by
  simp only [node?, remove, List.lookup_eq_none_iff, List.mem_filter, decide_eq_true_eq,
    bne_iff_ne]
  exact fun _ hentry => Ne.symm hentry.2

theorem lookup_filter_ne {loc other : Location} (h : other ≠ loc)
    (entries : List (Location × Node)) :
    (entries.filter (·.1 ≠ loc)).lookup other = entries.lookup other := by
  induction entries with
  | nil => rfl
  | cons entry entries ih =>
    obtain ⟨key, node⟩ := entry
    by_cases hkey : key = loc
    · have hother : (other == key) = false := by simpa [hkey] using h
      rw [List.filter_cons_of_neg (by simp [hkey]), ih, List.lookup_cons, hother]
    · rw [List.filter_cons_of_pos (by simp [hkey]), List.lookup_cons, List.lookup_cons, ih]

theorem node?_remove_of_ne (fs : FileSystem) {loc other : Location} (h : other ≠ loc) :
    (fs.remove loc).node? other = fs.node? other := lookup_filter_ne h fs.nodes

@[simp] theorem node?_put_self (fs : FileSystem) (loc : Location) (node : Node) :
    (fs.put loc node).node? loc = some node := by simp [node?, put]

theorem node?_put_of_ne (fs : FileSystem) {loc other : Location} (node : Node)
    (h : other ≠ loc) : (fs.put loc node).node? other = fs.node? other := by
  have hother : (other == loc) = false := by simpa using h
  rw [← node?_remove_of_ne fs h]
  simp [node?, put, List.lookup_cons, hother]

/-- The longest name a directory can hold, in bytes. -/
def maxNameLen : Nat := 255

/-- The longest path the system takes, in bytes. -/
def maxPathLen : Nat := 4095

/-- Where a name leads from a directory. -/
def descend (loc : Location) (name : String) : Except IoError Location :=
  if name = "" ∨ name = "." then .ok loc
  else if name = ".." then .ok loc.dropLast
  else if maxNameLen < name.utf8ByteSize then .error (.system 36)
  else .ok (loc ++ [name])

/-- The directory that names lead to, from one directory to the next. -/
def walk (fs : FileSystem) : Location → List String → Except IoError Location
  | loc, [] => .ok loc
  | loc, name :: names => do
    let next ← descend loc name
    match fs.node? next with
    | none => .error (.system 2)
    | some node => if node.isDirectory then fs.walk next names else .error (.system 20)

/-- Where a path leads. -/
structure Target where
  location : Location
  /-- The path ends in a way that only a directory can have. -/
  mustBeDirectory : Bool

/-- Where `path` leads. All of its directories have to exist, and the last name need not. -/
def locate (fs : FileSystem) (path : String) : Except IoError Target := do
  if path.contains '\x00' then
    .error (.described .invalidInput "file name contained an unexpected NUL byte")
  else if path = "" then .error (.system 2)
  else if maxPathLen < path.utf8ByteSize then .error (.system 36)
  else
    let names := (SocketPath.pieces path.toList).map String.ofList
    let trailing := names.reverse.takeWhile (· = "")
    let named := names.reverse.dropWhile (· = "")
    let start := if SocketPath.isAbsolute path then [] else fs.workingDirectory
    let dir ← fs.walk start named.tail.reverse
    let last := named.head?.getD ""
    let loc ← descend dir last
    .ok ⟨loc, !trailing.isEmpty || last = "." || last = ".."⟩

/-- The node that `path` leads to, and its place. -/
def find (fs : FileSystem) (path : String) : Except IoError (Location × Node) := do
  let target ← fs.locate path
  match fs.node? target.location with
  | none => .error (.system 2)
  | some node =>
    if target.mustBeDirectory && !node.isDirectory then .error (.system 20)
    else .ok (target.location, node)

/-- Where a node can be made: `path` leads to a place where nothing is. -/
def vacancy (fs : FileSystem) (path : String) : Except IoError Location := do
  let target ← fs.locate path
  match fs.node? target.location with
  | some _ => .error (.system 17)
  | none => if target.mustBeDirectory then .error (.system 2) else .ok target.location

/-- Whether the node at `path` can be opened for reading. A socket cannot. -/
def openForReading (fs : FileSystem) (path : String) : Except IoError Unit := do
  let (_, node) ← fs.find path
  if node.isSocket then .error (.system 6) else .ok ()

/-- Open the file at `path`. Descriptors are numbered in order. -/
def openFile (fs : FileSystem) (path : String) (next : Nat) : Step Nat IoError Descriptor :=
  match fs.openForReading path with
  | .error e => .fail e next
  | .ok () => .done ⟨Int32.ofNat next⟩ (next + 1)

/-- Make a regular file, or empty the one that is there. -/
def createFile (fs : FileSystem) (path : String) : Except IoError FileSystem := do
  let target ← fs.locate path
  match fs.node? target.location with
  | some (.directory _) => .error (.system 21)
  | some (.socket ..) => .error (.system 6)
  | some _ => if target.mustBeDirectory then .error (.system 20) else .ok fs
  | none =>
    if target.mustBeDirectory then .error (.system 21)
    else .ok (fs.put target.location (.file 0o644))

def createDirectory (fs : FileSystem) (path : String) : Except IoError FileSystem := do
  let target ← fs.locate path
  match fs.node? target.location with
  | some _ => .error (.system 17)
  | none => .ok (fs.put target.location (.directory 0o755))

/-- Remove what `path` leads to, unless it is a directory. -/
def unlink (fs : FileSystem) (path : String) : Except IoError FileSystem := do
  let (loc, node) ← fs.find path
  if node.isDirectory then .error (.system 21) else .ok (fs.remove loc)

end FileSystem

end FramedWire
