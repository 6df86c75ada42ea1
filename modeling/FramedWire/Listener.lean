import FramedWire.FileSystem
import FramedWire.Socket

/-!
# Listening sockets

A socket bound to a path. Binding replaces a socket that is already there and nothing else.
Dropping the listener removes its path only while the very socket it made is still there:
it compares identities, so whatever has taken the path over stays.
-/
namespace FramedWire

structure Listener where
  path : String
  /-- The identity of the socket that was made for it. -/
  identity : Nat
  deriving DecidableEq, Repr

namespace Listener

/-- Who may use a new socket: its owner alone. -/
def defaultMode : Nat := 0o600

/-- The longest path of a socket, in bytes. -/
def maxPathLen : Nat := 107

def checkPath (path : String) : Except TransportError Unit :=
  if maxPathLen < path.utf8ByteSize then
    .error (.pathTooLong path path.utf8ByteSize maxPathLen)
  else .ok ()

/-- Make room for a socket at `path`: a socket that is there is removed. -/
def clear (path : String) (fs : FileSystem) : Except IoError FileSystem :=
  match fs.find path with
  | .error e => if e.kind = .notFound then .ok fs else .error e
  | .ok (loc, node) =>
    if node.isSocket then .ok (fs.remove loc)
    else .error (.described .alreadyExists "existing path is not a unix socket")

/-- Bind a new socket with permissions `mode` to `path`. -/
def bind (path : String) (mode : Nat) (fs : FileSystem) :
    Step FileSystem TransportError Listener :=
  match checkPath path with
  | .error e => .fail e fs
  | .ok () =>
    match clear path fs with
    | .error e => .fail (.bind path e) fs
    | .ok fs =>
      match fs.vacancy path with
      | .error e => .fail (.bind path e) fs
      | .ok loc => .done ⟨path, fs.nextIdentity⟩ (fs.putSocket loc (mode % 0o10000) true)

/-- The place of the listener's socket, if it is still at the listener's path. -/
def place? (l : Listener) (fs : FileSystem) : Option Location :=
  match fs.find l.path with
  | .ok (loc, .socket identity _ _) => if identity = l.identity then some loc else none
  | _ => none

/-- Give up a listener. -/
def drop (l : Listener) (fs : FileSystem) : FileSystem :=
  match l.place? fs with
  | some loc => fs.remove loc
  | none => fs

/-- Reach the listener at `path`. -/
def reach (path : String) (fs : FileSystem) : Except IoError SocketPair :=
  if path.contains '\x00' then
    .error (.described .invalidInput "paths must not contain interior null bytes")
  else if maxPathLen < path.utf8ByteSize then
    .error (.described .invalidInput "path must be shorter than SUN_LEN")
  else if path = "" then .error (.system 22)
  else
    match fs.find path with
    | .error e => .error e
    | .ok (_, .socket _ _ true) => .ok {}
    | .ok _ => .error (.system 111)

/-- Connect to the listener at `path`. The client has the left end of the connection. -/
def connect (path : String) (fs : FileSystem) : Except TransportError SocketPair :=
  match checkPath path with
  | .error e => .error e
  | .ok () => (reach path fs).mapError (.connect path)

/-- Connect as a polled stream, which has no limit of its own on the length of the path. -/
def connectPolled (path : String) (fs : FileSystem) : Except TransportError SocketPair :=
  (reach path fs).mapError (.connect path)

end Listener

end FramedWire
