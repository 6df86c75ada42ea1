/-!
# Socket paths

Where a socket named on the command line lies. A bare name lies in the runtime directory,
as display names do, and everything else is a path as it stands.
-/
namespace FramedWire.SocketPath

/-- The pieces of a path between its slashes. -/
def pieces : List Char → List (List Char)
  | [] => [[]]
  | c :: cs =>
    if c = '/' then [] :: pieces cs
    else
      match pieces cs with
      | [] => [[c]]
      | piece :: rest => (c :: piece) :: rest

def isAbsolute (path : String) : Bool := path.toList.head? == some '/'

/-- A piece that leads somewhere else. -/
def isStep (piece : List Char) : Bool := piece ≠ [] && piece ≠ ['.']

/-- How many steps a relative path takes. A dot counts only at its beginning. -/
def relativeDepth (path : String) : Nat :=
  match pieces path.toList with
  | [] => 0
  | first :: rest => (if first = [] then 0 else 1) + rest.countP isStep

/-- The path of `name` within the directory `dir`. -/
def join (dir name : String) : String :=
  let separator := if dir.toList.getLast?.any (· ≠ '/') then "/" else ""
  dir ++ separator ++ name

/-- A name within the runtime directory, unless it is an absolute path. -/
def resolve (name runtimeDir : String) : String :=
  if isAbsolute name then name else join runtimeDir name

/-- The path of a socket given on the command line. Without a runtime directory a bare name
is a path as well. -/
def ofArgument (path : String) (runtimeDir? : Option String) : String :=
  if isAbsolute path || 1 < relativeDepth path then path
  else (runtimeDir?.map (resolve path)).getD path

end FramedWire.SocketPath
