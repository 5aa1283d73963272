import Heartbeat.Bytes
import Heartbeat.Host.Path

/-!
A tree of files as a program finds it: directories, plain files and sockets, named by the way to
them from the root.
-/

namespace Heartbeat

/-- A socket stays in the tree after its listener has gone. A locked file is a plain one that may
be neither read nor written. -/
inductive FileNode where
  | directory
  | plain (bytes : Bytes)
  | locked
  | socket (listening : Bool)
deriving DecidableEq

/-- Paths that do not start at the root start at `here`. -/
structure Files where
  here : List String := []
  nodes : List (List String × FileNode) := []
deriving DecidableEq

/-- What is found at a path. The way is blocked by something that is no directory. -/
inductive Lookup where
  | found (node : FileNode)
  | missing
  | blocked
deriving DecidableEq

namespace Files

def node? (files : Files) (way : List String) : Option FileNode :=
  if way = [] then some .directory
  else (files.nodes.find? (·.1 = way)).map (·.2)

/-- Two dots lead back by one directory. -/
def follow (way : List String) : List String → List String
  | [] => way
  | ".." :: names => follow way.dropLast names
  | name :: names => follow (way ++ [name]) names

/-- The names on the way from the root to what a path names, with its dots. -/
def trail (files : Files) (path : String) : List String :=
  match Path.components path with
  | "/" :: names => names
  | "." :: names => files.here ++ names
  | names => files.here ++ names

def way (files : Files) (path : String) : List String :=
  follow [] (files.trail path)

/-- Every name but the last has to be that of a directory, also before two dots. -/
def walk (files : Files) (done : List String) : List String → Lookup
  | [] =>
      match files.node? done with
      | some node => .found node
      | none => .missing
  | name :: names =>
      match files.node? done with
      | none => .missing
      | some .directory => walk files (follow done [name]) names
      | some _ => .blocked

/-- A path that ends in a slash, or in a slash and a dot, can only name a directory. -/
def namesDirectory (path : String) : Bool :=
  match path.toList.reverse with
  | '/' :: _ => true
  | '.' :: '/' :: _ => true
  | _ => false

def lookup (files : Files) (path : String) : Lookup :=
  if path = "" then .missing
  else
    match files.walk [] (files.trail path) with
    | .found node =>
        if namesDirectory path ∧ node ≠ .directory then .blocked else .found node
    | result => result

def isDirectory (files : Files) (path : String) : Bool :=
  files.lookup path = .found .directory

def put (files : Files) (way : List String) (node : FileNode) : Files :=
  { files with nodes := (way, node) :: files.nodes.filter (·.1 ≠ way) }

def makeWay (files : Files) (done : List String) : List String → Option Files
  | [] =>
      match files.node? done with
      | none => some (files.put done .directory)
      | some .directory => some files
      | some _ => none
  | name :: names =>
      match files.node? done with
      | none => makeWay (files.put done .directory) (done ++ [name]) names
      | some .directory => makeWay files (done ++ [name]) names
      | some _ => none

def makeDirectories (files : Files) (path : String) : Option Files :=
  if path = "" then some files else files.makeWay [] (files.way path)

/-- Adds bytes at the end of a plain file, which is made if it is missing. Directories on the way
are made as well. -/
def append (files : Files) (path : String) (bytes : Bytes) : Option Files := do
  let way := files.way path
  let files ← files.makeWay [] way.dropLast
  match files.node? way with
  | none => some (files.put way (.plain bytes))
  | some (.plain old) => some (files.put way (.plain (old ++ bytes)))
  | some _ => none

end Files

end Heartbeat
