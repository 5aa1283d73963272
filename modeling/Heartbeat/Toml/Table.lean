import Heartbeat.Toml.Value

/-!
Filling tables. A name is given a value only once; a table is given a header only once; dotted keys
add only to tables that dotted keys have made. The last of an array of tables stands for it.
-/

namespace Heartbeat.Toml

structure Path where
  parents : List String
  name : String
deriving DecidableEq

structure Pair where
  path : Path
  value : Value

namespace TableKind

/-- What dotted keys may lead through. -/
def isOpen : TableKind → Bool
  | .implied => true
  | .dotted => true
  | _ => false

/-- What headers may lead through. -/
def isStandard : TableKind → Bool
  | .inline => false
  | _ => true

end TableKind

def onLast (change : Members → Option Members) :
    List Members → Option (List Members)
  | [] => none
  | [table] => (change table).map ([·])
  | table :: tables => (onLast change tables).map (table :: ·)

/-- Changes the table that a path leads to. Tables that are missing on the way are made, of the kind
`made`; a table that is there must be of a kind that may be entered. -/
def descend (made : TableKind) (enters : TableKind → Bool)
    (change : TableKind → Members → Option Members) :
    List String → TableKind → Members → Option Members
  | [], kind, members => change kind members
  | name :: path, _, members =>
      match member? name members with
      | none =>
          (descend made enters change path made []).map fun inner =>
            members ++ [(name, .table made inner)]
      | some (.table kind inner) =>
          if enters kind then
            (descend made enters change path kind inner).map fun inner =>
              replaceMember name (.table kind inner) members
          else none
      | some (.tables items) =>
          (onLast (descend made enters change path .headed) items).map fun items =>
            replaceMember name (.tables items) members
      | some _ => none

/-- Gives a value to a new name. A table at the end of a dotted key has to be one that dotted keys
have made, and others are given values only by plain names. -/
def addMember (dotted : Bool) (name : String) (value : Value) (kind : TableKind)
    (members : Members) : Option Members :=
  if (kind = .dotted) ≠ dotted then none
  else
    match member? name members with
    | some _ => none
    | none => some (members ++ [(name, value)])

def addPair (kind : TableKind) (members : Members) (pair : Pair) : Option Members :=
  descend .dotted TableKind.isOpen (addMember (pair.path.parents ≠ []) pair.path.name pair.value)
    pair.path.parents kind members

def addPairs (kind : TableKind) (members : Members) (pairs : List Pair) : Option Members :=
  pairs.foldlM (addPair kind) members

inductive Heading where
  | table (path : Path)
  | array (path : Path)
deriving DecidableEq

def Heading.path : Heading → Path
  | .table path => path
  | .array path => path

structure Section where
  heading : Heading
  pairs : List Pair

/-- A table whose header comes after those of tables within it keeps those, and moves to the end. -/
def addTable (name : String) (pairs : List Pair) (members : Members) : Option Members :=
  match member? name members with
  | none =>
      (addPairs .headed [] pairs).map fun table => members ++ [(name, .table .headed table)]
  | some (.table .implied inner) =>
      (addPairs .headed inner pairs).map fun table =>
        eraseMember name members ++ [(name, .table .headed table)]
  | some _ => none

def addElement (name : String) (pairs : List Pair) (members : Members) : Option Members :=
  match member? name members with
  | none => (addPairs .headed [] pairs).map fun table => members ++ [(name, .tables [table])]
  | some (.tables items) =>
      (addPairs .headed [] pairs).map fun table =>
        replaceMember name (.tables (items ++ [table])) members
  | some _ => none

def addSection (root : Members) (part : Section) : Option Members :=
  let change :=
    match part.heading with
    | .table path => addTable path.name part.pairs
    | .array path => addElement path.name part.pairs
  descend .implied TableKind.isStandard (fun _ => change) part.heading.path.parents .headed root

/-- The table that a document stands for: the pairs before its first heading, and its sections. -/
def ofSections? (pairs : List Pair) (sections : List Section) : Option Members := do
  let root ← addPairs .headed [] pairs
  sections.foldlM addSection root

def inlineTable? (pairs : List Pair) : Option Value :=
  (addPairs .inline [] pairs).map (.table .inline)

end Heartbeat.Toml
