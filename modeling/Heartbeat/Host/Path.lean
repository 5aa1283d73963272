/-!
Paths of files: joining them, and what they name. Repeated slashes, a slash at the end and dots in
the middle do not change what a path names.
-/

namespace Heartbeat.Path

def segments : List Char → List (List Char)
  | [] => [[]]
  | c :: text =>
      if c = '/' then [] :: segments text
      else
        match segments text with
        | [] => [[c]]
        | segment :: rest => (c :: segment) :: rest

def isAbsolute (path : String) : Bool :=
  path.toList.head? = some '/'

/-- A path starts at the root, which a slash stands for, or where it is used. A dot counts only at
the start. -/
def components (path : String) : List String :=
  let segments := segments path.toList
  let names := segments.filter fun segment => segment ≠ [] ∧ segment ≠ ['.']
  let start :=
    if isAbsolute path then [['/']] else if segments.head? = some ['.'] then [['.']] else []
  (start ++ names).map String.ofList

def join (base path : String) : String :=
  if isAbsolute path then path
  else if base.toList.getLast?.all (· = '/') then base ++ path
  else base ++ "/" ++ path

example : components "a//b/./c/" = ["a", "b", "c"] := by decide +kernel

example : components "./a" = [".", "a"] := by decide +kernel

example : join "/run" "a" = "/run/a" := by decide +kernel

example : join "" "a" = "a" := by decide +kernel

end Heartbeat.Path
