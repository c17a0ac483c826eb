/-!
# Paths

* `Path`: the names on the way to a file, from the working folder or from the root of the disk.
* `Path.ofText`, `Path.text`: a path as it is written; needless slashes and points are left out.
* `Path.name`, `Path.parent`, `Path.join`: its last name, the folder that holds it, a path below it.
-/

namespace Postprocessor

/-- A path. -/
structure Path where
  /-- The slashes at its start: none for a path from the working folder. -/
  root : String
  /-- The names on the way. -/
  parts : List String
  deriving DecidableEq, Repr, Inhabited

namespace Path

/-- The parts of a text between slashes. -/
def splitSlashes : List Char → List (List Char)
  | [] => [[]]
  | c :: rest =>
    if c == '/' then [] :: splitSlashes rest
    else match splitSlashes rest with
      | part :: parts => (c :: part) :: parts
      | [] => [[c]]

/-- The root of a path: two slashes at the start are kept, one or more than two are one. -/
def rootOf (cs : List Char) : String :=
  match (cs.takeWhile (· == '/')).length with
  | 0 => ""
  | 2 => "//"
  | _ => "/"

/-- The path that a text describes. -/
def ofText (s : String) : Path :=
  let parts := (splitSlashes s.toList).map String.ofList
  ⟨rootOf s.toList, parts.filter fun p => p != "" && p != "."⟩

/-- The path as it is written. -/
def text (p : Path) : String :=
  if p.root == "" && p.parts.isEmpty then "." else p.root ++ "/".intercalate p.parts

/-- The last name of a path, empty if it has none. -/
def name (p : Path) : String := p.parts.getLastD ""

/-- The folder that holds a path.  A path without names is its own. -/
def parent (p : Path) : Path := { p with parts := p.parts.dropLast }

/-- The path `q` from `p` on. -/
def join (p q : Path) : Path := if q.root == "" then ⟨p.root, p.parts ++ q.parts⟩ else q

/-- The path with another last name. -/
def withName (p : Path) (name : String) : Path := { p with parts := p.parts.dropLast ++ [name] }

end Path

end Postprocessor
