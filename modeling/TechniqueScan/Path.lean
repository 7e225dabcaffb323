/-!
Paths of a file system with slashes: their components, the last name among them, and joining.
A path is a text; empty components and single dots inside it mean nothing.
-/

namespace TechniqueScan.Path

/-- A component of a path. -/
inductive Component where
  | root
  /-- A dot at the beginning of a relative path. -/
  | here
  | up
  | name (cs : List Char)
  deriving DecidableEq, Repr

/-- The pieces between slashes. -/
def pieces : List Char → List (List Char)
  | [] => [[]]
  | c :: cs =>
    if c = '/' then [] :: pieces cs
    else
      match pieces cs with
      | p :: ps => (c :: p) :: ps
      | [] => [[c]]

/-- Whether a path starts at the root. -/
def isAbsolute (path : String) : Bool := path.toList.head? == some '/'

/-- What a piece means; nothing if it is empty or a dot. -/
def component? (piece : List Char) : Option Component :=
  if piece = [] ∨ piece = ['.'] then none
  else if piece = ['.', '.'] then some .up
  else some (.name piece)

/-- The components of a path. -/
def components (path : String) : List Component :=
  let ps := pieces path.toList
  let start : List Component :=
    if isAbsolute path then [.root] else if ps.head? == some ['.'] then [.here] else []
  start ++ ps.filterMap component?

/-- The text of a component. -/
def Component.text : Component → List Char
  | root => ['/']
  | here => ['.']
  | up => ['.', '.']
  | name cs => cs

/-- A path with these components. -/
def ofComponents : List Component → String
  | [] => ""
  | .root :: rest => "/" ++ ofComponents rest
  | [c] => String.ofList c.text
  | c :: rest => String.ofList c.text ++ "/" ++ ofComponents rest

/-- The paths of what is above the end of a path, nearest first. -/
def ancestors (path : String) : List String :=
  let cs := components path
  ((List.range cs.length).map fun i => ofComponents (cs.take i)).reverse.filter (· ≠ "")

/-- The path of what is directly above the end of a path. -/
def parent (path : String) : String := ofComponents (components path).dropLast

/-- Whether a path means the place where it starts. -/
def isHere (path : String) : Bool := components path == [.here]

/-- The last component, if it is a name. -/
def fileName? (path : String) : Option String :=
  match (components path).getLast? with
  | some (.name cs) => some (String.ofList cs)
  | _ => none

/-- A name split at its last dot; a dot in front does not count. -/
def splitName (name : List Char) : List Char × Option (List Char) :=
  let after := (name.reverse.takeWhile (· ≠ '.')).reverse
  let before := name.take (name.length - after.length - 1)
  if name.all (· ≠ '.') || before.isEmpty then (name, none) else (before, some after)

/-- The text behind the last dot of the file name. -/
def extension? (path : String) : Option String :=
  (fileName? path).bind fun n => (splitName n.toList).2.map String.ofList

/-- The file name without its extension. -/
def fileStem? (path : String) : Option String :=
  (fileName? path).map fun n => String.ofList (splitName n.toList).1

/-- A path below another one; an absolute path stands on its own. -/
def join (base path : String) : String :=
  if isAbsolute path then path
  else if base.isEmpty || base.toList.getLast? == some '/' then base ++ path
  else base ++ "/" ++ path

/-- Whether the extension, in any case of letters, is that of a YAML document. -/
def isYaml (path : String) : Bool :=
  match extension? path with
  | some e => e.toLower = "yaml" || e.toLower = "yml"
  | none => false

/-- The file name by which the outputs of a run on this input are filed. -/
def outputName (path : String) : String := (fileName? path).getD "binary"

end TechniqueScan.Path
