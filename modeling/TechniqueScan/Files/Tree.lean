import TechniqueScan.Files.Basic

/-!
A tree of files as a value. A path is walked name by name; every place on the way has to be a
directory, also where the path stays at a place or ends in a slash.
-/

namespace TechniqueScan

/-- What a tree has at a place. -/
inductive FileTree.Entry where
  | directory
  | file (content : ByteArray)

/-- The names on the way from the root to a place. -/
abbrev FileTree.Place : Type := List String

/-- A tree of files. -/
structure FileTree where
  /-- The place that relative paths start from. -/
  here : FileTree.Place := []
  /-- Everything but the root. -/
  entries : List (FileTree.Place × FileTree.Entry) := []

namespace FileTree

/-- What is at a place; at the root there is always a directory. -/
def entryAt? (t : FileTree) (p : Place) : Option Entry :=
  if p = [] then some .directory else t.entries.lookup p

def Entry.kind : Entry → EntryKind
  | directory => .directory
  | file _ => .file

/-- The place that one piece of a path leads to from another place. -/
def step (t : FileTree) (p : Place) (piece : List Char) : Except SystemError Place :=
  match t.entryAt? p with
  | none => .error .notFound
  | some (.file _) => .error .notDirectory
  | some .directory =>
    match Path.component? piece with
    | some (.name name) =>
      let next := p ++ [String.ofList name]
      if (t.entryAt? next).isSome then .ok next else .error .notFound
    | some .up => .ok p.dropLast
    | _ => .ok p

/-- Where the walk along a path begins. -/
def start (t : FileTree) (path : String) : Place := if Path.isAbsolute path then [] else t.here

/-- The place that a path leads to. -/
def find (t : FileTree) (path : String) : Except SystemError Place :=
  if path = "" then .error .notFound
  else (Path.pieces path.toList).foldlM t.step (t.start path)

/-- What a path leads to. -/
def entry (t : FileTree) (path : String) : Except SystemError Entry := do
  match t.entryAt? (← t.find path) with
  | some e => .ok e
  | none => .error .notFound

/-- The path of a place. -/
def pathOf (p : Place) : String := "/" ++ "/".intercalate p

/-- The content of a file. -/
def read (t : FileTree) (path : String) : Except SystemError ByteArray := do
  match ← t.entry path with
  | .file content => .ok content
  | .directory => .error .isDirectory

/-- The names in a directory. -/
def names (t : FileTree) (path : String) : Except SystemError (List String) := do
  let p ← t.find path
  match t.entryAt? p with
  | some .directory =>
    .ok (t.entries.filterMap fun (q, _) => if q.dropLast = p then q.getLast? else none)
  | _ => .error .notDirectory

/-- The tree with an entry at a place. -/
def insert (t : FileTree) (p : Place) (e : Entry) : FileTree :=
  if (t.entries.lookup p).isSome then
    { t with entries := t.entries.map fun (q, old) => (q, if q = p then e else old) }
  else { t with entries := t.entries ++ [(p, e)] }

/-- A path that ends in a name: the place before the name, the name, and whether slashes follow. -/
def target (t : FileTree) (path : String) : Except SystemError (Option (Place × String × Bool)) :=
  let reversed := (Path.pieces path.toList).reverse
  match reversed.dropWhile (· = []) with
  | [] => if path = "" then .error .notFound else .ok none
  | last :: before => do
    let p ← before.reverse.foldlM t.step (t.start path)
    match t.entryAt? p, Path.component? last with
    | some .directory, some (.name name) =>
      .ok (some (p, String.ofList name, reversed.head? == some []))
    | some .directory, _ => .ok none
    | some (.file _), _ => .error .notDirectory
    | none, _ => .error .notFound

/-- The tree with one more directory. -/
def makeDirectory (t : FileTree) (path : String) : Except SystemError FileTree := do
  match ← t.target path with
  | none => .error .alreadyThere
  | some (p, name, _) =>
    if (t.entryAt? (p ++ [name])).isSome then .error .alreadyThere
    else .ok (t.insert (p ++ [name]) .directory)

/-- The tree with a file of this content. -/
def write (t : FileTree) (path : String) (content : ByteArray) : Except SystemError FileTree := do
  match ← t.target path with
  | none => .error .isDirectory
  | some (p, name, slashed) =>
    match t.entryAt? (p ++ [name]), slashed with
    | some .directory, _ | _, true => .error .isDirectory
    | _, false => .ok (t.insert (p ++ [name]) (.file content))

/-- Goes on with what an operation leaves; if it fails, with what was there before. -/
def update (f : FileTree → Except SystemError FileTree) : StateM FileTree (Except SystemError Unit) :=
  fun t => match f t with
    | .ok t => (.ok (), t)
    | .error e => (.error e, t)

instance : Files (StateM FileTree) where
  workingDirectory := do return pathOf (← get).here
  resolve? path := do return ((← get).find path).toOption.map pathOf
  kind? path := do return ((← get).entry path).toOption.map Entry.kind
  read path := do return (← get).read path
  names path := do return (← get).names path
  makeDirectory path := update fun t => t.makeDirectory path
  write path content := update fun t => t.write path content

end FileTree

end TechniqueScan
