import ChordChart.Disk
/-! A disk as a value: the files and directories by their names from the root, and the working
directory. A path is walked name by name; each name but the last must be that of a directory. -/
namespace ChordChart

inductive Node where
  | file (content : Midi.Bytes)
  | directory
  deriving DecidableEq, Repr

abbrev Location := List String

structure Tree where
  nodes : List (Location × Node)
  here : Location
  deriving DecidableEq, Repr

namespace Tree

def node? (tree : Tree) (location : Location) : Option Node :=
  if location = [] then some .directory
  else (tree.nodes.find? fun entry => entry.1 == location).map Prod.snd

def set (tree : Tree) (location : Location) (node : Node) : Tree :=
  { tree with nodes := (location, node) :: tree.nodes.filter fun entry => entry.1 ≠ location }

def remove (tree : Tree) (location : Location) : Tree :=
  { tree with nodes := tree.nodes.filter fun entry => entry.1 ≠ location }

def maxName : Nat := 255

def step (tree : Tree) (location : Location) (name : String) : Except FileError Location :=
  match tree.node? location with
  | none => .error .notFound
  | some (.file _) => .error .notADirectory
  | some .directory =>
    if name = "" ∨ name = "." then .ok location
    else if name = ".." then .ok location.dropLast
    else if maxName < name.utf8ByteSize then .error .nameTooLong
    else .ok (location ++ [name])

def walk (tree : Tree) : Location → List String → Except FileError Location
  | location, [] => .ok location
  | location, name :: names =>
    match tree.step location name with
    | .error cause => .error cause
    | .ok next => tree.walk next names

def isAbsolute (path : String) : Bool := path.toList.head? = some '/'

def start (tree : Tree) (path : String) : Location := if isAbsolute path then [] else tree.here

def names (path : String) : List String := (path.toList.splitOnP (· == '/')).map String.ofList

def reach (tree : Tree) (path : String) : Except FileError (Location × Node) :=
  match tree.walk (tree.start path) (names path) with
  | .error cause => .error cause
  | .ok location =>
    match tree.node? location with
    | none => .error .notFound
    | some node => .ok (location, node)

def find (tree : Tree) (path : String) : Except FileError (Location × Node) :=
  match FileError.ofPath? path with
  | some cause => .error cause
  | none => tree.reach path

def textOf (content : Midi.Bytes) : Except FileError String :=
  match String.fromUTF8? ⟨content.toArray⟩ with
  | some text => .ok text
  | none => .error .notText

def readText (tree : Tree) (path : String) : Except FileError String :=
  match tree.find path with
  | .error cause => .error cause
  | .ok (_, .directory) => .error .isADirectory
  | .ok (_, .file content) => textOf content

def target (tree : Tree) (path : String) : Except FileError Location :=
  match FileError.ofPath? path with
  | some cause => .error cause
  | none =>
    let all := names path
    let named := (all.reverse.dropWhile (· = "")).reverse
    let last := if named.length < all.length then "." else named.getLastD "."
    match tree.walk (tree.start path) named.dropLast with
    | .error cause => .error cause
    | .ok parent => tree.step parent last

def write (tree : Tree) (path : String) (content : Midi.Bytes) : Except FileError Tree :=
  match tree.target path with
  | .error cause => .error cause
  | .ok location =>
    if tree.node? location = some .directory then .error .isADirectory
    else .ok (tree.set location (.file content))

def isDirectory (tree : Tree) (path : String) : Bool :=
  match tree.find path with
  | .ok (_, .directory) => true
  | _ => false

def pathOf (location : Location) : String := "/" ++ "/".intercalate location

/-- The path from the root with no dots. A path is followed here name by name, so it can be longer
than one that is used as a whole. -/
def canonical? (tree : Tree) (path : String) : Option String :=
  if path = "" ∨ path.toList.contains '\x00' then none
  else
    match tree.reach path with
    | .ok (location, _) => some (pathOf location)
    | .error _ => none

def absolute (tree : Tree) (path : String) : String :=
  if isAbsolute path then path else pathOf tree.here ++ "/" ++ path

def observe (tree : Tree) (path : String) : Except WatchError Unit :=
  match tree.find (tree.absolute path) with
  | .ok _ => .ok ()
  | .error cause => .error ⟨cause, tree.absolute path⟩

def filesHere (tree : Tree) : List (String × Midi.Bytes) :=
  tree.nodes.filterMap fun entry =>
    match entry.2 with
    | .directory => none
    | .file content =>
      if tree.here.isPrefixOf entry.1 then
        some ("/".intercalate (entry.1.drop tree.here.length), content)
      else none

def addDirectory (tree : Tree) (location : Location) : Tree :=
  (List.range (location.length + 1)).foldl
    (fun tree count =>
      let above := location.take count
      if (tree.node? above).isSome then tree else tree.set above .directory)
    tree

def add (tree : Tree) (name : String) (content : Midi.Bytes) : Tree :=
  let location := tree.here ++ (names name).filter (· ≠ "")
  if name.toList.getLast? = some '/' then tree.addDirectory location
  else (tree.addDirectory location.dropLast).set location (.file content)

def empty (here : Location) : Tree := addDirectory ⟨[], here⟩ here

instance : Disk (StateM Tree) where
  readText path := fun tree => (tree.readText path, tree)
  write path content := fun tree =>
    match tree.write path content with
    | .error cause => (.error cause, tree)
    | .ok written => (.ok (), written)
  isDirectory path := fun tree => (tree.isDirectory path, tree)
  canonical? path := fun tree => (tree.canonical? path, tree)
  observe path := fun tree => (tree.observe path, tree)

end Tree

end ChordChart
