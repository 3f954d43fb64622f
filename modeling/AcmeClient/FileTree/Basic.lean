import AcmeClient.Assoc
import AcmeClient.Bytes
import AcmeClient.Calendar
import AcmeClient.FileTree.Location

namespace AcmeClient

inductive Node where
  | directory
  | file (mode : Nat) (content : Bytes)
deriving DecidableEq, Repr

/-- One step that a file tree carries out as a whole or not at all. -/
inductive Action where
  | makeDirectory (path : Path)
  | create (path : Path)
  | write (path : Path) (content : Bytes)
  | setMode (path : Path) (mode : Nat)
  | rename (source target : Path)
  | remove (path : Path)
  | read (path : Path)
  | look (path : Path)
deriving DecidableEq, Repr

inductive FileError where
  | notFound
  | notDirectory
  | isDirectory
  | alreadyThere
  | longName
  | refused (reason : String)
deriving DecidableEq, Repr

def FileError.message : FileError → String
  | .notFound => "there is no such file or directory"
  | .notDirectory => "a file stands where a directory is needed"
  | .isDirectory => "a directory stands there"
  | .alreadyThere => "something stands there already"
  | .longName => "the file name is too long"
  | .refused reason => reason

/-- Each path stands once. A step may also be refused for reasons that the tree does not show, such as
a lack of room or permission. -/
structure FileTree where
  nodes : List (Path × Node)
  refusal : Action → Option String

namespace FileTree

def nameLimit : Nat := 255

def privateMode : Nat := 0o600

def publicMode : Nat := 0o644

def empty : FileTree := ⟨[], fun _ => none⟩

/-- What stands at a path. The root is a directory. -/
def find? (tree : FileTree) : Path → Option Node
  | [] => some .directory
  | path => Assoc.find? path tree.nodes

def put (tree : FileTree) (path : Path) (node : Node) : FileTree :=
  { tree with nodes := Assoc.insert path node tree.nodes }

def erase (tree : FileTree) (path : Path) : FileTree :=
  { tree with nodes := tree.nodes.filter fun entry => entry.1 != path }

def isTooLong (path : Path) : Bool := nameLimit < (path.getLast?.getD "").utf8ByteSize

/-- A directory must be there. -/
def expectDirectory (tree : FileTree) (path : Path) : Except FileError Unit :=
  match tree.find? path with
  | some .directory => .ok ()
  | some (.file ..) => .error .notDirectory
  | none => .error (if isTooLong path then .longName else .notFound)

def reach (tree : FileTree) : List Path → Except FileError Unit
  | [] => .ok ()
  | path :: rest => do
    tree.expectDirectory path
    tree.reach rest

/-- A new name must fit, and the directory that it goes into must be there. -/
def expectRoom (tree : FileTree) (path : Path) : Except FileError Unit := do
  tree.expectDirectory path.dropLast
  if isTooLong path then throw .longName

/-- What a step that no outer reason refuses does. A file is created empty and private, and is renamed
over another file but not over a directory. -/
def attempt (tree : FileTree) : Action → Except FileError FileTree
  | .makeDirectory path =>
    match tree.find? path with
    | some .directory => .ok tree
    | some (.file ..) => .error .alreadyThere
    | none => do
      tree.expectRoom path
      return tree.put path .directory
  | .create path => do
    tree.expectRoom path
    match tree.find? path with
    | some _ => throw .alreadyThere
    | none => return tree.put path (.file privateMode [])
  | .write path content =>
    match tree.find? path with
    | some (.file mode _) => .ok (tree.put path (.file mode content))
    | some .directory => .error .isDirectory
    | none => .error .notFound
  | .setMode path mode =>
    match tree.find? path with
    | some (.file _ content) => .ok (tree.put path (.file mode content))
    | some .directory => .error .isDirectory
    | none => .error .notFound
  | .rename source target =>
    match tree.find? source, tree.find? target with
    | none, _ => .error .notFound
    | _, some .directory => .error .isDirectory
    | some node, _ => do
      tree.expectRoom target
      return (tree.erase source).put target node
  | .remove path =>
    match tree.find? path with
    | some (.file ..) => .ok (tree.erase path)
    | some .directory => .error .isDirectory
    | none => .error .notFound
  | .read path =>
    match tree.find? path with
    | some (.file ..) => .ok tree
    | some .directory => .error .isDirectory
    | none => do
      tree.expectRoom path
      throw .notFound
  | .look _ => .ok tree

def perform (tree : FileTree) (action : Action) : Except FileError FileTree :=
  match tree.refusal action with
  | some reason => .error (.refused reason)
  | none => tree.attempt action

/-- Steps in order up to the first that fails: where they lead, and what failed. -/
def performAll (tree : FileTree) : List Action → FileTree × Option FileError
  | [] => (tree, none)
  | action :: rest =>
    match tree.perform action with
    | .ok next => next.performAll rest
    | .error e => (tree, some e)

def read (tree : FileTree) (place : Location) : Except FileError Bytes := do
  tree.reach place.way.dropLast
  let _ ← tree.perform (.read place.path)
  match tree.find? place.path with
  | some (.file _ content) => return content
  | _ => throw .notFound

/-- Whether a file stands at a place. That nothing can stand there is no failure, but it may be refused
to look, as it is beyond a directory that is closed. -/
def hasFile (tree : FileTree) (place : Location) : Except FileError Bool :=
  if place.hasNull then .ok false
  else do
    let _ ← tree.perform (.look place.path)
    match tree.reach place.way.dropLast, tree.find? place.path with
    | .ok (), some (.file ..) => return true
    | .ok (), none => if isTooLong place.path then throw .longName else return false
    | .error .longName, _ => throw .longName
    | _, _ => return false

/-- A name of its own for a file that is to be renamed to `name`: eight digits and an ending that
follow it. -/
def draftName (name : String) (number : Nat) : String :=
  name ++ "." ++ String.ofList (Calendar.padded 8 number) ++ ".tmp"

def freshDraft (tree : FileTree) (directory : Path) (name : String) : Path :=
  let isFree (number : Nat) := (tree.find? (directory ++ [draftName name number])).isNone
  let number := ((List.range (tree.nodes.length + 1)).find? isFree).getD 0
  directory ++ [draftName name number]

/-- What makes a draft that was created take the place of the file that it is for. -/
def finishing (draft target : Path) (mode : Nat) (content : Bytes) : List Action :=
  [.write draft content] ++ (if mode = privateMode then [] else [.setMode draft mode])
    ++ [.rename draft target]

/-- Stores content under a name in a directory, which is made if it is missing. The content goes into a
draft, which takes the place of an older file only when it is complete; a draft that does not come to
that is removed again. -/
def replace (tree : FileTree) (directory : Location) (name : String) (mode : Nat) (content : Bytes) :
    FileTree × Option FileError :=
  match tree.performAll (directory.way.map .makeDirectory) with
  | (opened, some e) => (opened, some e)
  | (opened, none) =>
    let draft := opened.freshDraft directory.path name
    match opened.perform (.create draft) with
    | .error e => (opened, some e)
    | .ok created =>
      match created.performAll (finishing draft (directory.path ++ [name]) mode content) with
      | (done, none) => (done, none)
      | (stopped, some e) =>
        match stopped.perform (.remove draft) with
        | .ok cleared => (cleared, some e)
        | .error _ => (stopped, some e)

end FileTree

end AcmeClient
