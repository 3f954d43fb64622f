import AcmeClient.FileTree.Basic
import AcmeClient.Storage.Key

namespace AcmeClient

inductive Access where
  | get
  | put
deriving DecidableEq, Repr

namespace Storage

inductive Backend where
  | memory (entries : List (Key × Bytes))
  | directory (place : Location)

/-- A directory, if a path is given, and else memory. -/
def Backend.ofPath (path : Option String) : Backend :=
  match path with
  | none | some "" => .memory []
  | some path => .directory (.ofString path)

/-- An access that fails, and why. -/
structure Outage where
  access : Access
  kind : Kind
  reason : String
deriving DecidableEq, Repr

end Storage

structure Storage where
  backend : Storage.Backend
  files : FileTree
  outages : List Storage.Outage

namespace Storage

def inMemory : Storage := ⟨.memory [], .empty, []⟩

def keepsFiles (s : Storage) : Bool :=
  match s.backend with
  | .memory _ => false
  | .directory _ => true

def checkOutage (s : Storage) (access : Access) (kind : Kind) : Except Failure Unit :=
  match s.outages.find? fun outage => outage.access == access && outage.kind == kind with
  | some outage => .error (.fault (.reported .storage outage.reason false))
  | none => .ok ()

/-- The mode that the file of an entry has: only certificates are for everyone to read. -/
def modeOf : Kind → Nat
  | .certificate => FileTree.publicMode
  | _ => FileTree.privateMode

/-- The value of an entry; an entry that is missing has none. -/
def get (s : Storage) (key : Key) : Except Failure (Option Bytes) := do
  s.checkOutage .get key.kind
  match s.backend with
  | .memory entries => return Assoc.find? key entries
  | .directory place =>
    let entry := place.child key.fileName
    if entry.hasNull then throw (.defect .nullInPath)
    match s.files.read entry with
    | .ok content => return some content
    | .error .notFound => return none
    | .error e => throw (.fault (.unreadableEntry entry.toString e.message))

/-- Gives an entry a value. What a failed attempt leaves behind is part of the answer. -/
def put (s : Storage) (key : Key) (value : Bytes) : Storage × Except Failure Unit :=
  match s.checkOutage .put key.kind with
  | .error e => (s, .error e)
  | .ok () =>
    match s.backend with
    | .memory entries => ({ s with backend := .memory (Assoc.insert key value entries) }, .ok ())
    | .directory place =>
      let entry := place.child key.fileName
      if entry.hasNull then (s, .error (.defect .nullInPath))
      else
        let (files, failed) := s.files.replace place key.fileName (modeOf key.kind) value
        ({ s with files }, match failed with
          | none => .ok ()
          | some e => .error (.fault (.unwritableEntry entry.toString e.message)))

end Storage

end AcmeClient
