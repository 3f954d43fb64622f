import AcmeClient.Proofs.FileTree.Access
import AcmeClient.Proofs.Storage.Isolation

namespace AcmeClient

namespace Storage

variable {place : Location} {files : FileTree} {key : Key} {value : Bytes}

/-- Where the file of an entry stands. -/
def entryPath (place : Location) (key : Key) : Path := place.path ++ [key.fileName]

/-- A call to a directory, at a time when the system refuses some steps for reasons of its own. -/
structure DirectoryCall where
  operation : Operation
  refusal : Action → Option String

/-- The files as a call meets them. -/
def DirectoryCall.meets (call : DirectoryCall) (files : FileTree) : FileTree :=
  { files with refusal := call.refusal }

/-- The files that a call leaves, and its answer. -/
def DirectoryCall.run (call : DirectoryCall) (place : Location) (files : FileTree) :
    FileTree × Except Failure (Option Bytes) :=
  let ran := perform ⟨.directory place, call.meets files, []⟩ call.operation
  (ran.1.files, ran.2)

/-- What reading an entry is answered, where `held` was stored last. -/
structure Reads (place : Location) (files : FileTree) (held : Option Bytes) (key : Key)
    (answer : Except Failure (Option Bytes)) : Prop where
  value : ∀ content, answer = .ok (some content) ↔ held = some content ∧
    files.reach place.way = .ok () ∧ files.refusal (.read (entryPath place key)) = none
  missing : answer = .ok none ↔ files.LacksDirectory place.way ∨
    files.reach place.way = .ok () ∧ files.find? (entryPath place key) = none ∧
      FileTree.isTooLong (entryPath place key) = false ∧
      files.refusal (.read (entryPath place key)) = none
  failure : ∀ failure, answer = .error failure → failure.IsStorage

theorem reads_of_get (nameable : place.hasNull = false) :
    Reads place files (files.content? (entryPath place key)) key
      (get ⟨.directory place, files, []⟩ key) := by
  have path : (place.child key.fileName).path = entryPath place key :=
    place.path_child key.fileName_ne_dots
  have found (content : Bytes) : files.read (place.child key.fileName) = .ok content ↔ _ :=
    FileTree.read_eq_ok_iff
  have missing : files.read (place.child key.fileName) = .error .notFound ↔ _ :=
    FileTree.read_child_eq_notFound_iff key.fileName_ne_dots
  rw [path, place.way_child] at found
  rw [get_directory (checkOutage_nil _ _), nameable, if_neg (by simp)]
  constructor
  · intro content
    rw [← found]
    split <;> rename_i read <;> simp [read]
  · rw [entryPath, ← missing]
    split
    · rename_i read
      simp [read]
    · rename_i read
      simp [read]
    · rename_i other read
      simpa [read] using other
  · intro failure failed
    split at failed <;> cases failed
    exact ⟨_, rfl, rfl⟩

/-- What storing a value comes to, and what it leaves. -/
structure Stores (place : Location) (files after : FileTree) (key : Key) (value : Bytes)
    (answer : Except Failure (Option Bytes)) : Prop where
  /-- The entry has the value, and every other file is as it was. -/
  stored : ∀ read, answer = .ok read → read = none ∧ ∀ path, after.file? path =
    if path = entryPath place key then some (modeOf key.kind, value) else files.file? path
  /-- Every file is as it was. Only a draft whose removal is refused too is left. -/
  kept : ∀ failure, answer = .error failure → failure.IsStorage ∧ ∀ path,
    after.file? path = files.file? path ∨ files.refusal (.remove path) ≠ none ∧
      ∃ number, path = place.path ++ [FileTree.draftName key.fileName number]
  /-- Nothing fails in a directory that is there if no step is refused and the names fit. -/
  succeeds : (files.refusal = fun _ => none) → files.reach place.way = .ok () →
    files.find? (entryPath place key) ≠ some .directory →
    FileTree.isTooLong (files.freshDraft place.path key.fileName) = false → answer = .ok none
  standing : ∀ path, files.find? path = some .directory → after.find? path = some .directory
  /-- Only directories that lead to the entries are made. -/
  opened : ∀ path, after.find? path = some .directory →
    files.find? path = some .directory ∨ path ∈ place.way

theorem stores_of_put (nameable : place.hasNull = false) :
    let ran := perform ⟨.directory place, files, []⟩ (.put key value)
    Stores place files ran.1.files key value ran.2 := by
  simp only [perform]
  rw [put_directory (checkOutage_nil _ _), nameable, if_neg (by simp)]
  split
  · rename_i after replaced
    obtain ⟨spares, found, -⟩ := FileTree.replace_ok replaced
    refine ⟨fun read answered => ⟨?_, fun path => ?_⟩, by simp [Except.map], fun _ _ _ _ => rfl,
      spares.directories, spares.created⟩
    · simpa [Except.map] using answered.symm
    · split
      · rename_i same
        rw [same, entryPath, FileTree.file?, found]
      · rename_i different
        exact spares.files path different
  · rename_i after e replaced
    have spares := FileTree.replace_error replaced
    refine ⟨by simp [Except.map], fun failure failed => ⟨?_, fun path => ?_⟩,
      fun willing reached free fits => ?_, spares.directories, spares.created⟩
    · cases failed
      exact ⟨_, rfl, rfl⟩
    · by_cases left : (∃ number, path = place.path ++ [FileTree.draftName key.fileName number]) ∧
          files.refusal (.remove path) ≠ none
      · exact .inr ⟨left.2, left.1⟩
      · exact .inl (spares.files path left)
    · have done : (files.replace place key.fileName (modeOf key.kind) value).2 = none :=
        FileTree.replace_succeeds willing reached free fits
      rw [replaced] at done
      contradiction

variable {call : DirectoryCall} {calls : List DirectoryCall}

/-- The files that calls leave which follow each other. -/
def filesAfter (place : Location) (files : FileTree) (calls : List DirectoryCall) : FileTree :=
  calls.foldl (fun files call => (call.run place files).1) files

/-- A call changes nothing if the place cannot be named. -/
theorem run_of_hasNull (unnameable : place.hasNull) (call : DirectoryCall) :
    call.run place files = (call.meets files, .error (.defect .nullInPath)) := by
  obtain ⟨operation, refusal⟩ := call
  cases operation with
  | get key => simp [DirectoryCall.run, perform, get_directory (checkOutage_nil _ _), unnameable]
  | put key value =>
      simp [DirectoryCall.run, perform, put_directory (checkOutage_nil _ _), unnameable, Except.map]

theorem reads_of_run (files : FileTree) (nameable : place.hasNull = false)
    (read : call.operation = .get key) :
    (call.run place files).1 = call.meets files ∧ Reads place (call.meets files)
      (files.content? (entryPath place key)) key (call.run place files).2 := by
  obtain ⟨operation, refusal⟩ := call
  cases read
  exact ⟨rfl, reads_of_get nameable⟩

theorem stores_of_run (files : FileTree) (nameable : place.hasNull = false)
    (put : call.operation = .put key value) : Stores place (call.meets files)
      (call.run place files).1 key value (call.run place files).2 := by
  obtain ⟨operation, refusal⟩ := call
  cases put
  exact stores_of_put nameable

theorem entryPath_ne_draft (place : Location) (key other : Key) (number : Nat) :
    entryPath place key ≠ place.path ++ [FileTree.draftName other.fileName number] := by
  simpa [entryPath] using key.fileName_ne_draftName other.fileName number

end Storage

end AcmeClient
