import AcmeClient.Proofs.FileTree
import AcmeClient.Storage.Basic

namespace AcmeClient

/-- The failures that an access to the storage is documented to have. -/
def Failure.IsStorage (failure : Failure) : Prop :=
  ∃ fault : Fault, failure = .fault fault ∧ fault.area = .storage

namespace Storage

namespace Key

variable {key : Key}

theorem toList_fileName (key : Key) :
    key.fileName.toList = key.label ++ key.kind.suffix.toList := by
  simp [fileName]

theorem suffix_suffix (key : Key) : key.kind.suffix.toList <:+ key.fileName.toList := by
  rw [toList_fileName]
  exact List.suffix_append _ _

theorem fileName_ne_dots (key : Key) : key.fileName ≠ ".." := by
  intro same
  have lengths := congrArg (fun name => name.toList.length) same
  simp only [toList_fileName, List.length_append] at lengths
  have ending : 4 ≤ key.kind.suffix.toList.length := by cases key.kind <;> decide
  have dots : "..".toList.length = 2 := by decide
  omega

theorem null_notMem_fileName (key : Key) : '\x00' ∉ key.fileName.toList := by
  rw [toList_fileName, List.mem_append, not_or]
  constructor
  · simp only [label, List.mem_map, not_exists, not_and]
    intro c _
    unfold flatten
    split
    · decide
    · rename_i safe
      exact fun same => safe (.inr (.inr (.inr same)))
  · cases key.kind <;> decide

theorem fileName_ne_draftName (key : Key) (name : String) (number : Nat) :
    key.fileName ≠ FileTree.draftName name number := by
  intro same
  have lasts := congrArg (fun name => name.toList.getLast?) same
  have draft : ".tmp".toList.getLast? = some 'p' := by decide
  simp only [toList_fileName, FileTree.draftName, String.toList_append, List.getLast?_append,
    draft, Option.some_or] at lasts
  cases kind : key.kind <;> rw [kind] at lasts <;> revert lasts <;>
    simp [Kind.suffix]

/-- The kinds start with different letters. -/
theorem kind_eq_of_text {kind other : Kind} {rest otherRest : List Char}
    (same : kind.text.toList.map flatten ++ rest = other.text.toList.map flatten ++ otherRest) :
    kind = other := by
  have heads := congrArg List.head? same
  cases kind <;> cases other <;> first | rfl | (revert heads; simp [Kind.text, flatten])

/-- Within a realm a file name tells the kind, and the name up to what is flattened. -/
theorem fileName_eq_iff (realm : String) (kind other : Kind) (name otherName : String) :
    fileName ⟨realm, kind, name⟩ = fileName ⟨realm, other, otherName⟩ ↔
      kind = other ∧ name.toList.map flatten = otherName.toList.map flatten := by
  simp only [fileName, label, String.ofList_inj, List.map_append, List.map_cons, List.append_assoc,
    List.append_cancel_left_eq, List.cons_append, List.cons.injEq, true_and]
  constructor
  · intro same
    obtain rfl := kind_eq_of_text same
    simpa using same
  · intro same
    obtain ⟨rfl, names⟩ := same
    rw [names]

end Key

variable {s after : Storage} {files : FileTree} {outages : List Outage} {entries : List (Key × Bytes)}
  {place : Location} {key other : Key} {value : Bytes} {answer : Option Bytes} {failure : Failure}

/-- Whether entries can be reached. -/
def isOpen (s : Storage) : Bool :=
  match s.backend with
  | .memory _ => true
  | .directory place => (s.files.reach place.way).isOk

/-- The content of an entry, whether it can be reached or not. -/
def held? (s : Storage) (key : Key) : Option Bytes :=
  match s.backend with
  | .memory entries => Assoc.find? key entries
  | .directory place => s.files.content? (place.path ++ [key.fileName])

/-- The content of an entry that can be reached. -/
def content? (s : Storage) (key : Key) : Option Bytes := if s.isOpen then s.held? key else none

/-- Whether two keys name the same entry. -/
def Backend.Shares (backend : Backend) (key other : Key) : Prop :=
  match backend with
  | .memory _ => key = other
  | .directory _ => key.fileName = other.fileName

/-- Whether the system can name the place of the entries. -/
def isNameable (s : Storage) : Bool :=
  match s.backend with
  | .memory _ => true
  | .directory place => !place.hasNull

theorem isOpen_directory :
    isOpen ⟨.directory place, files, outages⟩ ↔ files.reach place.way = .ok () := by
  simp only [isOpen]
  cases files.reach place.way <;> simp [Except.isOk, Except.toBool]

@[simp] theorem held?_directory :
    held? ⟨.directory place, files, outages⟩ key =
      files.content? (place.path ++ [key.fileName]) := rfl

theorem checkOutage_nil {backend : Backend} (access : Access) (kind : Kind) :
    checkOutage ⟨backend, files, []⟩ access kind = .ok () := rfl

theorem checkOutage_error {access : Access} {kind : Kind}
    (failed : s.checkOutage access kind = .error failure) : failure.IsStorage := by
  unfold checkOutage at failed
  split at failed
  · cases failed
    exact ⟨_, rfl, rfl⟩
  · contradiction

theorem get_memory (clear : checkOutage ⟨.memory entries, files, outages⟩ .get key.kind = .ok ()) :
    get ⟨.memory entries, files, outages⟩ key = .ok (Assoc.find? key entries) := by
  simp only [get, clear]
  rfl

theorem get_directory
    (clear : checkOutage ⟨.directory place, files, outages⟩ .get key.kind = .ok ()) :
    get ⟨.directory place, files, outages⟩ key =
      if place.hasNull then .error (.defect .nullInPath)
      else
        match files.read (place.child key.fileName) with
        | .ok content => .ok (some content)
        | .error .notFound => .ok none
        | .error e =>
          .error (.fault (.unreadableEntry (place.child key.fileName).toString e.message)) := by
  rw [← Location.hasNull_child place key.null_notMem_fileName]
  simp only [get, clear, bind, Except.bind]
  split <;> rfl

theorem put_memory (clear : checkOutage ⟨.memory entries, files, outages⟩ .put key.kind = .ok ()) :
    put ⟨.memory entries, files, outages⟩ key value =
      (⟨.memory (Assoc.insert key value entries), files, outages⟩, .ok ()) := by
  simp only [put, clear]

theorem put_directory
    (clear : checkOutage ⟨.directory place, files, outages⟩ .put key.kind = .ok ()) :
    put ⟨.directory place, files, outages⟩ key value =
      if place.hasNull then (⟨.directory place, files, outages⟩, .error (.defect .nullInPath))
      else
        match files.replace place key.fileName (modeOf key.kind) value with
        | (files, none) => (⟨.directory place, files, outages⟩, .ok ())
        | (files, some e) => (⟨.directory place, files, outages⟩,
            .error (.fault (.unwritableEntry (place.child key.fileName).toString e.message))) := by
  rw [← Location.hasNull_child place key.null_notMem_fileName]
  simp only [put, clear]
  split
  · rfl
  · generalize files.replace place key.fileName (modeOf key.kind) value = replaced
    obtain ⟨files, failed⟩ := replaced
    cases failed <;> rfl

theorem get_ok (answered : s.get key = .ok answer) : answer = s.content? key := by
  obtain ⟨backend, files, outages⟩ := s
  cases clear : checkOutage ⟨backend, files, outages⟩ .get key.kind with
  | error failure => simp [get, clear, bind, Except.bind] at answered
  | ok _ =>
      cases backend with
      | memory entries =>
          rw [get_memory clear, Except.ok.injEq] at answered
          exact answered.symm
      | directory place =>
          have path := Location.path_child place key.fileName_ne_dots
          have way := Location.way_child place key.fileName
          rw [get_directory clear] at answered
          split at answered
          · contradiction
          · split at answered
            · rename_i content read
              obtain ⟨reached, found⟩ := FileTree.read_ok read
              rw [way] at reached
              rw [path] at found
              cases answered
              rw [content?, if_pos (isOpen_directory.mpr reached), held?_directory, found]
            · rename_i missing
              cases answered
              rw [content?]
              split
              · rename_i reached
                rw [isOpen_directory, ← way] at reached
                rw [held?_directory, ← path, FileTree.read_notFound missing reached]
              · rfl
            · contradiction

theorem get_error (nameable : s.isNameable) (failed : s.get key = .error failure) :
    failure.IsStorage := by
  obtain ⟨backend, files, outages⟩ := s
  cases clear : checkOutage ⟨backend, files, outages⟩ .get key.kind with
  | error other =>
      simp only [get, clear, bind, Except.bind, Except.error.injEq] at failed
      rw [← failed]
      exact checkOutage_error clear
  | ok _ =>
      cases backend with
      | memory entries =>
          rw [get_memory clear] at failed
          contradiction
      | directory place =>
          rw [get_directory clear, if_neg (by simpa [isNameable] using nameable)] at failed
          split at failed <;> cases failed
          exact ⟨_, rfl, rfl⟩

/-- A place that cannot be named fails in a way that is not documented. -/
theorem get_error_isStorage_iff (failed : s.get key = .error failure) :
    failure.IsStorage ↔ s.isNameable ∨ s.checkOutage .get key.kind ≠ .ok () := by
  constructor
  · rintro ⟨fault, rfl, -⟩
    obtain ⟨backend, files, outages⟩ := s
    cases clear : checkOutage ⟨backend, files, outages⟩ .get key.kind with
    | error other => exact .inr (by simp)
    | ok _ =>
        left
        cases backend with
        | memory entries => rfl
        | directory place =>
            rw [get_directory clear] at failed
            split at failed
            · simp at failed
            · rename_i nameable
              simpa [isNameable] using nameable
  · rintro (nameable | outage)
    · exact get_error nameable failed
    · cases found : s.checkOutage .get key.kind with
      | ok _ => exact absurd found outage
      | error other =>
          simp only [get, found, bind, Except.bind, Except.error.injEq] at failed
          rw [← failed]
          exact checkOutage_error found

theorem isNameable_of_get_ok (answered : s.get key = .ok answer) : s.isNameable := by
  obtain ⟨backend, files, outages⟩ := s
  cases backend with
  | memory entries => rfl
  | directory place =>
      cases clear : checkOutage ⟨.directory place, files, outages⟩ .get key.kind with
      | error failure => simp [get, clear, bind, Except.bind] at answered
      | ok _ =>
          rw [get_directory clear] at answered
          split at answered
          · contradiction
          · rename_i nameable
            simpa [isNameable] using nameable

theorem put_error_isStorage (nameable : s.isNameable)
    (failed : s.put key value = (after, .error failure)) : failure.IsStorage := by
  obtain ⟨backend, files, outages⟩ := s
  cases clear : checkOutage ⟨backend, files, outages⟩ .put key.kind with
  | error other =>
      simp only [put, clear, Prod.mk.injEq, Except.error.injEq] at failed
      rw [← failed.2]
      exact checkOutage_error clear
  | ok _ =>
      cases backend with
      | memory entries => simp [put_memory clear] at failed
      | directory place =>
          rw [put_directory clear, if_neg (by simpa [isNameable] using nameable)] at failed
          split at failed <;> cases failed
          exact ⟨_, rfl, rfl⟩

/-- Reading fails in a way that is not documented only where the place cannot be named. -/
theorem get_eq_defect_iff {defect : Defect} :
    s.get key = .error (.defect defect) ↔
      s.isNameable = false ∧ s.checkOutage .get key.kind = .ok () ∧ defect = .nullInPath := by
  obtain ⟨backend, files, outages⟩ := s
  cases clear : checkOutage ⟨backend, files, outages⟩ .get key.kind with
  | error failure =>
      obtain ⟨fault, rfl, -⟩ := checkOutage_error clear
      simp [get, clear, bind, Except.bind]
  | ok _ =>
      cases backend with
      | memory entries => simp [get_memory clear, isNameable]
      | directory place =>
          rw [get_directory clear]
          cases unnameable : place.hasNull with
          | true => simp [isNameable, unnameable, eq_comm (a := defect)]
          | false =>
              simp only [isNameable, unnameable, Bool.false_eq_true, if_false, Bool.not_false,
                Bool.true_eq_false, false_and, iff_false]
              split <;> simp

theorem isNameable_put (s : Storage) (key : Key) (value : Bytes) :
    (s.put key value).1.isNameable = s.isNameable := by
  obtain ⟨backend, files, outages⟩ := s
  cases clear : checkOutage ⟨backend, files, outages⟩ .put key.kind with
  | error failure => simp [put, clear]
  | ok _ =>
      cases backend with
      | memory entries => simp [put_memory clear, isNameable]
      | directory place =>
          rw [put_directory clear]
          split
          · rfl
          · split <;> rfl

/-- A value that is stored is the content of exactly those keys that share the entry. -/
theorem put_ok (stored : s.put key value = (after, .ok ())) :
    after.isOpen ∧ (s.backend.Shares = after.backend.Shares) ∧
      (∀ other, s.backend.Shares key other → after.held? other = some value) ∧
      (∀ other, ¬ s.backend.Shares key other → after.held? other = s.held? other) := by
  obtain ⟨backend, files, outages⟩ := s
  cases clear : checkOutage ⟨backend, files, outages⟩ .put key.kind with
  | error failure => simp [put, clear] at stored
  | ok _ =>
      cases backend with
      | memory entries =>
          rw [put_memory clear, Prod.mk.injEq] at stored
          obtain ⟨rfl, -⟩ := stored
          refine ⟨rfl, rfl, ?_, ?_⟩
          · rintro other rfl
            exact Assoc.find?_insert_self _ _ _
          · intro other different
            exact Assoc.find?_insert_other (Ne.symm different) _ _
      | directory place =>
          rw [put_directory clear] at stored
          split at stored
          · simp at stored
          · split at stored
            · rename_i replaced
              obtain ⟨spares, found, reached, -⟩ := FileTree.replace_ok replaced
              have content := FileTree.content?_of_find? found
              rw [Prod.mk.injEq] at stored
              obtain ⟨rfl, -⟩ := stored
              refine ⟨isOpen_directory.mpr reached, rfl, ?_, ?_⟩
              · intro other same
                rw [held?_directory, ← (same : key.fileName = other.fileName), content]
              · intro other different
                refine spares.contents _ fun same => ?_
                simp only [List.append_cancel_left_eq, List.cons.injEq, and_true] at same
                exact different same.symm
            · simp at stored

/-- A value that cannot be stored changes no entry. -/
theorem put_error (failed : s.put key value = (after, .error failure)) :
    (s.isOpen → after.isOpen) ∧ ∀ other, after.held? other = s.held? other := by
  obtain ⟨backend, files, outages⟩ := s
  cases clear : checkOutage ⟨backend, files, outages⟩ .put key.kind with
  | error other =>
      simp only [put, clear, Prod.mk.injEq] at failed
      obtain ⟨rfl, -⟩ := failed
      exact ⟨id, fun _ => rfl⟩
  | ok _ =>
      cases backend with
      | memory entries => simp [put_memory clear] at failed
      | directory place =>
          rw [put_directory clear] at failed
          split at failed
          · rw [Prod.mk.injEq] at failed
            obtain ⟨rfl, -⟩ := failed
            exact ⟨id, fun _ => rfl⟩
          · split at failed
            · simp at failed
            · rename_i stopped
              have spares := FileTree.replace_error stopped
              rw [Prod.mk.injEq] at failed
              obtain ⟨rfl, -⟩ := failed
              refine ⟨fun opened => ?_, fun other => ?_⟩
              · exact isOpen_directory.mpr (spares.reach (isOpen_directory.mp opened))
              · refine spares.contents _ ?_
                rintro ⟨⟨number, same⟩, -⟩
                simp only [List.append_cancel_left_eq, List.cons.injEq, and_true] at same
                exact other.fileName_ne_draftName _ _ same

theorem content?_put (stored : s.put key value = (after, .ok ())) :
    after.content? key = some value := by
  obtain ⟨opened, -, mine, -⟩ := put_ok stored
  have self : s.backend.Shares key key := by
    cases backend : s.backend <;> rfl
  rw [content?, if_pos opened, mine key self]

end Storage

end AcmeClient
