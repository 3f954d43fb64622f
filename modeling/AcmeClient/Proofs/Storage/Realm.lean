import AcmeClient.Proofs.Storage.Directory

namespace AcmeClient

namespace Storage

variable {place : Location} {files : FileTree} {key : Key} {call : DirectoryCall}
  {calls : List DirectoryCall}

namespace Key

theorem flatten_safe (c : Char) :
    flatten c ≠ '*' ∧ flatten c ≠ '/' ∧ flatten c ≠ '\\' ∧ flatten c ≠ '\x00' := by
  unfold flatten
  split
  · decide
  · rename_i safe
    simpa only [not_or] using safe

/-- A file name that is one step on, from which nothing is left out and which is that of no draft. -/
structure IsPlainName (name : String) : Prop where
  safe : ∀ c ∈ name.toList, c ≠ '*' ∧ c ≠ '/' ∧ c ≠ '\\' ∧ c ≠ '\x00'
  noDot : name ≠ "."
  noDots : name ≠ ".."
  noDraft : ¬ ".tmp".toList <:+ name.toList
  single : Location.ofString name = ⟨"", [name]⟩

theorem fileName_safe (key : Key) : ∀ c ∈ key.fileName.toList,
    c ≠ '*' ∧ c ≠ '/' ∧ c ≠ '\\' ∧ c ≠ '\x00' := by
  intro c member
  -- The suffixes hold nothing that is flattened.
  have fixed : key.kind.suffix.toList.map flatten = key.kind.suffix.toList := by cases key.kind <;> decide
  rw [toList_fileName, label, ← fixed, ← List.map_append] at member
  obtain ⟨original, -, rfl⟩ := List.mem_map.mp member
  exact flatten_safe original

/-- A name ends in its own suffix and in no other one that is as long. -/
theorem not_suffix_of_ne {ending : List Char} (length : ending.length = 4)
    (other : key.kind.suffix.toList ≠ ending) : ¬ ending <:+ key.fileName.toList := by
  intro ends
  have own : key.kind.suffix.toList.length = 4 := by cases key.kind <;> decide
  have shorter := List.suffix_of_suffix_length_le key.suffix_suffix ends (by rw [own, length])
  exact other (shorter.eq_of_length (by rw [own, length]))

theorem isPlainName (key : Key) : IsPlainName key.fileName := by
  have safe := key.fileName_safe
  have long : 4 ≤ key.fileName.toList.length := by
    have own : key.kind.suffix.toList.length = 4 := by cases key.kind <;> decide
    rw [← own]
    exact key.suffix_suffix.length_le
  have noDot : key.fileName ≠ "." := fun same => absurd long (by rw [same]; decide)
  have some : key.fileName ≠ "" := fun same => absurd long (by rw [same]; decide)
  refine ⟨safe, noDot, key.fileName_ne_dots, not_suffix_of_ne (by decide) ?_,
    Location.ofString_eq_single (fun slash => (safe _ slash).2.1 rfl) some noDot⟩
  cases key.kind <;> decide

end Key

/-- A call that stores nothing but other entries of the same realm, which differ in kind or name. -/
def DirectoryCall.StoresBeside (call : DirectoryCall) (key : Key) : Prop :=
  ∀ other value, call.operation = .put other value → other.realm = key.realm ∧
    (other.kind ≠ key.kind ∨ other.name.toList.map Key.flatten ≠ key.name.toList.map Key.flatten)

theorem DirectoryCall.StoresBeside.entryPath_ne {other : Key} {value : Bytes}
    (beside : call.StoresBeside key) (put : call.operation = .put other value) :
    entryPath place key ≠ entryPath place other := by
  obtain ⟨realm, kind, name⟩ := key
  obtain ⟨otherRealm, otherKind, otherName⟩ := other
  obtain ⟨rfl, different⟩ := beside _ value put
  intro same
  simp only [entryPath, List.append_cancel_left_eq, List.cons.injEq, and_true] at same
  obtain ⟨kinds, names⟩ := (Key.fileName_eq_iff _ _ _ _ _).mp same
  rcases different with otherKind | otherName
  · exact otherKind kinds.symm
  · exact otherName names.symm

theorem file?_run_of_storesBeside (files : FileTree) (beside : call.StoresBeside key) :
    (call.run place files).1.file? (entryPath place key) = files.file? (entryPath place key) := by
  cases nameable : place.hasNull with
  | true =>
      rw [run_of_hasNull nameable]
      rfl
  | false =>
      cases operation : call.operation with
      | get read =>
          rw [(reads_of_run files nameable operation).1]
          rfl
      | put other value =>
          have stores := stores_of_run files nameable operation
          cases answered : (call.run place files).2 with
          | ok read =>
              rw [(stores.stored read answered).2, if_neg (beside.entryPath_ne operation)]
              rfl
          | error failure =>
              obtain same | ⟨-, number, draft⟩ := (stores.kept failure answered).2 (entryPath place key)
              · exact same
              · exact absurd draft (entryPath_ne_draft place key other number)

theorem file?_filesAfter_of_storesBeside (beside : ∀ call ∈ calls, call.StoresBeside key) :
    (filesAfter place files calls).file? (entryPath place key) =
      files.file? (entryPath place key) := by
  induction calls generalizing files with
  | nil => rfl
  | cons call rest ih =>
      rw [List.forall_mem_cons] at beside
      calc (filesAfter place files (call :: rest)).file? (entryPath place key)
        _ = (call.run place files).1.file? (entryPath place key) := ih beside.2
        _ = files.file? (entryPath place key) := file?_run_of_storesBeside files beside.1

/-- Two entries of a realm have the same place exactly if they are of one kind and their names differ only
in what is flattened. So the file of an account's key, and any other, keeps its mode and content while
other entries of the realm are stored, whatever fails, and every file is a child of the directory. -/
theorem entries_of_realm (place : Location) (realm : String) :
    (∀ kind other name otherName,
      place.child (Key.fileName ⟨realm, kind, name⟩) = place.child (Key.fileName ⟨realm, other, otherName⟩) ↔
        kind = other ∧ name.toList.map Key.flatten = otherName.toList.map Key.flatten) ∧
    (∀ kind name files calls, (∀ call ∈ calls, call.StoresBeside ⟨realm, kind, name⟩) →
      (filesAfter place files calls).file? (entryPath place ⟨realm, kind, name⟩) =
        files.file? (entryPath place ⟨realm, kind, name⟩)) ∧
    ∀ kind name, Key.IsPlainName (Key.fileName ⟨realm, kind, name⟩) ∧
      (place.child (Key.fileName ⟨realm, kind, name⟩)).path =
        place.path ++ [Key.fileName ⟨realm, kind, name⟩] := by
  refine ⟨fun kind other name otherName => ?_, fun kind name files calls beside => ?_,
    fun kind name => ⟨Key.isPlainName _, Location.path_child place (Key.fileName_ne_dots _)⟩⟩
  · rw [← Key.fileName_eq_iff realm]
    simp [Location.child]
  · exact file?_filesAfter_of_storesBeside beside

end Storage

end AcmeClient
