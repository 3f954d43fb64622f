import AcmeClient.Proofs.Storage.Directory

namespace AcmeClient

/-- The paths that a step is about. -/
def Action.paths : Action → List Path
  | .makeDirectory path | .create path | .write path _ | .setMode path _ | .remove path | .read path
  | .look path =>
    [path]
  | .rename source target => [source, target]

namespace FileTree

variable {tree : FileTree} {directory : Path} {name : String} {number bound : Nat}

theorem utf8ByteSize_ofList {text : List Char} (ascii : ∀ c ∈ text, c.toNat < 0x80) :
    (String.ofList text).utf8ByteSize = text.length := by
  induction text with
  | nil => rfl
  | cons c rest ih =>
      rw [List.forall_mem_cons] at ascii
      have split : String.ofList (c :: rest) = String.singleton c ++ String.ofList rest := by
        apply String.toList_injective
        simp
      have narrow : c.utf8Size = 1 := Char.utf8Size_eq_one_iff.mpr (by
        rw [UInt32.le_iff_toNat_le]
        exact Nat.le_of_lt_succ ascii.1)
      rw [split, String.utf8ByteSize_append, String.utf8ByteSize_singleton, ih ascii.2, narrow,
        List.length_cons, Nat.add_comm]

/-- A number of eight digits makes the name of a draft no longer than it has to be. -/
theorem utf8ByteSize_draftName (name : String) (short : number < 10 ^ 8) :
    (draftName name number).utf8ByteSize = name.utf8ByteSize + draftExcess := by
  have length : (Calendar.padded 8 number).length = 8 := by
    have few : (digits number).length ≤ 8 := (length_digits_le_iff (by decide)).mpr short
    simp only [Calendar.padded, List.length_append, List.length_replicate]
    omega
  have ascii : ∀ c ∈ Calendar.padded 8 number, c.toNat < 0x80 := by
    intro c member
    have decimal : c.isDigit := by
      rw [Calendar.padded, List.mem_append] at member
      obtain zero | digit := member
      · rw [List.eq_of_mem_replicate zero]
        rfl
      · exact isDigit_of_mem_digits digit
    simp only [Char.isDigit, Bool.and_eq_true, decide_eq_true_eq, UInt32.le_iff_toNat_le] at decimal
    exact Nat.lt_of_le_of_lt decimal.2 (by decide)
  have point : (".").utf8ByteSize = 1 := rfl
  have ending : (".tmp").utf8ByteSize = 4 := rfl
  simp only [draftName, String.utf8ByteSize_append, point, ending, draftExcess,
    utf8ByteSize_ofList ascii, length]

theorem freshDraft_of_free (below : number < bound)
    (free : tree.find? (directory ++ [draftName name number]) = none) :
    ∃ first < bound, tree.freshDraft directory name = directory ++ [draftName name first] := by
  obtain ⟨other, listed, unused⟩ := tree.exists_free_draft directory name
  let isFree (number : Nat) := (tree.find? (directory ++ [draftName name number])).isNone
  obtain ⟨first, chosen⟩ : ∃ first, (List.range (tree.nodes.length + 1)).find? isFree = some first :=
    Option.isSome_iff_exists.mp (List.find?_isSome.mpr ⟨other, listed, by simp [isFree, unused]⟩)
  refine ⟨first, ?_, by rw [freshDraft, chosen, Option.getD_some]⟩
  -- The first free number is no larger than the one that is known to be free.
  obtain ⟨-, -, earlier⟩ := List.find?_range_eq_some.mp chosen
  refine Nat.lt_of_le_of_lt (Nat.le_of_not_lt fun behind => ?_) below
  simpa [isFree, free] using earlier number behind

/-- Storing a value is about the draft and its target alone, once the directory is open. -/
theorem paths_of_mem_finishing {action : Action} {draft target path : Path} {mode : Nat} {content : Bytes}
    (listed : action ∈ .create draft :: finishing draft target mode content)
    (about : path ∈ action.paths) : path = draft ∨ path = target := by
  have steps : action = .create draft ∨ action = .write draft content ∨ action = .setMode draft mode ∨
      action = .rename draft target := by
    unfold finishing at listed
    split at listed <;> simp at listed <;> tauto
  obtain rfl | rfl | rfl | rfl := steps <;> simp [Action.paths] at about <;> tauto

theorem isTooLong_eq_false_iff : isTooLong (directory ++ [name]) = false ↔ name.utf8ByteSize ≤ nameLimit := by
  simp [isTooLong]

end FileTree

namespace Storage

variable {place : Location} {files opened : FileTree} {key : Key} {value : Bytes}

/-- The directory of an entry is there or can be made, and stands open as it then is. No step is refused
on the file of the entry and its drafts, and some draft with eight digits is free. -/
structure Admits (files : FileTree) (place : Location) (key : Key) (opened : FileTree) : Prop where
  nameable : place.hasNull = false
  opens : files.performAll (place.way.map .makeDirectory) = (opened, none)
  grants : ∀ action, (∀ path ∈ Action.paths action, path = entryPath place key ∨
    ∃ number, path = place.path ++ [FileTree.draftName key.fileName number]) →
    files.refusal action = none
  hasDraft : ∃ number < 10 ^ 8,
    opened.find? (place.path ++ [FileTree.draftName key.fileName number]) = none

namespace Admits

variable (admits : Admits files place key opened)
include admits

theorem reads : files.refusal (.read (entryPath place key)) = none :=
  admits.grants _ (by simp [Action.paths])

theorem exists_found_iff : (∃ found, get ⟨.directory place, files, []⟩ key = .ok found) ↔
    files.LacksDirectory place.way ∨ files.reach place.way = .ok () ∧
      files.find? (entryPath place key) ≠ some .directory ∧
      (files.find? (entryPath place key) = none → key.fileName.utf8ByteSize ≤ 255) := by
  have reads : Reads place files _ key _ := reads_of_get admits.nameable
  have fits : FileTree.isTooLong (entryPath place key) = false ↔ key.fileName.utf8ByteSize ≤ 255 :=
    FileTree.isTooLong_eq_false_iff
  constructor
  · rintro ⟨_ | content, answered⟩
    · obtain lacks | ⟨reached, missing, short, -⟩ := reads.missing.mp answered
      · exact .inl lacks
      · exact .inr ⟨reached, by simp [missing], fun _ => fits.mp short⟩
    · obtain ⟨held, reached, -⟩ := (reads.value content).mp answered
      unfold FileTree.content? at held
      split at held
      · rename_i found
        exact .inr ⟨reached, by simp [found], by simp [found]⟩
      · contradiction
  · rintro (lacks | ⟨reached, free, short⟩)
    · exact ⟨none, reads.missing.mpr (.inl lacks)⟩
    · cases found : files.find? (entryPath place key) with
      | none =>
          exact ⟨none, reads.missing.mpr
            (.inr ⟨reached, found, fits.mpr (short found), admits.reads⟩)⟩
      | some node =>
          cases node with
          | directory => exact absurd found free
          | file mode content =>
              exact ⟨some content, (reads.value content).mpr
                ⟨FileTree.content?_of_find? found, reached, admits.reads⟩⟩

/-- The name of an entry has to leave the bytes that the name of a draft takes more. -/
theorem put_eq_ok_iff (value : Bytes) : (put ⟨.directory place, files, []⟩ key value).2 = .ok () ↔
    key.fileName.utf8ByteSize ≤ 242 ∧ opened.find? (entryPath place key) ≠ some .directory := by
  obtain ⟨number, below, free⟩ := admits.hasDraft
  obtain ⟨first, short, fresh⟩ := FileTree.freshDraft_of_free below free
  have fits : FileTree.isTooLong (opened.freshDraft place.path key.fileName) = false ↔
      key.fileName.utf8ByteSize ≤ 242 := by
    rw [fresh, FileTree.isTooLong_eq_false_iff, FileTree.utf8ByteSize_draftName _ short,
      FileTree.draftExcess, FileTree.nameLimit]
    omega
  have stored : (put ⟨.directory place, files, []⟩ key value).2 = .ok () ↔
      (files.replace place key.fileName (modeOf key.kind) value).2 = none := by
    rw [put_directory (checkOutage_nil _ _), admits.nameable, if_neg (by simp)]
    split <;> rename_i replaced <;> simp [replaced]
  rw [stored, ← fits]
  constructor
  · intro done
    obtain ⟨free, fits⟩ := FileTree.of_replace_of_opened admits.opens done
    exact ⟨fits, free⟩
  · rintro ⟨fits, free⟩
    refine FileTree.replace_of_opened admits.opens (fun action listed => ?_) free fits
    refine admits.grants action fun path about => ?_
    rw [fresh] at listed
    obtain draft | target := FileTree.paths_of_mem_finishing listed about
    · exact .inr ⟨first, draft⟩
    · exact .inl target

theorem get_put (stored : (put ⟨.directory place, files, []⟩ key value).2 = .ok ()) :
    (put ⟨.directory place, files, []⟩ key value).1.get key = .ok (some value) := by
  rw [put_directory (checkOutage_nil _ _), admits.nameable, if_neg (by simp)] at stored ⊢
  split at stored
  · rename_i after replaced
    obtain ⟨spares, found, reached, -⟩ := FileTree.replace_ok replaced
    have reads : after.refusal (.read (entryPath place key)) = none := spares.refusal ▸ admits.reads
    exact ((reads_of_get admits.nameable).value value).mpr
      ⟨FileTree.content?_of_find? found, reached, reads⟩
  · contradiction

theorem file?_put_of_error {failure : Failure}
    (failed : (put ⟨.directory place, files, []⟩ key value).2 = .error failure) :
    failure.IsStorage ∧ ∀ path,
      (put ⟨.directory place, files, []⟩ key value).1.files.file? path = files.file? path := by
  rw [put_directory (checkOutage_nil _ _), admits.nameable, if_neg (by simp)] at failed ⊢
  split at failed
  · contradiction
  · rename_i replaced
    cases failed
    refine ⟨⟨_, rfl, rfl⟩, fun path => (FileTree.replace_error replaced).files path ?_⟩
    rintro ⟨⟨number, rfl⟩, refused⟩
    exact refused (admits.grants _ (by simp [Action.paths]))

end Admits

/-- In an empty tree a directory can be made for every entry. -/
theorem admits_new (key : Key) :
    Admits .empty ⟨"", ["store"]⟩ key (FileTree.empty.put ["store"] .directory) where
  nameable := by decide
  opens := by
    have short : FileTree.isTooLong ["store"] = false := by decide
    simp [FileTree.performAll, FileTree.perform, FileTree.attempt, FileTree.empty, FileTree.find?,
      Assoc.find?, FileTree.expectRoom, FileTree.expectDirectory, short, Location.way, Location.wayFrom,
      Location.follow, bind, Except.bind, pure, Except.pure]
  grants _ _ := rfl
  hasDraft := by
    refine ⟨0, by decide, ?_⟩
    rw [FileTree.find?_put_other (by simp [Location.path, Location.follow])]
    rfl

theorem get_new (key : Key) : get ⟨.directory ⟨"", ["store"]⟩, .empty, []⟩ key = .ok none := by
  have reads : Reads _ FileTree.empty _ key _ := reads_of_get (admits_new key).nameable
  exact reads.missing.mpr (.inl (.here rfl (by decide)))

/-- In a directory that is there or can be made, what can be looked up can be stored exactly if its file
name leaves 13 of 255 bytes to that of a draft, and no directory that has to be made comes to stand in
its place. What cannot be stored is a storage failure, which leaves every file as it was. -/
theorem looked_up_is_stored (admits : Admits files place key opened) (value : Bytes) :
    let s : Storage := ⟨.directory place, files, []⟩
    let ran := s.put key value
    ((∃ found, s.get key = .ok found) ↔
      files.LacksDirectory place.way ∨ files.reach place.way = .ok () ∧
        files.find? (entryPath place key) ≠ some .directory ∧
        (files.find? (entryPath place key) = none → key.fileName.utf8ByteSize ≤ 255)) ∧
    ((∃ found, s.get key = .ok found) → (ran.2 = .ok () ↔ key.fileName.utf8ByteSize ≤ 242 ∧
      (files.LacksDirectory place.way → opened.find? (entryPath place key) ≠ some .directory))) ∧
    (ran.2 = .ok () → ran.1.get key = .ok (some value)) ∧
    (∀ failure, ran.2 = .error failure →
      failure.IsStorage ∧ ∀ path, ran.1.files.file? path = files.file? path) := by
  intro s ran
  have looked := admits.exists_found_iff
  refine ⟨looked, fun found => ?_, admits.get_put, fun _ => admits.file?_put_of_error⟩
  rw [admits.put_eq_ok_iff]
  refine and_congr_right fun _ => ⟨fun free _ => free, fun made => ?_⟩
  obtain lacks | ⟨reached, free, -⟩ := looked.mp found
  · exact made lacks
  · rwa [FileTree.eq_of_performAll_of_reach reached admits.opens]

theorem looked_up_is_stored_in_new_directory :
    let s : Storage := ⟨.directory ⟨"", ["store"]⟩, .empty, []⟩
    let key : Key := ⟨"foo@bar.com", .certificate, "example.com"⟩
    Admits .empty ⟨"", ["store"]⟩ key (FileTree.empty.put ["store"] .directory) ∧
      s.get key = .ok none ∧ (s.put key [0x41]).2 = .ok () ∧
      (s.put key [0x41]).1.get key = .ok (some [0x41]) := by
  intro s key
  have admits := admits_new key
  obtain ⟨-, storable, found, -⟩ := looked_up_is_stored admits [0x41]
  have looked : s.get key = .ok none := get_new key
  have stored : (s.put key [0x41]).2 = .ok () :=
    (storable ⟨none, looked⟩).mpr ⟨by decide, fun _ => by decide⟩
  exact ⟨admits, looked, stored, found stored⟩

/-- A certificate whose file name has 248 bytes can be looked up, and cannot be stored. -/
theorem long_name_not_stored :
    let s : Storage := ⟨.directory ⟨"", ["store"]⟩, .empty, []⟩
    let key : Key := ⟨"r", .certificate, String.ofList (List.replicate 230 'n')⟩
    s.get key = .ok none ∧ key.fileName.utf8ByteSize = 248 ∧ (s.put key [0x41]).2 ≠ .ok () := by
  intro s key
  have spelled : key.label ++ key.kind.suffix.toList =
      "r_certificate_".toList ++ List.replicate 230 'n' ++ ".crt".toList := by
    simp only [key, Key.label, String.toList_ofList, List.map_append, List.map_cons, List.map_replicate]
    rfl
  have size : key.fileName.utf8ByteSize = 248 := by
    rw [Key.fileName, spelled, FileTree.utf8ByteSize_ofList]
    · rw [List.length_append, List.length_append, List.length_replicate]
      rfl
    · simp only [List.mem_append, List.mem_replicate]
      have plain : ("r_certificate_".toList ++ ".crt".toList).all (fun c => decide (c.toNat < 0x80)) := rfl
      rw [List.all_append, Bool.and_eq_true, List.all_eq_true, List.all_eq_true] at plain
      rintro c ((front | ⟨-, rfl⟩) | ending)
      · exact of_decide_eq_true (plain.1 c front)
      · decide
      · exact of_decide_eq_true (plain.2 c ending)
  refine ⟨get_new key, size, fun stored => ?_⟩
  have short := ((admits_new key).put_eq_ok_iff [0x41]).mp stored
  omega

end Storage

end AcmeClient
