import AcmeClient.Proofs.FileTree
import AcmeClient.Proofs.Number.Digits
import Mathlib.Data.List.Nodup
import Mathlib.Data.List.Perm.Subperm

namespace AcmeClient

theorem Location.find?_path (place : Location) (tree : FileTree)
    (reached : tree.reach place.way = .ok ()) : tree.find? place.path = some .directory := by
  obtain none | ⟨front, name, parts⟩ := place.parts.eq_nil_or_concat
  · simp [path, none, FileTree.find?]
  · rw [List.concat_eq_append] at parts
    refine FileTree.reach_eq_ok_iff.mp reached _ ?_
    simp [way, path, parts, wayFrom_append]

namespace FileTree

variable {tree : FileTree} {path : Path} {paths : List Path} {place : Location} {name : String}
  {content : Bytes} {mode : Nat} {node : Node} {draft : Path}

/-- A directory is missing behind others that are there, and its name fits. -/
inductive LacksDirectory (tree : FileTree) : List Path → Prop
  | here {path : Path} {rest : List Path} :
      tree.find? path = none → isTooLong path = false → LacksDirectory tree (path :: rest)
  | behind {path : Path} {rest : List Path} :
      tree.find? path = some .directory → LacksDirectory tree rest →
      LacksDirectory tree (path :: rest)

theorem reach_eq_notFound_iff :
    tree.reach paths = .error .notFound ↔ tree.LacksDirectory paths := by
  constructor
  · intro missing
    induction paths with
    | nil => simp [reach] at missing
    | cons path rest ih =>
        simp only [reach, expectDirectory, bind, Except.bind] at missing
        cases found : tree.find? path with
        | none =>
            cases long : isTooLong path with
            | true => simp [found, long] at missing
            | false => exact .here found long
        | some node =>
            cases node with
            | directory => exact .behind found (ih (by simpa [found] using missing))
            | file mode content => simp [found] at missing
  · intro lacks
    induction lacks with
    | here missing short => simp [reach, expectDirectory, missing, short, bind, Except.bind]
    | behind found _ ih => simp [reach, expectDirectory, found, ih, bind, Except.bind]

/-- A file is read exactly if the way to it is open and reading it is not refused. -/
theorem read_eq_ok_iff : tree.read place = .ok content ↔ tree.content? place.path = some content ∧
    tree.reach place.way.dropLast = .ok () ∧ tree.refusal (.read place.path) = none := by
  constructor
  · intro done
    obtain ⟨reached, found⟩ := read_ok done
    refine ⟨found, reached, ?_⟩
    cases refused : tree.refusal (.read place.path) with
    | none => rfl
    | some reason => simp [read, reached, perform, refused, bind, Except.bind] at done
  · rintro ⟨found, reached, allowed⟩
    unfold content? at found
    split at found
    · rename_i stands
      cases found
      simp [read, reached, perform, allowed, attempt, stands, bind, Except.bind, pure, Except.pure]
    · contradiction

/-- A file of a directory is not found exactly if a directory is missing, or if it is missing itself
and its name fits. -/
theorem read_child_eq_notFound_iff (plain : name ≠ "..") :
    tree.read (place.child name) = .error .notFound ↔ tree.LacksDirectory place.way ∨
      tree.reach place.way = .ok () ∧ tree.find? (place.path ++ [name]) = none ∧
        isTooLong (place.path ++ [name]) = false ∧
        tree.refusal (.read (place.path ++ [name])) = none := by
  rw [← reach_eq_notFound_iff, read, Location.way_child, Location.path_child place plain]
  cases reached : tree.reach place.way with
  | error e => simp [bind, Except.bind]
  | ok _ =>
      have there := place.find?_path tree reached
      simp only [bind, Except.bind, perform, reduceCtorEq, false_or, true_and]
      cases refused : tree.refusal (.read (place.path ++ [name])) with
      | some reason => simp
      | none =>
          simp only [attempt, and_true]
          cases found : tree.find? (place.path ++ [name]) with
          | some node => cases node <;> simp [pure, Except.pure]
          | none =>
              cases long : isTooLong (place.path ++ [name]) <;>
                simp [expectRoom, expectDirectory, there, long, bind, Except.bind, pure, Except.pure,
                  throw, throwThe, MonadExceptOf.throw]

theorem ofDigits_padded (width number : Nat) : ofDigits (Calendar.padded width number) = number := by
  rw [Calendar.padded, ofDigits_replicate_append, ofDigits_digits]

theorem draftName_injective (name : String) : Function.Injective (draftName name) := by
  intro first second same
  simp only [draftName, String.append_left_inj, String.append_right_inj, String.ofList_inj] at same
  rw [← ofDigits_padded 8 first, same, ofDigits_padded]

/-- There are more names for drafts than there are entries. -/
theorem exists_free_draft (tree : FileTree) (directory : Path) (name : String) :
    ∃ number ∈ List.range (tree.nodes.length + 1),
      tree.find? (directory ++ [draftName name number]) = none := by
  let drafts := (List.range (tree.nodes.length + 1)).map fun number =>
    directory ++ [draftName name number]
  have distinct : drafts.Nodup := by
    refine List.Nodup.map (fun first second same => draftName_injective name ?_) List.nodup_range
    simpa using same
  refine Decidable.byContradiction fun taken => ?_
  have listed : drafts ⊆ tree.nodes.map Prod.fst := by
    intro path member
    obtain ⟨number, below, rfl⟩ := List.mem_map.mp member
    have stands : tree.find? (directory ++ [draftName name number]) ≠ none :=
      fun free => taken ⟨number, below, free⟩
    have named := List.concat_ne_nil (draftName name number) directory
    unfold find? at stands
    split at stands
    · contradiction
    · exact Assoc.mem_keys_of_find? stands
  have fewer := (distinct.subperm listed).length_le
  simp only [drafts, List.length_map, List.length_range] at fewer
  omega

theorem find?_freshDraft (tree : FileTree) (directory : Path) (name : String) :
    tree.find? (tree.freshDraft directory name) = none := by
  obtain ⟨number, listed, free⟩ := tree.exists_free_draft directory name
  let isFree (number : Nat) := (tree.find? (directory ++ [draftName name number])).isNone
  obtain ⟨first, chosen⟩ : ∃ first, (List.range (tree.nodes.length + 1)).find? isFree = some first :=
    Option.isSome_iff_exists.mp (List.find?_isSome.mpr ⟨number, listed, by simp [isFree, free]⟩)
  have found : isFree first := List.find?_some chosen
  rw [freshDraft, chosen, Option.getD_some]
  exact Option.isNone_iff_eq_none.mp found

theorem performAll_of_reach (willing : tree.refusal = fun _ => none)
    (reached : tree.reach paths = .ok ()) :
    tree.performAll (paths.map .makeDirectory) = (tree, none) := by
  rw [reach_eq_ok_iff] at reached
  induction paths with
  | nil => rfl
  | cons path rest ih =>
      rw [List.forall_mem_cons] at reached
      simp only [List.map_cons, performAll, perform, willing, attempt, reached.1]
      exact ih reached.2

/-- Where all directories are there, none is made. -/
theorem eq_of_performAll_of_reach {opened : FileTree} (reached : tree.reach paths = .ok ())
    (opens : tree.performAll (paths.map .makeDirectory) = (opened, none)) : opened = tree := by
  rw [reach_eq_ok_iff] at reached
  induction paths with
  | nil =>
      cases opens
      rfl
  | cons path rest ih =>
      rw [List.forall_mem_cons] at reached
      simp only [List.map_cons, performAll, perform, attempt, reached.1] at opens
      split at opens
      · rename_i done
        split at done
        · contradiction
        · cases done
          exact ih reached.2 opens
      · cases opens

/-- A directory is there in which a file can have a name. -/
structure HasRoom (tree : FileTree) (directory : Path) (name : String) : Prop where
  there : tree.find? directory = some .directory
  free : tree.find? (directory ++ [name]) ≠ some .directory
  fits : isTooLong (directory ++ [name]) = false

section HasRoom

variable {directory : Path} {draftedAs : String}

theorem HasRoom.expectRoom (room : tree.HasRoom directory name) :
    tree.expectRoom (directory ++ [name]) = .ok () := by
  simp [FileTree.expectRoom, expectDirectory, room.there, room.fits, bind, Except.bind, pure,
    Except.pure]

theorem HasRoom.put (room : tree.HasRoom directory name) (different : draftedAs ≠ name) :
    (tree.put (directory ++ [draftedAs]) node).HasRoom directory name where
  there := by rw [find?_put_other (by simp), room.there]
  free := by
    rw [find?_put_other (by simpa using different.symm)]
    exact room.free
  fits := room.fits

theorem performAll_rename (granted : tree.refusal (.rename draft (directory ++ [name])) = none)
    (stands : tree.find? draft = some node) (room : tree.HasRoom directory name) :
    (tree.performAll [.rename draft (directory ++ [name])]).2 = none := by
  obtain ⟨renamed, done⟩ : ∃ renamed,
      tree.attempt (.rename draft (directory ++ [name])) = .ok renamed := by
    simp only [attempt, stands, room.expectRoom]
    split
    · contradiction
    · exact absurd ‹_› room.free
    · exact ⟨_, rfl⟩
  simp only [performAll, perform, granted, done]

/-- A complete draft takes its place where none of the steps is refused. -/
theorem performAll_finishing (granted : ∀ action ∈
      finishing (directory ++ [draftedAs]) (directory ++ [name]) mode content,
      tree.refusal action = none)
    (stands : tree.find? (directory ++ [draftedAs]) = some (.file privateMode []))
    (room : tree.HasRoom directory name) (different : draftedAs ≠ name) :
    (tree.performAll
      (finishing (directory ++ [draftedAs]) (directory ++ [name]) mode content)).2 = none := by
  have written : (tree.put (directory ++ [draftedAs]) (.file privateMode content)).find?
      (directory ++ [draftedAs]) = some (.file privateMode content) := find?_put_self (by simp)
  have writes : tree.perform (.write (directory ++ [draftedAs]) content) =
      .ok (tree.put (directory ++ [draftedAs]) (.file privateMode content)) := by
    have allowed : tree.refusal (.write (directory ++ [draftedAs]) content) = none :=
      granted _ (by simp [finishing])
    simp only [perform, allowed, attempt, stands]
  have renames : tree.refusal (.rename (directory ++ [draftedAs]) (directory ++ [name])) = none :=
    granted _ (by simp [finishing])
  by_cases plain : mode = privateMode
  · simp only [finishing, plain, if_true, List.append_nil, List.cons_append, List.nil_append]
    rw [performAll_ok writes]
    exact performAll_rename renames written (room.put different)
  · have changes : (tree.put (directory ++ [draftedAs]) (.file privateMode content)).perform
        (.setMode (directory ++ [draftedAs]) mode) = .ok ((tree.put (directory ++ [draftedAs])
          (.file privateMode content)).put (directory ++ [draftedAs]) (.file mode content)) := by
      have allowed : (tree.put (directory ++ [draftedAs]) (.file privateMode content)).refusal
          (.setMode (directory ++ [draftedAs]) mode) = none :=
        granted _ (by simp [finishing, plain])
      simp only [perform, allowed, attempt, written]
    simp only [finishing, plain, if_false, List.cons_append, List.nil_append]
    rw [performAll_ok writes, performAll_ok changes]
    exact performAll_rename renames (find?_put_self (by simp))
      ((room.put different).put different)

section Opened

variable {opened : FileTree}
  (opens : tree.performAll (place.way.map .makeDirectory) = (opened, none))
include opens

/-- A directory that is open takes an entry if none of the steps is refused, no directory stands in the
place of the entry, and the name of the draft fits. -/
theorem replace_of_opened
    (granted : ∀ action ∈ .create (opened.freshDraft place.path name) ::
      finishing (opened.freshDraft place.path name) (place.path ++ [name]) mode content,
      tree.refusal action = none)
    (free : opened.find? (place.path ++ [name]) ≠ some .directory)
    (fits : isTooLong (opened.freshDraft place.path name) = false) :
    (tree.replace place name mode content).2 = none := by
  obtain ⟨spares, reached⟩ := performAll_makeDirectory (fun _ listed => listed) opens
  have there := place.find?_path opened (reached rfl)
  have missing := opened.find?_freshDraft place.path name
  have allowed : ∀ action ∈ _, opened.refusal action = none := spares.refusal ▸ granted
  obtain ⟨number, fresh⟩ := opened.freshDraft_eq place.path name
  rw [List.forall_mem_cons] at allowed
  rw [fresh] at fits missing allowed
  have short : isTooLong (place.path ++ [name]) = false := by
    have size := fits_of_draft fits
    simp only [isTooLong, List.getLast?_concat, Option.getD_some, decide_eq_false_iff_not]
    omega
  have room : opened.HasRoom place.path name := ⟨there, free, short⟩
  have draftRoom : opened.HasRoom place.path (draftName name number) :=
    ⟨there, by simp [missing], fits⟩
  let created := opened.put (place.path ++ [draftName name number]) (.file privateMode [])
  have createdRoom : created.HasRoom place.path name := room.put (draftName_ne name number)
  have finished : (created.performAll (finishing (place.path ++ [draftName name number])
      (place.path ++ [name]) mode content)).2 = none :=
    performAll_finishing allowed.2 (find?_put_self (by simp)) createdRoom (draftName_ne name number)
  simp only [replace, opens, fresh, perform, allowed.1, attempt, draftRoom.expectRoom, missing, bind,
    Except.bind, pure, Except.pure]
  split
  · rfl
  · rename_i ran
    rw [ran] at finished
    contradiction

theorem of_replace_of_opened (stored : (tree.replace place name mode content).2 = none) :
    opened.find? (place.path ++ [name]) ≠ some .directory ∧
      isTooLong (opened.freshDraft place.path name) = false := by
  simp only [replace, opens] at stored
  split at stored
  · contradiction
  · rename_i created step
    obtain ⟨number, fresh⟩ := opened.freshDraft_eq place.path name
    rw [fresh] at step stored ⊢
    obtain ⟨fits, missing, stands, -, -⟩ := drafted_spec opens step
    obtain ⟨-, free, rfl⟩ := attempt_create (attempt_of_perform step)
    refine ⟨fun taken => ?_, fits⟩
    split at stored
    · rename_i finished ran
      have replaces := Replaces.finish stands draft_ne_target ran
      have stays : finished.find? (place.path ++ [name]) = some .directory := by
        apply replaces.spares.directories
        rwa [find?_put_other draft_ne_target.symm]
      rw [(replaces.stored rfl).1] at stays
      cases stays
    · split at stored <;> contradiction

end Opened

/-- Nothing fails in a directory that is there if the name of the draft fits. -/
theorem replace_succeeds (willing : tree.refusal = fun _ => none)
    (reached : tree.reach place.way = .ok ())
    (free : tree.find? (place.path ++ [name]) ≠ some .directory)
    (fits : isTooLong (tree.freshDraft place.path name) = false) :
    (tree.replace place name mode content).2 = none :=
  replace_of_opened (performAll_of_reach willing reached) (fun _ _ => by rw [willing]) free fits

end HasRoom

end FileTree

end AcmeClient
