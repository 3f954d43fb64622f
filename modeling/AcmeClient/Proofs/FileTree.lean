import AcmeClient.FileTree.Basic

/-!
What the steps of a file tree leave alone. Content is stored through a draft, so that apart from the
draft only the entry that is stored changes, and that one only when all steps are carried out.
-/

namespace AcmeClient

namespace Assoc

variable {κ α : Type} [DecidableEq κ] [BEq κ] [LawfulBEq κ] {key other : κ}

theorem find?_filter_other (different : other ≠ key) (entries : List (κ × α)) :
    find? other (entries.filter fun entry => entry.1 != key) = find? other entries := by
  induction entries with
  | nil => rfl
  | cons entry rest ih =>
      by_cases same : entry.1 = key
      · simp [same, find?, Ne.symm different, ih]
      · simp [same, find?, ih]

theorem find?_filter_self (entries : List (κ × α)) :
    find? key (entries.filter fun entry => entry.1 != key) = none := by
  induction entries with
  | nil => rfl
  | cons entry rest ih =>
      by_cases same : entry.1 = key
      · simp [same, ih]
      · simp [same, find?, ih]

omit [BEq κ] [LawfulBEq κ] in
theorem mem_keys_of_find? {entries : List (κ × α)} (found : find? key entries ≠ none) :
    key ∈ entries.map Prod.fst := by
  induction entries with
  | nil => exact absurd rfl found
  | cons entry rest ih =>
      rw [find?] at found
      split at found
      · rename_i same
        simp [same]
      · exact List.mem_cons_of_mem _ (ih found)

end Assoc

namespace Location

variable {name : String}

theorem wayFrom_append (path : Path) (names : List String) (name : String) :
    wayFrom path (names ++ [name]) =
      wayFrom path names ++ [follow (names.foldl follow path) name] := by
  induction names generalizing path with
  | nil => rfl
  | cons first rest ih => simp [wayFrom, ih]

theorem path_child (place : Location) (noWayBack : name ≠ "..") : (place.child name).path = place.path ++ [name] := by
  simp [path, child, follow, noWayBack]

theorem way_child (place : Location) (name : String) : (place.child name).way.dropLast = place.way := by
  simp [way, child, wayFrom_append]

theorem hasNull_child (place : Location) (noNull : '\x00' ∉ name.toList) :
    (place.child name).hasNull = place.hasNull := by
  simp [hasNull, child, noNull]

theorem exists_mem_split {c : Char} (notSlash : c ≠ '/') {text : List Char} :
    (∃ name ∈ split text, c ∈ name) ↔ c ∈ text := by
  induction text using split.induct with
  | case1 => simp [split]
  | case2 rest ih => simp [split, ih, notSlash]
  | case3 first rest different whole ih | case4 first rest different name names whole ih =>
      rw [whole] at ih
      simp [split, whole, ← ih, or_assoc]

theorem hasNull_ofString {written : String} :
    (ofString written).hasNull ↔ '\x00' ∈ written.toList := by
  rw [← exists_mem_split (by decide)]
  simp only [hasNull, ofString, List.any_map, List.any_filter, List.any_eq_true, Function.comp_apply,
    String.toList_ofList, List.contains_iff_mem, Bool.and_eq_true, bne_iff_ne]
  constructor
  · rintro ⟨name, member, -, null⟩
    exact ⟨name, member, null⟩
  · rintro ⟨name, member, null⟩
    refine ⟨name, member, ⟨List.ne_nil_of_mem null, ?_⟩, null⟩
    rintro rfl
    simp at null

theorem split_eq_singleton {text : List Char} (noSlash : '/' ∉ text) : split text = [text] := by
  induction text with
  | nil => rfl
  | cons c rest ih =>
      simp only [List.mem_cons, not_or] at noSlash
      rw [split, ih noSlash.2]
      exact fun slash => noSlash.1 slash.symm

theorem rootOf_eq_empty {text : List Char} (noSlash : '/' ∉ text) : rootOf text = "" := by
  unfold rootOf
  split
  · simp at noSlash
  · simp at noSlash
  · simp at noSlash
  · rfl

/-- A text without slashes is a single name, unless it leads nowhere. -/
theorem ofString_eq_single (noSlash : '/' ∉ name.toList) (some : name ≠ "") (noDot : name ≠ ".") :
    ofString name = ⟨"", [name]⟩ := by
  have filled : name.toList ≠ [] := by simpa using some
  have other : name.toList ≠ ['.'] := fun same => noDot (String.toList_injective same)
  simp [ofString, split_eq_singleton noSlash, rootOf_eq_empty noSlash, filled, other]

end Location

namespace FileTree

variable {tree between after : FileTree} {path other source target draft : Path} {paths : List Path}
  {node : Node} {content : Bytes} {mode : Nat} {e : FileError}

/-- The content of the file at a path, whatever the way to it. -/
def content? (tree : FileTree) (path : Path) : Option Bytes :=
  match tree.find? path with
  | some (.file _ content) => some content
  | _ => none

/-- The mode and the content of the file at a path. -/
def file? (tree : FileTree) (path : Path) : Option (Nat × Bytes) :=
  match tree.find? path with
  | some (.file mode content) => some (mode, content)
  | _ => none

theorem content?_of_find? (found : tree.find? path = some (.file mode content)) :
    tree.content? path = some content := by
  rw [content?, found]

theorem file?_of_find? (found : tree.find? path = some (.file mode content)) :
    tree.file? path = some (mode, content) := by
  rw [file?, found]

theorem content?_eq (tree : FileTree) (path : Path) :
    tree.content? path = (tree.file? path).map Prod.snd := by
  unfold content? file?
  split <;> rfl

theorem named_of_find? (found : tree.find? path ≠ some .directory) : path ≠ [] := by
  rintro rfl
  exact found rfl

theorem find?_put_self (named : path ≠ []) : (tree.put path node).find? path = some node := by
  cases path with
  | nil => contradiction
  | cons first rest => exact Assoc.find?_insert_self _ _ _

theorem find?_put_other (different : other ≠ path) :
    (tree.put path node).find? other = tree.find? other := by
  cases other with
  | nil => rfl
  | cons first rest => exact Assoc.find?_insert_other different _ _

theorem find?_erase_other (different : other ≠ path) :
    (tree.erase path).find? other = tree.find? other := by
  cases other with
  | nil => rfl
  | cons first rest => exact Assoc.find?_filter_other different _

theorem find?_erase_self (named : path ≠ []) : (tree.erase path).find? path = none := by
  cases path with
  | nil => contradiction
  | cons first rest => exact Assoc.find?_filter_self _

theorem file?_put_other (different : other ≠ path) : (tree.put path node).file? other = tree.file? other := by
  rw [file?, file?, find?_put_other different]

theorem file?_erase_other (different : other ≠ path) : (tree.erase path).file? other = tree.file? other := by
  rw [file?, file?, find?_erase_other different]

theorem attempt_of_perform {action : Action} (done : tree.perform action = .ok after) :
    tree.attempt action = .ok after := by
  unfold perform at done
  split at done
  · contradiction
  · exact done

theorem attempt_makeDirectory (made : tree.attempt (.makeDirectory path) = .ok after) :
    tree.find? path = some .directory ∧ after = tree ∨
      tree.find? path = none ∧ after = tree.put path .directory := by
  simp only [attempt] at made
  cases found : tree.find? path with
  | none =>
      cases room : tree.expectRoom path <;>
        simp [found, room, bind, Except.bind, pure, Except.pure] at made
      exact .inr ⟨rfl, made.symm⟩
  | some node =>
      cases node with
      | directory => exact .inl ⟨rfl, by simpa [found] using made.symm⟩
      | file mode content => simp [found] at made

theorem not_isTooLong_of_expectRoom {free : Unit} (room : tree.expectRoom path = .ok free) :
    isTooLong path = false := by
  unfold expectRoom at room
  cases there : tree.expectDirectory path.dropLast <;> cases long : isTooLong path <;>
    simp [there, long, bind, Except.bind, throw, throwThe, MonadExceptOf.throw] at room
  rfl

theorem attempt_create (created : tree.attempt (.create path) = .ok after) :
    isTooLong path = false ∧ tree.find? path = none ∧
      after = tree.put path (.file privateMode []) := by
  simp only [attempt] at created
  cases room : tree.expectRoom path <;> cases found : tree.find? path <;>
    simp [room, found, bind, Except.bind, pure, Except.pure, throw, throwThe,
      MonadExceptOf.throw] at created
  exact ⟨not_isTooLong_of_expectRoom room, rfl, created.symm⟩

theorem attempt_write (written : tree.attempt (.write path content) = .ok after) :
    ∃ mode old, tree.find? path = some (.file mode old) ∧
      after = tree.put path (.file mode content) := by
  simp only [attempt] at written
  cases found : tree.find? path with
  | none => simp [found] at written
  | some node =>
      cases node <;> simp [found] at written
      exact ⟨_, _, rfl, written.symm⟩

theorem attempt_setMode (changed : tree.attempt (.setMode path mode) = .ok after) :
    ∃ old content, tree.find? path = some (.file old content) ∧
      after = tree.put path (.file mode content) := by
  simp only [attempt] at changed
  cases found : tree.find? path with
  | none => simp [found] at changed
  | some node =>
      cases node <;> simp [found] at changed
      exact ⟨_, _, rfl, changed.symm⟩

theorem attempt_rename (renamed : tree.attempt (.rename source target) = .ok after) :
    ∃ node, tree.find? source = some node ∧ tree.find? target ≠ some .directory ∧
      after = (tree.erase source).put target node := by
  simp only [attempt] at renamed
  cases found : tree.find? source with
  | none => simp [found] at renamed
  | some node =>
      have free : tree.find? target ≠ some .directory := by
        intro blocked
        simp [found, blocked] at renamed
      refine ⟨node, rfl, free, ?_⟩
      cases room : tree.expectRoom target <;> cases there : tree.find? target with
      | none =>
          simp [found, there, room, bind, Except.bind, pure, Except.pure] at renamed
          all_goals exact renamed.symm
      | some older =>
          cases older <;>
            simp [found, there, room, bind, Except.bind, pure, Except.pure] at renamed
          all_goals exact renamed.symm

theorem attempt_remove (removed : tree.attempt (.remove path) = .ok after) :
    ∃ mode content, tree.find? path = some (.file mode content) ∧ after = tree.erase path := by
  simp only [attempt] at removed
  cases found : tree.find? path with
  | none => simp [found] at removed
  | some node =>
      cases node <;> simp [found] at removed
      exact ⟨_, _, rfl, removed.symm⟩

/-- Directories stay and only some are made, and so do the files at paths that are not touched. -/
structure Spares (touched made : Path → Prop) (tree after : FileTree) : Prop where
  refusal : after.refusal = tree.refusal
  directories : ∀ path, tree.find? path = some .directory → after.find? path = some .directory
  created : ∀ path, after.find? path = some .directory →
    tree.find? path = some .directory ∨ made path
  files : ∀ path, ¬ touched path → after.file? path = tree.file? path

namespace Spares

variable {touched made further : Path → Prop}

theorem refl (tree : FileTree) : Spares touched made tree tree where
  refusal := rfl
  directories _ found := found
  created _ found := .inl found
  files _ _ := rfl

theorem trans (first : Spares touched made tree between) (second : Spares touched made between after) :
    Spares touched made tree after where
  refusal := second.refusal.trans first.refusal
  directories path found := second.directories path (first.directories path found)
  created path found := by
    obtain there | listed := second.created path found
    · exact first.created path there
    · exact .inr listed
  files path untouched := (second.files path untouched).trans (first.files path untouched)

theorem mono (spares : Spares touched made tree after)
    (wider : ∀ path, touched path → further path) : Spares further made tree after where
  refusal := spares.refusal
  directories := spares.directories
  created := spares.created
  files path untouched := spares.files path (mt (wider path) untouched)

theorem of_none_made (spares : Spares touched (fun _ => False) tree after) :
    Spares touched made tree after where
  refusal := spares.refusal
  directories := spares.directories
  created path found := .inl ((spares.created path found).resolve_right not_false)
  files := spares.files

theorem contents (spares : Spares touched made tree after) (path : Path) (untouched : ¬ touched path) :
    after.content? path = tree.content? path := by
  rw [content?_eq, content?_eq, spares.files path untouched]

/-- Where nothing stands in the end, nothing stood before but what was touched. -/
theorem missing_before (spares : Spares touched made tree after) (untouched : ¬ touched path)
    (missing : after.find? path = none) : tree.find? path = none := by
  have noFile := spares.files path untouched
  cases found : tree.find? path with
  | none => rfl
  | some node =>
      cases node with
      | directory =>
          rw [spares.directories path found] at missing
          contradiction
      | file mode content => simp [file?, missing, found] at noFile

/-- A path at which the same stands in the end was not touched. -/
theorem settle (spares : Spares (fun other => other = path ∨ touched other) made tree after)
    (same : after.find? path = tree.find? path) : Spares touched made tree after where
  refusal := spares.refusal
  directories := spares.directories
  created := spares.created
  files other untouched := by
    by_cases here : other = path
    · rw [here, file?, file?, same]
    · exact spares.files other (by simp [here, untouched])

theorem put (noDirectory : tree.find? path ≠ some .directory) (mode : Nat) (content : Bytes) :
    Spares (· = path) made tree (tree.put path (.file mode content)) where
  refusal := rfl
  directories other found := by
    have different : other ≠ path := by
      rintro rfl
      exact noDirectory found
    rw [find?_put_other different, found]
  created other found := by
    by_cases same : other = path
    · rw [same, find?_put_self (named_of_find? noDirectory)] at found
      simp at found
    · exact .inl (by rwa [find?_put_other same] at found)
  files _ different := file?_put_other different

theorem erase (noDirectory : tree.find? path ≠ some .directory) :
    Spares (· = path) made tree (tree.erase path) where
  refusal := rfl
  directories other found := by
    have different : other ≠ path := by
      rintro rfl
      exact noDirectory found
    rw [find?_erase_other different, found]
  created other found := by
    by_cases same : other = path
    · rw [same, find?_erase_self (named_of_find? noDirectory)] at found
      contradiction
    · exact .inl (by rwa [find?_erase_other same] at found)
  files _ different := file?_erase_other different

theorem makeDirectory (listed : made path)
    (done : tree.attempt (.makeDirectory path) = .ok after) :
    Spares (fun _ => False) made tree after ∧ after.find? path = some .directory := by
  obtain ⟨found, rfl⟩ | ⟨missing, rfl⟩ := attempt_makeDirectory done
  · exact ⟨refl after, found⟩
  · have noDirectory : tree.find? path ≠ some .directory := by simp [missing]
    have there : (tree.put path .directory).find? path = some .directory :=
      find?_put_self (named_of_find? noDirectory)
    have others {other : Path} (different : other ≠ path) :
        (tree.put path .directory).find? other = tree.find? other := find?_put_other different
    refine ⟨⟨rfl, fun other found => ?_, fun other found => ?_, fun other _ => ?_⟩, there⟩ <;>
      by_cases same : other = path
    · rw [same, there]
    · rw [others same, found]
    · exact .inr (same ▸ listed)
    · exact .inl (by rwa [others same] at found)
    · simp [file?, same, there, missing]
    · rw [file?, file?, others same]

end Spares

theorem reach_eq_ok_iff :
    tree.reach paths = .ok () ↔ ∀ path ∈ paths, tree.find? path = some .directory := by
  induction paths with
  | nil => simp [reach]
  | cons path rest ih =>
      simp only [reach, expectDirectory, List.forall_mem_cons, ← ih]
      cases found : tree.find? path with
      | none => simp [bind, Except.bind]
      | some node => cases node <;> simp [bind, Except.bind]

theorem Spares.reach {touched made : Path → Prop} (spares : Spares touched made tree after)
    (reached : tree.reach paths = .ok ()) : after.reach paths = .ok () := by
  rw [reach_eq_ok_iff] at reached ⊢
  exact fun path member => spares.directories path (reached path member)

theorem read_ok {place : Location} (done : tree.read place = .ok content) :
    tree.reach place.way.dropLast = .ok () ∧ tree.content? place.path = some content := by
  unfold read at done
  cases reached : tree.reach place.way.dropLast with
  | error e => simp [reached, bind, Except.bind] at done
  | ok _ =>
      cases step : tree.perform (.read place.path) with
      | error e => simp [reached, step, bind, Except.bind] at done
      | ok next =>
          simp only [reached, step, bind, Except.bind] at done
          split at done
          · rename_i found
            cases done
            exact ⟨rfl, content?_of_find? found⟩
          · contradiction

theorem read_notFound {place : Location} (missing : tree.read place = .error .notFound)
    (reached : tree.reach place.way.dropLast = .ok ()) : tree.content? place.path = none := by
  unfold content?
  cases found : tree.find? place.path with
  | none => rfl
  | some node =>
      cases node with
      | directory => rfl
      | file mode content =>
          simp only [read, reached, perform, bind, Except.bind] at missing
          cases refused : tree.refusal (.read place.path) <;>
            simp [refused, attempt, found, pure, Except.pure] at missing

theorem performAll_ok {action : Action} {actions : List Action}
    (done : tree.perform action = .ok after) :
    tree.performAll (action :: actions) = after.performAll actions := by
  rw [performAll, done]

theorem performAll_singleton (action : Action) :
    tree.performAll [action] =
      match tree.perform action with
      | .ok next => (next, none)
      | .error e => (tree, some e) := by
  rw [performAll]
  cases tree.perform action <;> rfl

theorem performAll_makeDirectory {made : Path → Prop} {failed : Option FileError}
    (listed : ∀ path ∈ paths, made path)
    (done : tree.performAll (paths.map .makeDirectory) = (after, failed)) :
    Spares (fun _ => False) made tree after ∧ (failed = none → after.reach paths = .ok ()) := by
  induction paths generalizing tree with
  | nil =>
      cases done
      exact ⟨.refl _, fun _ => rfl⟩
  | cons path rest ih =>
      simp only [List.map_cons, performAll] at done
      rw [List.forall_mem_cons] at listed
      cases step : tree.perform (.makeDirectory path) with
      | error e =>
          simp only [step] at done
          cases done
          exact ⟨.refl _, by simp⟩
      | ok next =>
          simp only [step] at done
          obtain ⟨made, there⟩ := Spares.makeDirectory listed.1 (attempt_of_perform step)
          obtain ⟨spares, reached⟩ := ih listed.2 done
          refine ⟨made.trans spares, fun complete => ?_⟩
          have later := reach_eq_ok_iff.mp (reached complete)
          rw [reach_eq_ok_iff, List.forall_mem_cons]
          exact ⟨spares.directories path there, later⟩

/-- Where steps with a draft lead that were carried out up to the first that failed: only the draft is
touched, unless nothing failed. Then it has become the target. -/
structure Replaces (draft target : Path) (mode : Nat) (content : Bytes) (failed : Option FileError)
    (tree after : FileTree) : Prop where
  spares : Spares (fun path => path = draft ∨ failed = none ∧ path = target) (fun _ => False) tree after
  stored : failed = none → after.find? target = some (.file mode content) ∧ after.find? draft = none
  drafted : failed ≠ none → ∃ mode content, after.find? draft = some (.file mode content)

namespace Replaces

variable {failed : Option FileError} {old : Nat} {begun : Bytes}

theorem after_spares (first : Spares (· = draft) (fun _ => False) tree between)
    (replaces : Replaces draft target mode content failed between after) :
    Replaces draft target mode content failed tree after where
  spares := (first.mono fun _ same => .inl same).trans replaces.spares
  stored := replaces.stored
  drafted := replaces.drafted

theorem failing (stands : tree.find? draft = some (.file old begun)) :
    Replaces draft target mode content (some e) tree tree where
  spares := .refl tree
  stored := by simp
  drafted _ := ⟨old, begun, stands⟩

theorem rename (found : tree.find? draft = some (.file mode content)) (different : draft ≠ target)
    (done : tree.performAll [.rename draft target] = (after, failed)) :
    Replaces draft target mode content failed tree after := by
  rw [performAll_singleton] at done
  cases step : tree.perform (.rename draft target) with
  | error e =>
      simp only [step] at done
      cases done
      exact failing found
  | ok next =>
      simp only [step] at done
      cases done
      obtain ⟨node, source, free, rfl⟩ := attempt_rename (attempt_of_perform step)
      obtain rfl : node = .file mode content := by simpa [found] using source.symm
      have noDirectory : tree.find? draft ≠ some .directory := by simp [found]
      have named := named_of_find? noDirectory
      have erased : Spares (· = draft) (fun _ => False) tree (tree.erase draft) := .erase noDirectory
      have free : (tree.erase draft).find? target ≠ some .directory := by
        rwa [find?_erase_other different.symm]
      have put : Spares (· = target) (fun _ => False) _ _ := .put free mode content
      exact {
        spares := (erased.mono fun _ same => .inl same).trans
          (put.mono fun _ same => .inr ⟨rfl, same⟩)
        stored := fun _ => by
          rw [find?_put_other different, find?_erase_self named]
          exact ⟨find?_put_self (named_of_find? free), rfl⟩
        drafted := by simp }

/-- A draft that is complete takes the place of the target, and nothing else does. -/
theorem finish (found : tree.find? draft = some (.file privateMode [])) (different : draft ≠ target)
    (done : tree.performAll (finishing draft target mode content) = (after, failed)) :
    Replaces draft target mode content failed tree after := by
  have noDirectory : tree.find? draft ≠ some .directory := by simp [found]
  have named := named_of_find? noDirectory
  simp only [finishing, List.cons_append, List.nil_append, performAll] at done
  cases step : tree.perform (.write draft content) with
  | error e =>
      simp only [step] at done
      cases done
      exact failing found
  | ok written =>
      simp only [step] at done
      obtain ⟨_, _, source, rfl⟩ := attempt_write (attempt_of_perform step)
      obtain ⟨rfl, -⟩ : privateMode = _ ∧ [] = _ := by simpa [found] using source
      have stands : (tree.put draft (.file privateMode content)).find? draft =
          some (.file privateMode content) := find?_put_self named
      refine after_spares (Spares.put noDirectory privateMode content) ?_
      by_cases same : mode = privateMode
      · rw [if_pos same, List.nil_append] at done
        rw [same]
        exact rename stands different done
      · rw [if_neg same, List.cons_append, List.nil_append, performAll] at done
        cases step : (tree.put draft (.file privateMode content)).perform (.setMode draft mode) with
        | error e =>
            simp only [step] at done
            cases done
            exact failing stands
        | ok changed =>
            simp only [step] at done
            obtain ⟨_, kept, source, rfl⟩ := attempt_setMode (attempt_of_perform step)
            obtain rfl : kept = content := by
              simp only [stands, Option.some.injEq, Node.file.injEq] at source
              exact source.2.symm
            refine after_spares (Spares.put (by simp [stands]) mode kept) ?_
            exact rename (find?_put_self named) different done

end Replaces

/-- A draft that failed is gone, unless its removal is refused. -/
theorem Spares.remove {made : Path → Prop} (spares : Spares (· = draft) made tree between)
    (missing : tree.find? draft = none) (stands : between.find? draft = some (.file mode content)) :
    Spares (fun path => path = draft ∧ tree.refusal (.remove path) ≠ none) made tree
      (match between.perform (.remove draft) with
        | .ok cleared => cleared
        | .error _ => between) := by
  have noDirectory : between.find? draft ≠ some .directory := by simp [stands]
  cases refused : tree.refusal (.remove draft) with
  | some reason =>
      rw [perform, spares.refusal, refused]
      refine spares.mono ?_
      rintro path rfl
      exact ⟨rfl, by simp [refused]⟩
  | none =>
      have removed : between.perform (.remove draft) = .ok (between.erase draft) := by
        simp only [perform, spares.refusal, refused, attempt, stands]
      rw [removed]
      refine settle ((spares.trans (.erase noDirectory)).mono fun _ same => .inl same) ?_
      rw [find?_erase_self (named_of_find? noDirectory), missing]

theorem length_le_utf8ByteSize (text : List Char) :
    text.length ≤ (String.ofList text).utf8ByteSize := by
  induction text with
  | nil => exact Nat.zero_le _
  | cons c rest ih =>
      have split : String.ofList (c :: rest) = String.singleton c ++ String.ofList rest := by
        apply String.toList_injective
        simp
      have positive := Char.utf8Size_pos c
      rw [split, String.utf8ByteSize_append, String.utf8ByteSize_singleton, List.length_cons]
      omega

/-- The bytes that a draft's name has at least beyond the name that it is for. -/
def draftExcess : Nat := 13

theorem le_utf8ByteSize_draftName (name : String) (number : Nat) :
    name.utf8ByteSize + draftExcess ≤ (draftName name number).utf8ByteSize := by
  have digits : 8 ≤ (Calendar.padded 8 number).length := by
    simp only [Calendar.padded, List.length_append, List.length_replicate]
    omega
  have size := length_le_utf8ByteSize (Calendar.padded 8 number)
  have point : (".").utf8ByteSize = 1 := rfl
  have ending : (".tmp").utf8ByteSize = 4 := rfl
  simp only [draftName, String.utf8ByteSize_append, point, ending, draftExcess]
  omega

theorem draftName_ne (name : String) (number : Nat) : draftName name number ≠ name := by
  intro same
  have size := le_utf8ByteSize_draftName name number
  rw [same, draftExcess] at size
  omega

theorem freshDraft_eq (tree : FileTree) (directory : Path) (name : String) :
    ∃ number, tree.freshDraft directory name = directory ++ [draftName name number] :=
  ⟨_, rfl⟩

theorem draft_ne_target {directory : Path} {name : String} {number : Nat} :
    directory ++ [draftName name number] ≠ directory ++ [name] := by
  simpa using draftName_ne name number

theorem fits_of_draft {directory : Path} {name : String} {number : Nat}
    (fits : isTooLong (directory ++ [draftName name number]) = false) :
    name.utf8ByteSize + draftExcess ≤ nameLimit := by
  simp only [isTooLong, List.getLast?_append, List.getLast?_singleton, Option.some_or,
    Option.getD_some, decide_eq_false_iff_not, Nat.not_lt] at fits
  exact Nat.le_trans (le_utf8ByteSize_draftName name number) fits

/-- What making room for a draft and creating it leaves. -/
theorem drafted_spec {directory : Location} {created : FileTree}
    (made : tree.performAll (directory.way.map .makeDirectory) = (between, none))
    (step : between.perform (.create draft) = .ok created) :
    isTooLong draft = false ∧ tree.find? draft = none ∧
      created.find? draft = some (.file privateMode []) ∧ created.reach directory.way = .ok () ∧
      Spares (· = draft) (· ∈ directory.way) tree created := by
  obtain ⟨opening, reached⟩ := performAll_makeDirectory (fun _ listed => listed) made
  obtain ⟨fits, missing, rfl⟩ := attempt_create (attempt_of_perform step)
  have noDirectory : between.find? draft ≠ some .directory := by simp [missing]
  have creating : Spares (· = draft) (· ∈ directory.way) between
      (between.put draft (.file privateMode [])) := .put noDirectory _ _
  exact ⟨fits, opening.missing_before not_false missing, find?_put_self (named_of_find? noDirectory),
    creating.reach (reached rfl), (opening.mono fun _ never => never.elim).trans creating⟩

/-- Content that is stored is all that changes, apart from directories on the way to it. -/
theorem replace_ok {directory : Location} {name : String}
    (done : tree.replace directory name mode content = (after, none)) :
    Spares (· = directory.path ++ [name]) (· ∈ directory.way) tree after ∧
      after.find? (directory.path ++ [name]) = some (.file mode content) ∧
      after.reach directory.way = .ok () ∧ name.utf8ByteSize + draftExcess ≤ nameLimit := by
  unfold replace at done
  split at done
  · simp at done
  · rename_i opened made
    obtain ⟨number, fresh⟩ := opened.freshDraft_eq directory.path name
    simp only [fresh] at done
    split at done
    · simp at done
    · rename_i created step
      obtain ⟨fits, missing, stands, reached, drafted⟩ := drafted_spec made step
      split at done
      · rename_i finished ran
        cases done
        have replaces := Replaces.finish stands draft_ne_target ran
        obtain ⟨stored, gone⟩ := replaces.stored rfl
        have whole := (drafted.mono fun _ same => .inl same).trans replaces.spares.of_none_made
        refine ⟨(whole.settle (gone.trans missing.symm)).mono fun _ touched => touched.2, stored,
          replaces.spares.reach reached, fits_of_draft fits⟩
      · split at done <;> simp at done

/-- Where content cannot be stored nothing changes, apart from directories on the way to it. A draft
is left only if its removal is refused. -/
theorem replace_error {directory : Location} {name : String}
    (failed : tree.replace directory name mode content = (after, some e)) :
    Spares (fun path => (∃ number, path = directory.path ++ [draftName name number]) ∧
        tree.refusal (.remove path) ≠ none) (· ∈ directory.way) tree after := by
  unfold replace at failed
  split at failed
  · rename_i stopped other made
    cases failed
    have opening := (performAll_makeDirectory (fun _ listed => listed) made).1
    exact opening.mono fun _ never => never.elim
  · rename_i opened made
    obtain ⟨number, fresh⟩ := opened.freshDraft_eq directory.path name
    simp only [fresh] at failed
    split at failed
    · cases failed
      have opening := (performAll_makeDirectory (fun _ listed => listed) made).1
      exact opening.mono fun _ never => never.elim
    · rename_i created step
      obtain ⟨-, missing, stands, -, drafted⟩ := drafted_spec made step
      split at failed
      · simp at failed
      · rename_i stopped other ran
        have replaces := Replaces.finish stands draft_ne_target ran
        have stopped := drafted.trans
          (replaces.spares.mono fun _ touched => touched.resolve_right (by simp)).of_none_made
        obtain ⟨_, _, stands⟩ := replaces.drafted (by simp)
        have removed := stopped.remove missing stands
        split at failed <;> rename_i removing <;> cases failed <;> rw [removing] at removed <;>
          exact removed.mono fun _ left => ⟨⟨number, left.1⟩, left.2⟩

/-- The root of an empty tree takes an entry if the name of its draft fits. -/
theorem replace_empty {name : String} (fits : name.utf8ByteSize + draftExcess ≤ nameLimit) :
    FileTree.empty.replace ⟨"/", []⟩ name mode content =
      (⟨[([name], .file mode content)], fun _ => none⟩, none) := by
  have number : Calendar.padded 8 0 = "00000000".toList := by decide
  have size : (draftName name 0).utf8ByteSize = name.utf8ByteSize + draftExcess := by
    have digits : ("00000000").utf8ByteSize = 8 := rfl
    have point : (".").utf8ByteSize = 1 := rfl
    have ending : (".tmp").utf8ByteSize = 4 := rfl
    simp only [draftName, number, String.ofList_toList, String.utf8ByteSize_append, digits, point,
      ending, draftExcess]
  have different := draftName_ne name 0
  have draft : FileTree.empty.freshDraft [] name = [draftName name 0] := by
    simp [freshDraft, empty, find?, Assoc.find?]
  have short : isTooLong [draftName name 0] = false := by
    simpa [isTooLong, size] using fits
  have shorter : isTooLong [name] = false := by
    exact decide_eq_false (Nat.not_lt.mpr (Nat.le_trans (Nat.le_add_right _ _) fits))
  have path : Location.path ⟨"/", []⟩ = [] := rfl
  have way : Location.way ⟨"/", []⟩ = [] := rfl
  simp only [replace, path, way, List.map_nil, performAll, draft]
  by_cases same : mode = privateMode <;>
    simp [finishing, performAll, perform, attempt, empty, expectRoom, expectDirectory, find?, Assoc.find?, put,
      erase, Assoc.insert, short, shorter, same, bind, Except.bind, pure, Except.pure, different]

end FileTree

end AcmeClient
