import AcmeClient.Proofs.Agreement
import AcmeClient.Proofs.FileTree
import Mathlib.Data.List.Forall2

namespace AcmeClient

namespace Assoc

variable {κ α : Type} {alike : κ → α → α → Prop} {key : κ} {value twin : α}
  {entries others : List (κ × α)}

/-- The same keys stand in the same order, with values that are alike. -/
abbrev Alike (alike : κ → α → α → Prop) : List (κ × α) → List (κ × α) → Prop :=
  List.Forall₂ fun entry other => entry.1 = other.1 ∧ alike entry.1 entry.2 other.2

theorem Alike.refl (same : ∀ key value, alike key value value) (entries : List (κ × α)) :
    Alike alike entries entries :=
  List.forall₂_same.mpr fun entry _ => ⟨rfl, same entry.1 entry.2⟩

theorem Alike.keys (related : Alike alike entries others) :
    others.map Prod.fst = entries.map Prod.fst := by
  induction related with
  | nil => rfl
  | cons pair rest ih => rw [List.map_cons, List.map_cons, ih, pair.1]

theorem Alike.filter (related : Alike alike entries others) (kept : κ → Bool) :
    Alike alike (entries.filter fun entry => kept entry.1) (others.filter fun entry => kept entry.1) := by
  induction related with
  | nil => exact .nil
  | cons pair rest ih =>
      rw [List.filter_cons, List.filter_cons, ← pair.1]
      split
      · exact .cons pair ih
      · exact ih

variable [DecidableEq κ]

theorem Alike.find? (related : Alike alike entries others) (key : κ) :
    Option.Rel (alike key) (Assoc.find? key entries) (Assoc.find? key others) := by
  induction related with
  | nil => exact .none
  | @cons entry other rest others pair related ih =>
      obtain ⟨name, value⟩ := entry
      obtain ⟨named, twin⟩ := other
      obtain ⟨rfl, values⟩ := pair
      simp only [Assoc.find?]
      split
      · rename_i same
        exact .some (same ▸ values)
      · exact ih

theorem Alike.insert (related : Alike alike entries others) (values : alike key value twin) :
    Alike alike (insert key value entries) (insert key twin others) := by
  induction related with
  | nil => exact .cons ⟨rfl, values⟩ .nil
  | @cons entry other rest others pair related ih =>
      obtain ⟨name, value⟩ := entry
      obtain ⟨named, twin⟩ := other
      obtain ⟨rfl, old⟩ := pair
      simp only [Assoc.insert]
      split
      · exact .cons ⟨rfl, values⟩ related
      · exact .cons ⟨rfl, old⟩ ih

end Assoc

variable {hidden : Path → Prop} {secret twin : Bytes} {tree other : FileTree} {path : Path}

/-- The same node stands in both trees, or a hidden file that holds one secret in the first tree and
its twin in the other. -/
inductive Node.Veiled (hidden : Prop) (secret twin : Bytes) : Node → Node → Prop
  | same (node : Node) : Veiled hidden secret twin node node
  | concealed (mode : Nat) : hidden → Veiled hidden secret twin (.file mode secret) (.file mode twin)

/-- The same step in both trees, which moves nothing out of hiding, or one that writes a secret in the
first tree and its twin in the other. -/
inductive Action.Veiled (hidden : Path → Prop) (secret twin : Bytes) : Action → Action → Prop
  | same {action : Action} : (∀ source target, action ≠ .rename source target) →
      Veiled hidden secret twin action action
  | moved {source target : Path} : (hidden source → hidden target) →
      Veiled hidden secret twin (.rename source target) (.rename source target)
  | concealed {path : Path} : hidden path →
      Veiled hidden secret twin (.write path secret) (.write path twin)

namespace FileTree

structure Veiled (hidden : Path → Prop) (secret twin : Bytes) (tree other : FileTree) : Prop where
  refusal : other.refusal = tree.refusal
  /-- A tree that refuses one of the two secrets refuses the other for the same reason. -/
  even : ∀ path, tree.refusal (.write path secret) = tree.refusal (.write path twin)
  nodes : Assoc.Alike (fun path => Node.Veiled (hidden path) secret twin) tree.nodes other.nodes

/-- Whether content is taken depends on how much of it there is, and on nothing else about it. -/
def Fair (tree : FileTree) : Prop :=
  ∀ path content other, content.length = other.length →
    tree.refusal (.write path content) = tree.refusal (.write path other)

theorem Fair.veiled (fair : tree.Fair) (size : secret.length = twin.length) :
    Veiled hidden secret twin tree tree where
  refusal := rfl
  even _ := fair _ _ _ size
  nodes := .refl (fun _ _ => .same _) _

theorem attempt_rename_eq {source target : Path} {node : Node}
    (found : tree.find? source = some node) :
    tree.attempt (.rename source target) =
      if tree.find? target = some .directory then .error .isDirectory
      else tree.expectRoom target >>= fun _ => pure ((tree.erase source).put target node) := by
  simp only [attempt, found]
  split <;> simp_all

namespace Veiled

variable (veiled : Veiled hidden secret twin tree other)

include veiled

/-- The same stands at a path, or something hidden does. -/
theorem find? (path : Path) : other.find? path = tree.find? path ∨
    hidden path ∧ ∃ mode, tree.find? path = some (.file mode secret) ∧
      other.find? path = some (.file mode twin) := by
  cases path with
  | nil => exact .inl rfl
  | cons name rest =>
      have found := veiled.nodes.find? (name :: rest)
      simp only [FileTree.find?]
      generalize Assoc.find? (name :: rest) tree.nodes = first at found ⊢
      generalize Assoc.find? (name :: rest) other.nodes = second at found ⊢
      cases found with
      | none => exact .inl rfl
      | some nodes =>
          cases nodes with
          | same => exact .inl rfl
          | concealed mode isHidden => exact .inr ⟨isHidden, mode, rfl, rfl⟩

theorem expectDirectory (path : Path) : other.expectDirectory path = tree.expectDirectory path := by
  rw [FileTree.expectDirectory, FileTree.expectDirectory]
  obtain same | ⟨-, mode, found, foundToo⟩ := veiled.find? path
  · rw [same]
  · rw [found, foundToo]

theorem reach (way : List Path) : other.reach way = tree.reach way := by
  induction way with
  | nil => rfl
  | cons path rest ih => rw [FileTree.reach, FileTree.reach, veiled.expectDirectory, ih]

theorem expectRoom (path : Path) : other.expectRoom path = tree.expectRoom path := by
  rw [FileTree.expectRoom, FileTree.expectRoom, veiled.expectDirectory]

theorem isNone_find? (path : Path) : (other.find? path).isNone = (tree.find? path).isNone := by
  obtain same | ⟨-, mode, found, foundToo⟩ := veiled.find? path
  · rw [same]
  · rw [found, foundToo]
    rfl

theorem put {node nodeToo : Node} (nodes : Node.Veiled (hidden path) secret twin node nodeToo) :
    Veiled hidden secret twin (tree.put path node) (other.put path nodeToo) where
  refusal := veiled.refusal
  even := veiled.even
  nodes := veiled.nodes.insert nodes

theorem erase (path : Path) : Veiled hidden secret twin (tree.erase path) (other.erase path) where
  refusal := veiled.refusal
  even := veiled.even
  nodes := veiled.nodes.filter fun name => name != path

theorem expectRoom_then {next nextToo : Except FileError FileTree} (path : Path)
    (rest : Agree (Veiled hidden secret twin) next nextToo) :
    Agree (Veiled hidden secret twin) (tree.expectRoom path >>= fun _ => next)
      (other.expectRoom path >>= fun _ => nextToo) := by
  rw [veiled.expectRoom]
  exact (Agree.of_eq rfl).bind fun _ _ _ => rest

theorem attempt_create (path : Path) :
    Agree (Veiled hidden secret twin) (tree.attempt (.create path)) (other.attempt (.create path)) := by
  refine veiled.expectRoom_then path ?_
  obtain same | ⟨-, mode, found, foundToo⟩ := veiled.find? path
  · rw [same]
    cases tree.find? path with
    | none => exact .ok (veiled.put (.same _))
    | some node => exact .error _
  · rw [found, foundToo]
    exact .error _

theorem attempt_makeDirectory (path : Path) : Agree (Veiled hidden secret twin)
    (tree.attempt (.makeDirectory path)) (other.attempt (.makeDirectory path)) := by
  simp only [FileTree.attempt]
  obtain same | ⟨-, mode, found, foundToo⟩ := veiled.find? path
  · rw [same]
    cases tree.find? path with
    | none => exact veiled.expectRoom_then path (.ok (veiled.put (.same _)))
    | some node =>
        cases node with
        | directory => exact .ok veiled
        | file mode content => exact .error _
  · rw [found, foundToo]
    exact .error _

/-- A step that needs a file meets one in both trees or in neither. -/
theorem agree_file {next nextToo : Nat → Bytes → FileTree}
    (same : ∀ mode content, Veiled hidden secret twin (next mode content) (nextToo mode content))
    (concealed : hidden path → ∀ mode, Veiled hidden secret twin (next mode secret) (nextToo mode twin)) :
    Agree (Veiled hidden secret twin)
      (match tree.find? path with
        | some (.file mode content) => Except.ok (next mode content)
        | some .directory => .error FileError.isDirectory
        | none => .error .notFound)
      (match other.find? path with
        | some (.file mode content) => .ok (nextToo mode content)
        | some .directory => .error .isDirectory
        | none => .error .notFound) := by
  obtain equal | ⟨isHidden, mode, found, foundToo⟩ := veiled.find? path
  · rw [equal]
    cases tree.find? path with
    | none => exact .error _
    | some node =>
        cases node with
        | directory => exact .error _
        | file mode content => exact .ok (same mode content)
  · rw [found, foundToo]
    exact .ok (concealed isHidden mode)

theorem attempt_read (path : Path) :
    Agree (Veiled hidden secret twin) (tree.attempt (.read path)) (other.attempt (.read path)) := by
  simp only [FileTree.attempt]
  obtain same | ⟨-, mode, found, foundToo⟩ := veiled.find? path
  · rw [same]
    cases tree.find? path with
    | none => exact veiled.expectRoom_then path (.error _)
    | some node =>
        cases node with
        | directory => exact .error _
        | file mode content => exact .ok veiled
  · rw [found, foundToo]
    exact .ok veiled

theorem find?_eq_directory (path : Path) :
    other.find? path = some .directory ↔ tree.find? path = some .directory := by
  obtain same | ⟨-, mode, found, foundToo⟩ := veiled.find? path
  · rw [same]
  · simp [found, foundToo]

/-- What is moved stands veiled at its new place, where it is hidden if it was before. -/
theorem attempt_rename {source target : Path} (stays : hidden source → hidden target) :
    Agree (Veiled hidden secret twin) (tree.attempt (.rename source target))
      (other.attempt (.rename source target)) := by
  have lands {node nodeToo : Node} (nodes : Node.Veiled (hidden target) secret twin node nodeToo)
      (found : tree.find? source = some node) (foundToo : other.find? source = some nodeToo) :
      Agree (Veiled hidden secret twin) (tree.attempt (.rename source target))
        (other.attempt (.rename source target)) := by
    rw [attempt_rename_eq found, attempt_rename_eq foundToo]
    simp only [veiled.find?_eq_directory]
    split
    · exact .error _
    · exact veiled.expectRoom_then target (.ok ((veiled.erase source).put nodes))
  obtain same | ⟨isHidden, mode, found, foundToo⟩ := veiled.find? source
  · cases found : tree.find? source with
    | none =>
        rw [found] at same
        simp only [FileTree.attempt, found, same]
        exact .error _
    | some node => exact lands (.same node) found (same.trans found)
  · exact lands (.concealed mode (stays isHidden)) found foundToo

/-- One step does the same in both trees. -/
theorem attempt {action actionToo : Action} (steps : action.Veiled hidden secret twin actionToo) :
    Agree (Veiled hidden secret twin) (tree.attempt action) (other.attempt actionToo) := by
  cases steps with
  | concealed isHidden =>
      exact veiled.agree_file (fun mode _ => veiled.put (.concealed mode isHidden))
        fun isHidden mode => veiled.put (.concealed mode isHidden)
  | moved stays => exact veiled.attempt_rename stays
  | same stands =>
      cases action with
      | makeDirectory path => exact veiled.attempt_makeDirectory path
      | create path => exact veiled.attempt_create path
      | write path content =>
          exact veiled.agree_file (fun _ _ => veiled.put (.same _)) fun _ _ => veiled.put (.same _)
      | setMode path mode =>
          exact veiled.agree_file (fun _ _ => veiled.put (.same _))
            fun isHidden _ => veiled.put (.concealed mode isHidden)
      | rename source target => exact absurd rfl (stands source target)
      | remove path => exact veiled.agree_file (fun _ _ => veiled.erase path) fun _ _ => veiled.erase path
      | read path => exact veiled.attempt_read path
      | look path => exact .ok veiled

theorem perform {action actionToo : Action} (steps : action.Veiled hidden secret twin actionToo) :
    Agree (Veiled hidden secret twin) (tree.perform action) (other.perform actionToo) := by
  have refused : other.refusal actionToo = tree.refusal action := by
    rw [veiled.refusal]
    cases steps with
    | same | moved => rfl
    | concealed => exact (veiled.even _).symm
  rw [FileTree.perform, FileTree.perform, refused]
  cases tree.refusal action with
  | some reason => exact .error _
  | none => exact veiled.attempt steps

/-- Runs of steps stop at the same step with the same failure, or not at all. -/
theorem performAll {actions actionsToo : List Action}
    (steps : List.Forall₂ (Action.Veiled hidden secret twin) actions actionsToo) :
    ∃ after afterToo failed, tree.performAll actions = (after, failed) ∧
      other.performAll actionsToo = (afterToo, failed) ∧ Veiled hidden secret twin after afterToo := by
  induction steps generalizing tree other with
  | nil => exact ⟨_, _, _, rfl, rfl, veiled⟩
  | cons step rest ih =>
      rw [FileTree.performAll, FileTree.performAll]
      obtain ⟨e, done, doneToo⟩ | ⟨next, nextToo, done, doneToo, related⟩ :=
        (veiled.perform step).cases <;>
        rw [done, doneToo]
      · exact ⟨_, _, _, rfl, rfl, veiled⟩
      · exact ih related

theorem freshDraft (directory : Path) (name : String) :
    other.freshDraft directory name = tree.freshDraft directory name := by
  have count : other.nodes.length = tree.nodes.length := veiled.nodes.length_eq.symm
  simp only [FileTree.freshDraft, veiled.isNone_find?, count]

theorem performAll_makeDirectory (paths : List Path) :
    ∃ after afterToo failed, tree.performAll (paths.map .makeDirectory) = (after, failed) ∧
      other.performAll (paths.map .makeDirectory) = (afterToo, failed) ∧
      Veiled hidden secret twin after afterToo := by
  refine veiled.performAll (List.forall₂_same.mpr fun action member => ?_)
  obtain ⟨path, -, rfl⟩ := List.mem_map.mp member
  exact .same (by simp)

theorem performAll_finishing {draft target : Path} (mode : Nat) (isHidden : hidden draft)
    (entry : hidden target) :
    ∃ after afterToo failed, tree.performAll (finishing draft target mode secret) = (after, failed) ∧
      other.performAll (finishing draft target mode twin) = (afterToo, failed) ∧
      Veiled hidden secret twin after afterToo := by
  have moves : Action.Veiled hidden secret twin (.rename draft target) (.rename draft target) :=
    .moved fun _ => entry
  refine veiled.performAll (.cons (.concealed isHidden) ?_)
  split
  · exact .cons moves .nil
  · exact .cons (.same (by simp)) (.cons moves .nil)

/-- One secret takes the place of an entry as its twin does, and what is left of drafts is hidden too. -/
theorem replace {directory : Location} {name : String} (mode : Nat)
    (entry : hidden (directory.path ++ [name]))
    (drafts : ∀ number, hidden (directory.path ++ [draftName name number])) :
    ∃ after afterToo failed, tree.replace directory name mode secret = (after, failed) ∧
      other.replace directory name mode twin = (afterToo, failed) ∧
      Veiled hidden secret twin after afterToo := by
  obtain ⟨left, right, failed, ran, ranToo, opened⟩ := veiled.performAll_makeDirectory directory.way
  rw [FileTree.replace, FileTree.replace, ran, ranToo]
  cases failed with
  | some e => exact ⟨_, _, _, rfl, rfl, opened⟩
  | none =>
      have isHidden : hidden (left.freshDraft directory.path name) := drafts _
      dsimp only
      rw [opened.freshDraft]
      generalize left.freshDraft directory.path name = draft at isHidden
      have creates := opened.perform (.same (by simp) : Action.Veiled _ _ _ (.create draft) _)
      obtain ⟨e, ran, ranToo⟩ | ⟨made, madeToo, ran, ranToo, created⟩ := creates.cases <;>
        rw [ran, ranToo]
      · exact ⟨_, _, _, rfl, rfl, opened⟩
      obtain ⟨left, right, failed, ran, ranToo, stopped⟩ :=
        created.performAll_finishing mode isHidden entry
      dsimp only
      rw [ran, ranToo]
      cases failed with
      | none => exact ⟨_, _, _, rfl, rfl, stopped⟩
      | some e =>
          have removes := stopped.perform (.same (by simp) : Action.Veiled _ _ _ (.remove draft) _)
          obtain ⟨_, ran, ranToo⟩ | ⟨_, _, ran, ranToo, cleared⟩ := removes.cases <;>
            dsimp only <;> rw [ran, ranToo]
          · exact ⟨_, _, _, rfl, rfl, stopped⟩
          · exact ⟨_, _, _, rfl, rfl, cleared⟩

/-- Where nothing is hidden, the same is read. -/
theorem read {place : Location} (plain : ¬ hidden place.path) : other.read place = tree.read place := by
  have step : Agree (Veiled hidden secret twin) (tree.perform (.read place.path))
      (other.perform (.read place.path)) := veiled.perform (.same (by simp))
  have found : other.find? place.path = tree.find? place.path :=
    (veiled.find? place.path).resolve_right fun concealed => plain concealed.1
  rw [FileTree.read, FileTree.read, veiled.reach, found]
  exact ((Agree.of_eq rfl).bind fun _ _ _ => step.bind fun _ _ _ => .of_eq rfl).eq.symm

end Veiled

end FileTree

end AcmeClient
