import AcmeClient.Proofs.FileTree
import Mathlib.Logic.Function.Basic

namespace AcmeClient

namespace FileTree

variable {α : Type} {tree next after : FileTree} {action : Action} {actions : List Action}

/-- The steps of a list that are carried out, which are those before the first that fails. -/
def carriedOut (tree : FileTree) : List Action → List Action
  | [] => []
  | action :: rest =>
    match tree.perform action with
    | .ok next => action :: next.carriedOut rest
    | .error _ => []

/-- The steps that are carried out when content is stored under a name. -/
def replacing (tree : FileTree) (directory : Location) (name : String) (mode : Nat) (content : Bytes) :
    List Action :=
  let opening := directory.way.map .makeDirectory
  tree.carriedOut opening ++
    match tree.performAll opening with
    | (_, some _) => []
    | (opened, none) =>
      let draft := opened.freshDraft directory.path name
      match opened.perform (.create draft) with
      | .error _ => []
      | .ok created =>
        let finish := finishing draft (directory.path ++ [name]) mode content
        .create draft :: created.carriedOut finish ++
          match created.performAll finish with
          | (_, none) => []
          | (stopped, some _) => stopped.carriedOut [.remove draft]

theorem carriedOut_ok (done : tree.perform action = .ok next) :
    tree.carriedOut (action :: actions) = action :: next.carriedOut actions := by
  rw [carriedOut, done]

theorem carriedOut_error {e : FileError} (failed : tree.perform action = .error e) :
    tree.carriedOut (action :: actions) = [] := by
  rw [carriedOut, failed]

/-- How storing content goes: the steps that are carried out, and what they come to. -/
inductive Replaced (tree : FileTree) (directory : Location) (name : String) (mode : Nat)
    (content : Bytes) : List Action → FileTree × Option FileError → Prop
  | unopened {opened : FileTree} {e : FileError} :
      tree.performAll (directory.way.map .makeDirectory) = (opened, some e) →
      Replaced tree directory name mode content (tree.carriedOut (directory.way.map .makeDirectory))
        (opened, some e)
  | uncreated {opened : FileTree} {draft : Path} {e : FileError} :
      tree.performAll (directory.way.map .makeDirectory) = (opened, none) →
      opened.perform (.create draft) = .error e →
      Replaced tree directory name mode content (tree.carriedOut (directory.way.map .makeDirectory))
        (opened, some e)
  | finished {opened created after : FileTree} {draft : Path} :
      (∃ number, draft = directory.path ++ [draftName name number]) →
      tree.performAll (directory.way.map .makeDirectory) = (opened, none) →
      opened.perform (.create draft) = .ok created →
      created.performAll (finishing draft (directory.path ++ [name]) mode content) = (after, none) →
      Replaced tree directory name mode content
        (tree.carriedOut (directory.way.map .makeDirectory) ++
          opened.carriedOut (.create draft :: finishing draft (directory.path ++ [name]) mode content))
        (after, none)
  | givenUp {opened created stopped : FileTree} {draft : Path} {e : FileError} :
      (∃ number, draft = directory.path ++ [draftName name number]) →
      tree.performAll (directory.way.map .makeDirectory) = (opened, none) →
      opened.perform (.create draft) = .ok created →
      created.performAll (finishing draft (directory.path ++ [name]) mode content) = (stopped, some e) →
      Replaced tree directory name mode content
        (tree.carriedOut (directory.way.map .makeDirectory) ++
          opened.carriedOut (.create draft :: finishing draft (directory.path ++ [name]) mode content) ++
          stopped.carriedOut [.remove draft])
        ((stopped.performAll [.remove draft]).1, some e)

theorem replaced (tree : FileTree) (directory : Location) (name : String) (mode : Nat) (content : Bytes) :
    Replaced tree directory name mode content (tree.replacing directory name mode content)
      (tree.replace directory name mode content) := by
  unfold replacing replace
  cases made : tree.performAll (directory.way.map .makeDirectory) with
  | mk opened failed =>
      cases failed with
      | some e => simpa only [made, List.append_nil] using Replaced.unopened made
      | none =>
          have named := opened.freshDraft_eq directory.path name
          generalize drafted : opened.freshDraft directory.path name = draft at named
          simp only [made, drafted]
          cases created : opened.perform (.create draft) with
          | error e => simpa only [List.append_nil] using Replaced.uncreated made created
          | ok next =>
              simp only
              cases ran : next.performAll (finishing draft (directory.path ++ [name]) mode content) with
              | mk stopped failed =>
                  cases failed with
                  | none =>
                      have done := Replaced.finished named made created ran
                      rw [carriedOut_ok created] at done
                      simpa only [ran, List.append_nil] using done
                  | some e =>
                      have given := Replaced.givenUp named made created ran
                      rw [carriedOut_ok created, performAll_singleton, List.append_assoc] at given
                      cases cleared : stopped.perform (.remove draft) <;>
                        simpa only [ran, cleared] using given

/-- Files, and who wrote the one at each path. -/
structure Ledger (α : Type) where
  files : FileTree
  origin : Path → Option α

namespace Ledger

variable {writer : α} {ledger : Ledger α} {holds : Ledger α → Prop} {path : Path}

/-- Who wrote the files after a step of somebody. -/
def originsAfter (writer : α) (origin : Path → Option α) : Action → Path → Option α
  | .create path | .write path _ => Function.update origin path (some writer)
  | .rename source target =>
    Function.update (Function.update origin source none) target (origin source)
  | .remove path => Function.update origin path none
  | .makeDirectory _ | .setMode .. | .read _ | .look _ => origin

/-- A step of somebody. One that fails changes nothing. -/
def step (writer : α) (ledger : Ledger α) (action : Action) : Ledger α :=
  match ledger.files.perform action with
  | .ok files => ⟨files, originsAfter writer ledger.origin action⟩
  | .error _ => ledger

/-- The ledgers before, between and after the steps of somebody. -/
def states (writer : α) (ledger : Ledger α) : List Action → List (Ledger α)
  | [] => [ledger]
  | action :: rest => ledger :: states writer (ledger.step writer action) rest

/-- The ledger after the steps of somebody. -/
def leads (writer : α) (ledger : Ledger α) (actions : List Action) : Ledger α :=
  actions.foldl (step writer) ledger

theorem step_ok (done : ledger.files.perform action = .ok next) :
    ledger.step writer action = ⟨next, originsAfter writer ledger.origin action⟩ := by
  rw [step, done]

theorem leads_append (first second : List Action) :
    ledger.leads writer (first ++ second) = (ledger.leads writer first).leads writer second :=
  List.foldl_append ..

theorem getLast?_states : (ledger.states writer actions).getLast? = some (ledger.leads writer actions) := by
  induction actions generalizing ledger with
  | nil => rfl
  | cons action rest ih =>
      rw [states, List.getLast?_cons, ih]
      rfl

/-- Something holds before, between and after the steps of somebody. -/
def Throughout (holds : Ledger α → Prop) (writer : α) (ledger : Ledger α) (actions : List Action) : Prop :=
  ∀ state ∈ ledger.states writer actions, holds state

namespace Throughout

theorem nil (before : holds ledger) : Throughout holds writer ledger [] := by
  simpa [Throughout, states] using before

theorem last (throughout : Throughout holds writer ledger actions) : holds (ledger.leads writer actions) :=
  throughout _ (List.mem_of_getLast? getLast?_states)

theorem append {first second : List Action} (before : Throughout holds writer ledger first)
    (later : Throughout holds writer (ledger.leads writer first) second) :
    Throughout holds writer ledger (first ++ second) := by
  induction first generalizing ledger with
  | nil => exact later
  | cons action rest ih =>
      simp only [Throughout, states, List.cons_append, List.forall_mem_cons] at before ⊢
      exact ⟨before.1, ih before.2 later⟩

/-- Other steps follow where the first ones have led. -/
theorem append_carriedOut {first : List Action} (before : Throughout holds writer ledger first)
    (reached : (ledger.leads writer first).files = tree)
    (later : ∀ mid : Ledger α, mid.files = tree → holds mid →
      Throughout holds writer mid (mid.files.carriedOut actions)) :
    Throughout holds writer ledger (first ++ tree.carriedOut actions) := by
  apply before.append
  rw [← reached]
  exact later _ reached before.last

/-- A step that fails is the last one, and after one that does not the others follow. -/
theorem carriedOut_cons (before : holds ledger)
    (later : ∀ next, ledger.files.perform action = .ok next →
      Throughout holds writer ⟨next, originsAfter writer ledger.origin action⟩ (next.carriedOut actions)) :
    Throughout holds writer ledger (ledger.files.carriedOut (action :: actions)) := by
  cases done : ledger.files.perform action with
  | error e =>
      rw [carriedOut_error done]
      exact nil before
  | ok next =>
      rw [carriedOut_ok done]
      simp only [Throughout, states, List.forall_mem_cons, step_ok done]
      exact ⟨before, later next done⟩

theorem carriedOut_single (before : holds ledger)
    (later : ∀ next, ledger.files.perform action = .ok next →
      holds ⟨next, originsAfter writer ledger.origin action⟩) :
    Throughout holds writer ledger (ledger.files.carriedOut [action]) :=
  carriedOut_cons before fun next done => nil (later next done)

end Throughout

theorem files_leads_carriedOut (writer : α) (ledger : Ledger α) (actions : List Action) :
    (ledger.leads writer (ledger.files.carriedOut actions)).files = (ledger.files.performAll actions).1 := by
  induction actions generalizing ledger with
  | nil => rfl
  | cons action rest ih =>
      cases done : ledger.files.perform action with
      | error e =>
          rw [carriedOut_error done, performAll, done]
          rfl
      | ok next =>
          rw [carriedOut_ok done, performAll, done, leads, List.foldl_cons, step_ok done]
          exact ih ⟨next, _⟩

theorem files_leads_append (reached : (ledger.leads writer actions).files = tree) (later : List Action) :
    (ledger.leads writer (actions ++ tree.carriedOut later)).files = (tree.performAll later).1 := by
  rw [leads_append, ← reached]
  exact files_leads_carriedOut _ _ later

/-- The steps of storing lead to the files that are left. -/
theorem files_leads_replacing (ledger : Ledger α) (directory : Location) (name : String) (mode : Nat)
    (content : Bytes) :
    (ledger.leads writer (ledger.files.replacing directory name mode content)).files =
      (ledger.files.replace directory name mode content).1 := by
  have opening := files_leads_carriedOut writer ledger (directory.way.map .makeDirectory)
  have went := ledger.files.replaced directory name mode content
  generalize ledger.files.replacing directory name mode content = steps at went ⊢
  generalize ledger.files.replace directory name mode content = result at went ⊢
  cases went with
  | unopened made | uncreated made _ => rw [opening, made]
  | finished _ made created ran =>
      rw [made] at opening
      rw [files_leads_append opening, performAll_ok created, ran]
  | givenUp _ made created ran =>
      rw [made] at opening
      apply files_leads_append
      rw [files_leads_append opening, performAll_ok created, ran]

end Ledger

end FileTree

end AcmeClient
