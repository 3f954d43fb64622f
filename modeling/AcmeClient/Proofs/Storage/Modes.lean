import AcmeClient.Proofs.FileTree.Steps
import AcmeClient.Proofs.Storage.Directory

namespace AcmeClient

namespace Storage

open FileTree

variable {place : Location} {first next : FileTree} {ledger : Ledger Operation} {path draft : Path}
  {key : Key} {value content : Bytes} {mode : Nat} {writer : Operation}

/-- A file by the operation that wrote it: one that none wrote is as it was at first, and others are a
draft, where nothing was at first, or an entry. -/
inductive Proper (place : Location) (path : Path) (older : Option (Nat × Bytes)) :
    Option Operation → Option (Nat × Bytes) → Prop
  | untouched : Proper place path older none older
  | draft {key : Key} {value content : Bytes} {mode number : Nat} :
      path = place.path ++ [draftName key.fileName number] → older = none →
      mode = privateMode ∨ mode = modeOf key.kind → content = value ∨ mode = privateMode ∧ content = [] →
      Proper place path older (some (.put key value)) (some (mode, content))
  | entry {key : Key} {value : Bytes} :
      path = entryPath place key →
      Proper place path older (some (.put key value)) (some (modeOf key.kind, value))

/-- All files are proper, compared with those at first. -/
def Guarded (place : Location) (first : FileTree) (ledger : Ledger Operation) : Prop :=
  ∀ path, Proper place path (first.file? path) (ledger.origin path) (ledger.files.file? path)

theorem Proper.of_missing {older : Option (Nat × Bytes)} {origin : Option Operation}
    (proper : Proper place path older origin none) : older = none := by
  generalize missing : (none : Option (Nat × Bytes)) = file at proper
  cases proper with
  | untouched => rfl
  | draft | entry => contradiction

theorem Proper.unwritten {older file : Option (Nat × Bytes)} (proper : Proper place path older none file) :
    file = older := by
  cases proper
  rfl

theorem Proper.written {older file : Option (Nat × Bytes)}
    (proper : Proper place path older (some writer) file) : ∃ key value mode content,
      writer = .put key value ∧ file = some (mode, content) ∧
      (mode = privateMode ∨ mode = modeOf key.kind) ∧ (content = value ∨ mode = privateMode ∧ content = []) ∧
      (path = entryPath place key ∨ ∃ number, path = place.path ++ [draftName key.fileName number]) := by
  cases proper with
  | draft named _ modes contents => exact ⟨_, _, _, _, rfl, rfl, modes, contents, .inr ⟨_, named⟩⟩
  | entry named => exact ⟨_, _, _, _, rfl, rfl, .inr rfl, .inl rfl, .inl named⟩

namespace Guarded

theorem change {after : Ledger Operation} (guarded : Guarded place first ledger) (path : Path)
    (others : ∀ other, other ≠ path → after.origin other = ledger.origin other ∧
      after.files.file? other = ledger.files.file? other)
    (here : Proper place path (first.file? path) (after.origin path) (after.files.file? path)) :
    Guarded place first after := by
  intro other
  by_cases same : other = path
  · rw [same]
    exact here
  · obtain ⟨origin, file⟩ := others other same
    rw [origin, file]
    exact guarded other

theorem put (guarded : Guarded place first ledger) (named : path ≠ [])
    (proper : Proper place path (first.file? path) (some writer) (some (mode, content))) :
    Guarded place first
      ⟨ledger.files.put path (.file mode content), Function.update ledger.origin path (some writer)⟩ := by
  apply guarded.change path
  · intro other different
    exact ⟨Function.update_of_ne different .., file?_put_other different⟩
  · simp only [Function.update_self, file?_of_find? (find?_put_self named)]
    exact proper

theorem erase (guarded : Guarded place first ledger) (named : path ≠ []) (fresh : first.file? path = none) :
    Guarded place first ⟨ledger.files.erase path, Function.update ledger.origin path none⟩ := by
  apply guarded.change path
  · intro other different
    exact ⟨Function.update_of_ne different .., file?_erase_other different⟩
  · have gone : (ledger.files.erase path).file? path = none := by rw [file?, find?_erase_self named]
    simp only [Function.update_self, gone, fresh]
    exact .untouched

theorem makeDirectory (guarded : Guarded place first ledger)
    (made : ledger.files.perform (.makeDirectory path) = .ok next) :
    Guarded place first ⟨next, ledger.origin⟩ := by
  have done := attempt_of_perform made
  have spares : Spares (fun _ => False) (path = ·) ledger.files next := (Spares.makeDirectory rfl done).1
  intro other
  rw [spares.files other not_false]
  exact guarded other

theorem remove (guarded : Guarded place first ledger) (fresh : first.file? path = none)
    (removed : ledger.files.perform (.remove path) = .ok next) :
    Guarded place first ⟨next, Function.update ledger.origin path none⟩ := by
  obtain ⟨mode, content, found, rfl⟩ := attempt_remove (attempt_of_perform removed)
  have named : path ≠ [] := named_of_find? fun root => absurd (found.symm.trans root) (by simp)
  exact guarded.erase named fresh

end Guarded

/-- All files are proper while the draft of an entry has a mode and a content. -/
structure Drafted (place : Location) (first : FileTree) (key : Key) (value : Bytes) (draft : Path)
    (mode : Nat) (content : Bytes) (ledger : Ledger Operation) : Prop where
  guarded : Guarded place first ledger
  named : ∃ number, draft = place.path ++ [draftName key.fileName number]
  fresh : first.file? draft = none
  origin : ledger.origin draft = some (.put key value)
  stands : ledger.files.find? draft = some (.file mode content)

theorem draft_ne_nil {number : Nat} {name : String} : place.path ++ [draftName name number] ≠ [] := by
  simp

theorem Guarded.drafted (guarded : Guarded place first ledger)
    (named : ∃ number, draft = place.path ++ [draftName key.fileName number])
    (fresh : first.file? draft = none) (modes : mode = privateMode ∨ mode = modeOf key.kind)
    (contents : content = value ∨ mode = privateMode ∧ content = []) :
    Drafted place first key value draft mode content
      ⟨ledger.files.put draft (.file mode content),
        Function.update ledger.origin draft (some (.put key value))⟩ := by
  obtain ⟨number, rfl⟩ := named
  exact ⟨guarded.put draft_ne_nil (.draft rfl fresh modes contents), ⟨number, rfl⟩, fresh,
    Function.update_self .., find?_put_self draft_ne_nil⟩

theorem Guarded.fresh_of_create (guarded : Guarded place first ledger)
    (created : ledger.files.perform (.create draft) = .ok next) : first.file? draft = none := by
  obtain ⟨-, missing, -⟩ := attempt_create (attempt_of_perform created)
  have proper := guarded draft
  rw [file?.eq_1 ledger.files, missing] at proper
  exact proper.of_missing

theorem Guarded.create (guarded : Guarded place first ledger)
    (named : ∃ number, draft = place.path ++ [draftName key.fileName number])
    (created : ledger.files.perform (.create draft) = .ok next) :
    Drafted place first key value draft privateMode []
      ⟨next, Function.update ledger.origin draft (some (.put key value))⟩ := by
  have fresh := guarded.fresh_of_create created
  obtain ⟨-, -, rfl⟩ := attempt_create (attempt_of_perform created)
  exact guarded.drafted named fresh (.inl rfl) (.inr ⟨rfl, rfl⟩)

namespace Drafted

theorem write (drafted : Drafted place first key value draft privateMode content ledger)
    (written : ledger.files.perform (.write draft value) = .ok next) :
    Drafted place first key value draft privateMode value
      ⟨next, Function.update ledger.origin draft (some (.put key value))⟩ := by
  obtain ⟨mode, old, found, rfl⟩ := attempt_write (attempt_of_perform written)
  obtain ⟨rfl, -⟩ : privateMode = mode ∧ content = old := by simpa [drafted.stands] using found
  exact drafted.guarded.drafted drafted.named drafted.fresh (.inl rfl) (.inl rfl)

theorem setMode (drafted : Drafted place first key value draft mode value ledger)
    (changed : ledger.files.perform (.setMode draft (modeOf key.kind)) = .ok next) :
    Drafted place first key value draft (modeOf key.kind) value ⟨next, ledger.origin⟩ := by
  obtain ⟨old, content, found, rfl⟩ := attempt_setMode (attempt_of_perform changed)
  obtain ⟨-, rfl⟩ : mode = old ∧ value = content := by simpa [drafted.stands] using found
  have same : Function.update ledger.origin draft (some (.put key value)) = ledger.origin := by
    rw [← drafted.origin, Function.update_eq_self]
  rw [← same]
  exact drafted.guarded.drafted drafted.named drafted.fresh (.inr rfl) (.inl rfl)

/-- The draft takes the place of the entry only when it has its mode and all of its content. -/
theorem rename (drafted : Drafted place first key value draft (modeOf key.kind) value ledger)
    (renamed : ledger.files.perform (.rename draft (entryPath place key)) = .ok next) :
    Guarded place first ⟨next, Function.update (Function.update ledger.origin draft none)
      (entryPath place key) (ledger.origin draft)⟩ := by
  obtain ⟨node, source, -, rfl⟩ := attempt_rename (attempt_of_perform renamed)
  obtain rfl : node = .file (modeOf key.kind) value := by simpa [drafted.stands] using source.symm
  have named : draft ≠ [] := named_of_find? fun root => absurd (drafted.stands.symm.trans root) (by simp)
  rw [drafted.origin]
  exact (drafted.guarded.erase named drafted.fresh).put (by simp [entryPath]) (.entry rfl)

end Drafted

open Ledger

theorem throughout_opening (writer : Operation) (guarded : Guarded place first ledger) (paths : List Path) :
    Throughout (Guarded place first) writer ledger
      (ledger.files.carriedOut (paths.map .makeDirectory)) := by
  induction paths generalizing ledger with
  | nil => exact .nil guarded
  | cons path rest ih => exact .carriedOut_cons guarded fun _ made => ih (guarded.makeDirectory made)

theorem throughout_renaming (drafted : Drafted place first key value draft (modeOf key.kind) value ledger) :
    Throughout (Guarded place first) writer ledger
      (ledger.files.carriedOut [.rename draft (entryPath place key)]) :=
  .carriedOut_single drafted.guarded fun _ renamed => drafted.rename renamed

theorem throughout_finishing (drafted : Drafted place first key value draft privateMode [] ledger) :
    Throughout (Guarded place first) (.put key value) ledger
      (ledger.files.carriedOut (finishing draft (entryPath place key) (modeOf key.kind) value)) := by
  refine .carriedOut_cons drafted.guarded fun _ written => ?_
  have holding := drafted.write written
  by_cases same : modeOf key.kind = privateMode
  -- A key's draft has its mode from the start, so no step changes it.
  · rw [if_pos same]
    exact throughout_renaming (by rwa [same])
  · rw [if_neg same]
    exact .carriedOut_cons holding.guarded fun _ changed => throughout_renaming (holding.setMode changed)

theorem throughout_creating (guarded : Guarded place first ledger)
    (named : ∃ number, draft = place.path ++ [draftName key.fileName number]) :
    Throughout (Guarded place first) (.put key value) ledger
      (ledger.files.carriedOut
        (.create draft :: finishing draft (entryPath place key) (modeOf key.kind) value)) :=
  .carriedOut_cons guarded fun _ created => throughout_finishing (guarded.create named created)

/-- Whatever step fails, all files are proper before and after it. -/
theorem throughout_replacing (guarded : Guarded place first ledger) :
    Throughout (Guarded place first) (.put key value) ledger
      (ledger.files.replacing place key.fileName (modeOf key.kind) value) := by
  have opening := throughout_opening (.put key value) guarded place.way
  have opened := files_leads_carriedOut (.put key value) ledger (place.way.map .makeDirectory)
  have went := ledger.files.replaced place key.fileName (modeOf key.kind) value
  generalize ledger.files.replacing place key.fileName (modeOf key.kind) value = steps at went ⊢
  generalize ledger.files.replace place key.fileName (modeOf key.kind) value = result at went
  cases went with
  | unopened made | uncreated made _ => exact opening
  | finished named made created ran =>
      simp only [made] at opened
      exact opening.append_carriedOut opened fun _ _ guarded => throughout_creating guarded named
  | givenUp named made created ran =>
      simp only [made] at opened
      -- Nothing was at first where the draft was created, so all is proper again once it is removed.
      have fresh := opening.last.fresh_of_create (opened ▸ created)
      apply Throughout.append_carriedOut
      · exact opening.append_carriedOut opened fun _ _ guarded => throughout_creating guarded named
      · rw [files_leads_append opened, performAll_ok created, ran]
      · intro stopped _ guarded
        exact .carriedOut_single guarded fun _ removed => guarded.remove fresh removed

variable {files : FileTree} {call : DirectoryCall} {calls : List DirectoryCall}

/-- The ledger as a call meets it. -/
def DirectoryCall.opens (call : DirectoryCall) (ledger : Ledger Operation) : Ledger Operation :=
  { ledger with files := call.meets ledger.files }

/-- The steps of a call that change files and are carried out. -/
def DirectoryCall.steps (call : DirectoryCall) (place : Location) (files : FileTree) : List Action :=
  match call.operation with
  | .get _ => []
  | .put key value =>
    if place.hasNull then []
    else (call.meets files).replacing place key.fileName (modeOf key.kind) value

/-- The ledgers before, between and after the steps of a call. -/
def DirectoryCall.states (call : DirectoryCall) (place : Location) (ledger : Ledger Operation) :
    List (Ledger Operation) :=
  (call.opens ledger).states call.operation (call.steps place ledger.files)

/-- The ledger that a call leaves. -/
def DirectoryCall.closes (call : DirectoryCall) (place : Location) (ledger : Ledger Operation) :
    Ledger Operation :=
  (call.opens ledger).leads call.operation (call.steps place ledger.files)

/-- The ledger after calls that follow each other, in a directory whose files nobody is known to have
written. -/
def ledgerAfter (place : Location) (files : FileTree) (calls : List DirectoryCall) : Ledger Operation :=
  calls.foldl (fun ledger call => call.closes place ledger) ⟨files, fun _ => none⟩

theorem files_run_put (nameable : place.hasNull = false) (put : call.operation = .put key value) :
    (call.run place files).1 =
      ((call.meets files).replace place key.fileName (modeOf key.kind) value).1 := by
  obtain ⟨operation, refusal⟩ := call
  cases put
  simp only [DirectoryCall.run, perform, put_directory (checkOutage_nil _ _), nameable, Bool.false_eq_true,
    if_false]
  split <;> rename_i replaced <;> rw [replaced]

theorem files_closes (call : DirectoryCall) (place : Location) (ledger : Ledger Operation) :
    (call.closes place ledger).files = (call.run place ledger.files).1 := by
  unfold DirectoryCall.closes DirectoryCall.steps
  cases nameable : place.hasNull with
  | true =>
      rw [run_of_hasNull nameable]
      cases call.operation <;> rfl
  | false =>
      cases operation : call.operation with
      | get key =>
          rw [(reads_of_run ledger.files nameable operation).1]
          rfl
      | put key value =>
          rw [files_run_put nameable operation]
          exact files_leads_replacing ..

theorem files_ledgerAfter : (ledgerAfter place files calls).files = filesAfter place files calls := by
  unfold ledgerAfter filesAfter
  generalize (fun _ => none : Path → Option Operation) = origin
  induction calls generalizing files origin with
  | nil => rfl
  | cons call rest ih =>
      simp only [List.foldl_cons, ← files_closes call place ⟨files, origin⟩]
      exact ih _

theorem guarded_states (guarded : Guarded place first ledger) (call : DirectoryCall) :
    Throughout (Guarded place first) call.operation (call.opens ledger) (call.steps place ledger.files) := by
  have opened : Guarded place first (call.opens ledger) := guarded
  unfold DirectoryCall.steps
  cases call.operation with
  | get key => exact .nil opened
  | put key value =>
      simp only
      split
      · exact .nil opened
      · exact throughout_replacing opened

theorem guarded_ledgerAfter : Guarded place files (ledgerAfter place files calls) := by
  have before : Guarded place files ⟨files, fun _ => none⟩ := fun path => .untouched
  unfold ledgerAfter
  generalize (⟨files, fun _ => none⟩ : Ledger Operation) = ledger at before ⊢
  induction calls generalizing ledger with
  | nil => exact before
  | cons call rest ih => exact ih _ (guarded_states before call).last

/-- What the modes of the files come to, compared with those at first. -/
structure KeepsSecret (place : Location) (first : FileTree) (state : Ledger Operation) : Prop where
  /-- A file that no call wrote is as it was. -/
  older : ∀ path, state.origin path = none → state.files.file? path = first.file? path
  /-- A file that a call wrote is an entry or a draft of one, and holds nothing but its value. -/
  written : ∀ path operation, state.origin path = some operation → ∃ key value mode content,
    operation = .put key value ∧ state.files.file? path = some (mode, content) ∧
      (content = [] ∨ content = value) ∧ (path = entryPath place key ∨
        ∃ number, path = place.path ++ [draftName key.fileName number])
  /-- What is stored as a key is for its owner alone. -/
  keys : ∀ path key value mode content, state.origin path = some (.put key value) →
    key.kind ≠ .certificate → state.files.file? path = some (mode, content) → mode = 0o600
  /-- Only certificates become readable for everyone, in files that are named as such or are drafts. -/
  certificates : ∀ path content, state.files.file? path = some (0o644, content) →
    first.file? path = some (0o644, content) ∧ state.origin path = none ∨
      ∃ key, key.kind = .certificate ∧ state.origin path = some (.put key content) ∧
        (path = entryPath place key ∧ ".crt".toList <:+ key.fileName.toList ∨
          ∃ number, path = place.path ++ [draftName key.fileName number])

theorem modeOf_eq (kind : Kind) : modeOf kind = if kind = .certificate then publicMode else privateMode := by
  cases kind <;> rfl

theorem crt_suffix (certificate : key.kind = .certificate) : ".crt".toList <:+ key.fileName.toList := by
  have own := key.suffix_suffix
  rwa [certificate] at own

theorem Guarded.keepsSecret (guarded : Guarded place first ledger) : KeepsSecret place first ledger := by
  constructor
  · intro path unwritten
    have proper := guarded path
    rw [unwritten] at proper
    exact proper.unwritten
  · intro path writer wrote
    have proper := guarded path
    rw [wrote] at proper
    obtain ⟨key, value, mode, content, put, file, -, contents, named⟩ := proper.written
    exact ⟨key, value, mode, content, put, file, contents.symm.imp_left And.right, named⟩
  · intro path key value mode content wrote other file
    have proper := guarded path
    rw [wrote, file] at proper
    obtain ⟨_, _, _, _, put, same, modes, -⟩ := proper.written
    cases put
    cases same
    rw [modeOf_eq, if_neg other, or_self] at modes
    exact modes
  · intro path content file
    have proper := guarded path
    rw [file] at proper
    cases origin : ledger.origin path with
    | none =>
        rw [origin] at proper
        exact .inl ⟨proper.unwritten.symm, rfl⟩
    | some writer =>
        rw [origin] at proper
        obtain ⟨key, value, mode, whole, rfl, same, modes, contents, named⟩ := proper.written
        cases same
        have complete : content = value := contents.resolve_right fun hidden => absurd hidden.1 (by decide)
        have certificate : key.kind = .certificate := by
          revert modes
          cases key.kind <;> decide
        subst complete
        exact .inr ⟨key, certificate, rfl, named.imp_left fun entry => ⟨entry, crt_suffix certificate⟩⟩

/-- Before, between and after the steps of calls that follow each other, whatever steps fail, files that
hold keys are for their owner alone, and only certificates become readable for everyone. An entry that is
stored has the mode of its kind, whatever mode the file had that was there. -/
theorem modes_of_calls (place : Location) (files : FileTree) (earlier : List DirectoryCall)
    (call : DirectoryCall) :
    let ledger := ledgerAfter place files earlier
    let ran := call.run place (filesAfter place files earlier)
    ledger.files = filesAfter place files earlier ∧
      (call.states place ledger).getLast?.map Ledger.files = some ran.1 ∧
      (∀ state ∈ call.states place ledger, KeepsSecret place files state) ∧
      ∀ key value read, call.operation = .put key value → ran.2 = .ok read →
        ran.1.file? (entryPath place key) =
          some (if key.kind = .certificate then 0o644 else 0o600, value) := by
  intro ledger ran
  have same : ledger.files = filesAfter place files earlier := files_ledgerAfter
  refine ⟨same, ?_, fun state member => ?_, fun key value read operation answered => ?_⟩
  · rw [DirectoryCall.states, getLast?_states, Option.map_some, ← DirectoryCall.closes, files_closes, same]
  · exact (guarded_states guarded_ledgerAfter call state member).keepsSecret
  · have nameable : place.hasNull = false := by
      rw [← Bool.not_eq_true]
      intro unnameable
      simp only [ran, run_of_hasNull unnameable, reduceCtorEq] at answered
    rw [((stores_of_run _ nameable operation).stored read answered).2, if_pos rfl, modeOf_eq]
    rfl

end Storage

end AcmeClient
