import AcmeClient.Proofs.Storage.Entries

namespace AcmeClient.Storage

/-- An access to the storage with what it takes. -/
inductive Operation where
  | get (key : Key)
  | put (key : Key) (value : Bytes)
deriving DecidableEq, Repr

def Operation.key : Operation → Key
  | .get key => key
  | .put key _ => key

variable {α β : Type} {s : Storage} {files : FileTree} {outages : List Outage} {place : Location}
  {key other : Key} {operations : List Operation}

/-- What an operation leaves, and its answer; only reading answers with a value. -/
def perform (s : Storage) : Operation → Storage × Except Failure (Option Bytes)
  | .get key => (s, s.get key)
  | .put key value => ((s.put key value).1, (s.put key value).2.map fun _ => none)

/-- The answers to operations that follow each other. -/
def answers (s : Storage) : List Operation → List (Except Failure (Option Bytes))
  | [] => []
  | operation :: rest => (s.perform operation).2 :: (s.perform operation).1.answers rest

/-- What operations answer where every name keeps the value that was stored last under it. -/
def lastValues [DecidableEq α] (name : Key → α) (kept : α → Option Bytes) :
    List Operation → List (Option Bytes)
  | [] => []
  | .get key :: rest => kept (name key) :: lastValues name kept rest
  | .put key value :: rest =>
    none :: lastValues name (fun other => if other = name key then some value else kept other) rest

/-- Whether the names of an entry's file and of its drafts fit. -/
def Key.Fits (key : Key) : Prop :=
  key.fileName.utf8ByteSize + FileTree.draftExcess ≤ FileTree.nameLimit

/-- A backend answers with the last values if all goes well. -/
theorem answers_eq_lastValues [DecidableEq α] {name : Key → α} {kept : α → Option Bytes}
    (shares : ∀ key other, s.backend.Shares key other ↔ name key = name other)
    (stored : ∀ key, s.held? key = kept (name key))
    (reachable : s.isOpen ∨ ∀ key, s.held? key = none)
    (fine : ∀ failure, .error failure ∉ s.answers operations) :
    s.answers operations = (lastValues name kept operations).map .ok := by
  induction operations generalizing s kept with
  | nil => rfl
  | cons operation rest ih =>
      simp only [answers, List.mem_cons, not_or] at fine
      cases operation with
      | get key =>
          simp only [answers, lastValues, perform, List.map_cons] at fine ⊢
          cases read : s.get key with
          | error failure => exact absurd read.symm (fine failure).1
          | ok answer =>
              have content : s.content? key = s.held? key := by
                rw [content?]
                split
                · rfl
                · rename_i closed
                  rw [reachable.resolve_left closed]
              rw [get_ok read, content, stored]
              rw [ih shares stored reachable fun failure => (fine failure).2]
      | put key value =>
          simp only [answers, lastValues, perform, List.map_cons] at fine ⊢
          cases put : s.put key value with
          | mk after result =>
              rw [put] at fine
              cases result with
              | error failure => exact absurd rfl (fine failure).1
              | ok done =>
                  obtain ⟨opened, same, mine, others⟩ := put_ok put
                  rw [same] at shares
                  rw [ih shares ?_ (.inl opened) fun failure => (fine failure).2]
                  · rfl
                  · intro other
                    by_cases shared : name key = name other
                    · rw [if_pos shared.symm, mine other (by rwa [same, shares])]
                    · rw [if_neg (Ne.symm shared), others other (by rwa [same, shares]), stored]

theorem lastValues_congr [DecidableEq α] [DecidableEq β] {name : Key → α} {other : Key → β}
    {kept : α → Option Bytes} {keptOther : β → Option Bytes}
    (agree : ∀ operation ∈ operations, kept (name operation.key) = keptOther (other operation.key))
    (alike : ∀ key value, .put key value ∈ operations → ∀ operation ∈ operations,
      name operation.key = name key ↔ other operation.key = other key) :
    lastValues name kept operations = lastValues other keptOther operations := by
  induction operations generalizing kept keptOther with
  | nil => rfl
  | cons operation rest ih =>
      have alikeLater (key : Key) (value : Bytes) (stored : .put key value ∈ rest)
          (later : Operation) (member : later ∈ rest) :=
        alike key value (List.mem_cons_of_mem _ stored) later (List.mem_cons_of_mem _ member)
      cases operation with
      | get key =>
          have first := agree (.get key) List.mem_cons_self
          have rest := ih (fun later member => agree later (List.mem_cons_of_mem _ member)) alikeLater
          simp only [lastValues, rest, List.cons.injEq, and_true]
          exact first
      | put key value =>
          simp only [lastValues, List.cons.injEq, true_and]
          refine ih (fun later member => ?_) alikeLater
          have same := alike key value List.mem_cons_self later (List.mem_cons_of_mem _ member)
          by_cases shared : name later.key = name key
          · rw [if_pos shared, if_pos (same.mp shared)]
          · rw [if_neg shared, if_neg (mt same.mpr shared)]
            exact agree later (List.mem_cons_of_mem _ member)

theorem put_stays (place : Location) (files : FileTree) (outages : List Outage) (key : Key)
    (value : Bytes) :
    ∃ later, (put ⟨.directory place, files, outages⟩ key value).1 =
      ⟨.directory place, later, outages⟩ := by
  cases clear : checkOutage ⟨.directory place, files, outages⟩ .put key.kind with
  | error failure => exact ⟨files, by simp [put, clear]⟩
  | ok _ =>
      rw [put_directory clear]
      split
      · exact ⟨files, rfl⟩
      · split <;> exact ⟨_, rfl⟩

theorem fits_of_put_ok {after : Storage} {value : Bytes}
    (stored : put ⟨.directory place, files, outages⟩ key value = (after, .ok ())) : key.Fits := by
  cases clear : checkOutage ⟨.directory place, files, outages⟩ .put key.kind with
  | error failure => simp [put, clear] at stored
  | ok _ =>
      rw [put_directory clear] at stored
      split at stored
      · simp at stored
      · split at stored
        · rename_i replaced
          exact (FileTree.replace_ok replaced).2.2.2
        · simp at stored

theorem fits_of_mem_put {value : Bytes}
    (fine : ∀ failure, .error failure ∉ answers ⟨.directory place, files, outages⟩ operations)
    (member : .put key value ∈ operations) : key.Fits := by
  induction operations generalizing files with
  | nil => simp at member
  | cons operation rest ih =>
      simp only [answers, List.mem_cons, not_or] at fine
      cases operation with
      | get read =>
          rw [List.mem_cons, or_iff_right (by simp)] at member
          exact ih (fun failure => (fine failure).2) member
      | put first content =>
          obtain ⟨later, stays⟩ := put_stays place files outages first content
          simp only [perform, stays] at fine
          rw [List.mem_cons, Operation.put.injEq] at member
          obtain ⟨rfl, rfl⟩ | member := member
          · cases put : Storage.put ⟨.directory place, files, outages⟩ key value with
            | mk after result =>
                rw [put] at fine
                cases result with
                | error failure => exact absurd rfl (fine failure).1
                | ok done => exact fits_of_put_ok put
          · exact ih (fun failure => (fine failure).2) member

theorem isStorage_of_mem_answers {failure : Failure} (nameable : place.hasNull = false)
    (member : .error failure ∈ answers ⟨.directory place, files, outages⟩ operations) :
    failure.IsStorage := by
  have nameable (files : FileTree) : isNameable ⟨.directory place, files, outages⟩ := by
    simpa [isNameable] using nameable
  induction operations generalizing files with
  | nil => simp [answers] at member
  | cons operation rest ih =>
      rw [answers, List.mem_cons] at member
      cases operation with
      | get key =>
          obtain failed | later := member
          · exact get_error (nameable files) failed.symm
          · exact ih later
      | put key value =>
          obtain ⟨later, stays⟩ := put_stays place files outages key value
          simp only [perform, stays] at member
          obtain failed | member := member
          · cases put : Storage.put ⟨.directory place, files, outages⟩ key value with
            | mk after result =>
                rw [put] at failed
                cases result with
                | ok done => cases failed
                | error other =>
                    cases failed
                    exact put_error_isStorage (nameable files) put
          · exact ih member

theorem inMemory_answers (operations : List Operation) :
    inMemory.answers operations = (lastValues id (fun _ => none) operations).map .ok := by
  have fine (entries : List (Key × Bytes)) (failure : Failure) :
      .error failure ∉ answers ⟨.memory entries, .empty, []⟩ operations := by
    induction operations generalizing entries with
    | nil => simp [answers]
    | cons operation rest ih =>
        rw [answers, List.mem_cons, not_or]
        cases operation with
        | get key => exact ⟨by simp [perform, get_memory (checkOutage_nil _ _)], ih entries⟩
        | put key value =>
            rw [perform, put_memory (checkOutage_nil _ _)]
            exact ⟨by simp [Except.map], ih _⟩
  exact answers_eq_lastValues (fun _ _ => Iff.rfl) (fun _ => rfl) (.inl rfl) (fine [])

/-- A directory without entries answers with the values that were stored last under the same file
name. -/
theorem directory_answers
    (empty : ∀ key, held? ⟨.directory place, files, outages⟩ key = none)
    (fine : ∀ failure, .error failure ∉ answers ⟨.directory place, files, outages⟩ operations) :
    answers ⟨.directory place, files, outages⟩ operations =
      (lastValues Key.fileName (fun _ => none) operations).map .ok :=
  answers_eq_lastValues (fun _ _ => Iff.rfl) empty (.inr empty) fine

/-- Where two keys share a file, the value of one is read under the other. -/
theorem answers_of_shared (value : Bytes) (fits : key.Fits)
    (shared : key.fileName = other.fileName) :
    answers ⟨.directory ⟨"/", []⟩, .empty, []⟩ [.put key value, .get other] =
      [.ok none, .ok (some value)] := by
  have stored : put ⟨.directory ⟨"/", []⟩, .empty, []⟩ key value =
      (⟨.directory ⟨"/", []⟩, ⟨[([key.fileName], .file (modeOf key.kind) value)], fun _ => none⟩,
        []⟩, .ok ()) := by
    rw [put_directory (checkOutage_nil _ _), FileTree.replace_empty fits]
    rfl
  have path : Location.path (Location.child ⟨"/", []⟩ other.fileName) = [other.fileName] :=
    Location.path_child _ other.fileName_ne_dots
  have read : FileTree.read ⟨[([key.fileName], .file (modeOf key.kind) value)], fun _ => none⟩
      (Location.child ⟨"/", []⟩ other.fileName) = .ok value := by
    rw [FileTree.read, Location.way_child, path]
    simp [Location.way, Location.wayFrom, FileTree.reach, FileTree.perform, FileTree.attempt,
      FileTree.find?, Assoc.find?, shared, bind, Except.bind, pure, Except.pure]
  have nameable : Location.hasNull ⟨"/", []⟩ = false := rfl
  simp only [answers, perform, stored, get_directory (checkOutage_nil _ _), nameable, read]
  rfl

theorem inMemory_answers_of_ne (value : Bytes) (different : key ≠ other) :
    inMemory.answers [.put key value, .get other] = [.ok none, .ok none] := by
  simp [inMemory_answers, lastValues, Ne.symm different]

/-- A directory answers as memory does, on all runs that keep to some keys and do not fail, exactly if
no two of these keys that can be stored have the same file name. -/
theorem directory_answers_as_memory_iff (keys : Key → Prop) :
    (∀ place files outages operations, place.hasNull = false →
      (∀ key, held? ⟨.directory place, files, outages⟩ key = none) →
      (∀ operation ∈ operations, keys operation.key) →
      (∀ failure, .error failure ∈ answers ⟨.directory place, files, outages⟩ operations →
        ¬ failure.IsStorage) →
      answers ⟨.directory place, files, outages⟩ operations = inMemory.answers operations) ↔
    ∀ key other, keys key → keys other → key.Fits → key.fileName = other.fileName →
      key = other := by
  constructor
  · intro agrees key other listed listedOther fits shared
    refine Decidable.byContradiction fun different => ?_
    have ran := answers_of_shared [] fits shared
    have same := agrees ⟨"/", []⟩ .empty [] [.put key [], .get other] rfl (fun _ => rfl)
      (by simp [Operation.key, listed, listedOther]) (by simp [ran])
    rw [ran, inMemory_answers_of_ne [] different] at same
    simp at same
  · intro distinct place files outages operations nameable empty listed unfailing
    have fine (failure : Failure) :
        .error failure ∉ answers ⟨.directory place, files, outages⟩ operations :=
      fun failed => unfailing failure failed (isStorage_of_mem_answers nameable failed)
    rw [directory_answers empty fine, inMemory_answers]
    congr 1
    refine lastValues_congr (fun _ _ => rfl) fun key value stored operation member => ?_
    have fits := fits_of_mem_put fine stored
    constructor
    · intro shared
      exact (distinct key operation.key (listed _ stored) (listed _ member) fits shared.symm).symm
    · exact fun same => congrArg Key.fileName same

/-- Realms whose addresses differ in a slash and an underscore share the file of their account keys. -/
theorem shared_account_key :
    ¬ ∀ place files outages operations, place.hasNull = false →
      (∀ key, held? ⟨.directory place, files, outages⟩ key = none) →
      (∀ failure, .error failure ∈ answers ⟨.directory place, files, outages⟩ operations →
        ¬ failure.IsStorage) →
      answers ⟨.directory place, files, outages⟩ operations = inMemory.answers operations := by
  intro agrees
  let key : Key := ⟨"joe/acme@example.com", .accountPrivateKey, "acme_account"⟩
  let other : Key := ⟨"joe_acme@example.com", .accountPrivateKey, "acme_account"⟩
  have name : key.fileName = "joe_acme@example.com_account_private_key_acme_account.key" := by
    decide
  have fits : key.Fits := by
    rw [Key.Fits, name]
    decide
  have shared : key.fileName = other.fileName := by decide
  have ran := answers_of_shared [65] fits shared
  have same := agrees ⟨"/", []⟩ .empty [] [.put key [65], .get other] rfl (fun _ => rfl)
    (by simp [ran])
  rw [ran, inMemory_answers_of_ne [65] (by decide)] at same
  simp at same

end AcmeClient.Storage
