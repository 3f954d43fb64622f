import AcmeClient.Client.World

namespace AcmeClient

variable {α β : Type}

namespace World

/-- What the request after `count` further ones would meet. -/
def replyAfter (world : World) (count : Nat) : Reply :=
  world.replies.getD count (.error world.silence)

/-- What a request would meet now. -/
def nextReply (world : World) : Reply := world.replyAfter 0

/-- What the log says of what a request would meet now. -/
def replyLines (world : World) (call : Call) : List Logging.Record :=
  match world.nextReply with
  | .ok response =>
    if world.tellsRefusals && !response.isOk then
      [{ level := Logging.Level.debug
         logger := "acmelib.transport"
         template := Transport.refusalLine call.method call.url response.status
         created := world.clock }]
    else []
  | .error _ => []

/-- The world after a request. -/
def sent (world : World) (call : Call) : World :=
  { world with
    calls := world.calls ++ [call]
    replies := world.replies.tail
    records := world.records ++ world.replyLines call }

/-- The world after a line of the log. -/
def told (world : World) (level : Int) (logger message : String) : World :=
  { world with
    records := world.records ++ [{ level, logger, template := message, created := world.clock }] }

@[simp] theorem told_nextReply (world : World) (level : Int) (logger message : String) :
    (world.told level logger message).nextReply = world.nextReply := rfl

end World

/-- Requests in order, each with what it met. -/
abbrev Transcript := List (Call × Reply)

/-- What happened between two worlds is these exchanges: each request met the reply whose turn it
was. -/
structure Exchanged (world after : World) (transcript : Transcript) : Prop where
  calls : after.calls = world.calls ++ transcript.map Prod.fst
  replies : ∀ i (inside : i < transcript.length), transcript[i].2 = world.replyAfter i
  later : ∀ count, after.replyAfter count = world.replyAfter (transcript.length + count)

namespace Exchanged

variable {world between after : World} {first second : Transcript}

theorem silent (calls : after.calls = world.calls) (replies : after.replies = world.replies)
    (silence : after.silence = world.silence) : Exchanged world after [] where
  calls := by simp [calls]
  replies := by simp
  later count := by simp [World.replyAfter, replies, silence]

theorem sent (world : World) (call : Call) :
    Exchanged world (world.sent call) [(call, world.nextReply)] where
  calls := rfl
  replies i inside := by
    have first : i = 0 := by simpa using inside
    subst first
    rfl
  later count := by
    cases count <;> simp [World.sent, World.replyAfter, List.getD_eq_getElem?_getD, Nat.add_comm]

theorem told (world : World) (level : Int) (logger message : String) :
    Exchanged world (world.told level logger message) [] :=
  silent rfl rfl rfl

theorem trans (before : Exchanged world between first) (next : Exchanged between after second) :
    Exchanged world after (first ++ second) where
  calls := by rw [next.calls, before.calls, List.map_append, List.append_assoc]
  replies i inside := by
    by_cases early : i < first.length
    · rw [List.getElem_append_left early, before.replies i early]
    · rw [List.length_append] at inside
      rw [List.getElem_append_right (by omega), next.replies _ (by omega), before.later]
      congr 1
      omega
  later count := by
    rw [next.later, before.later, List.length_append, Nat.add_assoc]

end Exchanged

namespace Client

/-- What a computation comes to in a world, and the world that it leaves. -/
def outcome (action : Client α) (world : World) : Except Failure α × World := action.run.run world

@[simp] theorem outcome_pure (value : α) (world : World) :
    outcome (pure value) world = (.ok value, world) := rfl

@[simp] theorem outcome_throw (failure : Failure) (world : World) :
    outcome (throw failure : Client α) world = (.error failure, world) := rfl

@[simp] theorem outcome_ofExcept (result : Except Failure α) (world : World) :
    outcome (ofExcept result) world = (result, world) := by
  cases result <;> rfl

theorem outcome_bind (action : Client α) (next : α → Client β) (world : World) :
    outcome (action >>= next) world =
      match outcome action world with
      | (.ok value, after) => outcome (next value) after
      | (.error failure, after) => (.error failure, after) := by
  simp only [outcome, ExceptT.run_bind, StateT.run_bind]
  generalize action.run.run world = result
  obtain ⟨result, after⟩ := result
  cases result <;> rfl

theorem outcome_bind_ok {action : Client α} {next : α → Client β} {world after : World} {value : α}
    (done : outcome action world = (.ok value, after)) :
    outcome (action >>= next) world = outcome (next value) after := by
  rw [outcome_bind, done]

theorem outcome_bind_error {action : Client α} {next : α → Client β} {world after : World}
    {failure : Failure} (failed : outcome action world = (.error failure, after)) :
    outcome (action >>= next) world = (.error failure, after) := by
  rw [outcome_bind, failed]

theorem outcome_bind_eq_ok {action : Client α} {next : α → Client β} {world after : World} {result : β}
    (done : outcome (action >>= next) world = (.ok result, after)) :
    ∃ value between, outcome action world = (.ok value, between) ∧
      outcome (next value) between = (.ok result, after) := by
  rw [outcome_bind] at done
  cases ran : outcome action world with
  | mk first between =>
      cases first with
      | error failure => simp [ran] at done
      | ok value => exact ⟨value, between, rfl, by simpa only [ran] using done⟩

theorem outcome_bind_pure (action : Client α) (made : α → β) (world : World) :
    outcome (action >>= fun value => pure (made value)) world =
      ((outcome action world).1.map made, (outcome action world).2) := by
  rw [outcome_bind]
  cases ran : outcome action world with
  | mk result after => cases result <;> rfl

@[simp] theorem outcome_get (world : World) :
    outcome (get : Client World) world = (.ok world, world) := rfl

@[simp] theorem outcome_set (next world : World) :
    outcome (set next : Client PUnit) world = (.ok ⟨⟩, next) := rfl

@[simp] theorem outcome_debug (logger message : String) (world : World) :
    outcome (debug logger message) world =
      (.ok (), world.told Logging.Level.debug logger message) := rfl

@[simp] theorem outcome_info (logger message : String) (world : World) :
    outcome (info logger message) world =
      (.ok (), world.told Logging.Level.info logger message) := rfl

/-- Whatever comes of a request, it has been made, and its reply is used up. -/
@[simp] theorem outcome_send (call : Call) (world : World) :
    outcome (send call) world = (world.nextReply, world.sent call) := by
  rw [send, outcome_bind, outcome_get]
  cases replies : world.replies with
  | nil =>
      have met : world.nextReply = .error world.silence := by
        simp only [World.nextReply, World.replyAfter, replies, List.getD_nil]
      simp only [outcome_bind, outcome_set, outcome_throw, World.sent, World.replyLines, met, replies,
        List.append_nil]
      rfl
  | cons reply rest =>
      have met : world.nextReply = reply := by
        simp only [World.nextReply, World.replyAfter, replies, List.getD_cons_zero]
      cases reply with
      | error failure =>
          simp only [outcome_bind, outcome_set, outcome_throw, World.sent, World.replyLines, met, replies,
            List.append_nil]
          rfl
      | ok response =>
          simp only [outcome_bind, outcome_set, World.sent, World.replyLines, met, replies]
          split
          · rfl
          · simp only [outcome_pure, List.append_nil]
            rfl

@[simp] theorem outcome_generateKey (world : World) :
    outcome generateKey world =
      (.ok (world.keySource world.generated), { world with generated := world.generated + 1 }) := rfl

@[simp] theorem outcome_readEntry (key : Storage.Key) (world : World) :
    outcome (readEntry key) world = (world.storage.get key, world) := by
  rw [readEntry, outcome_bind, outcome_get]
  cases read : world.storage.get key <;> simp [read]

theorem outcome_writeEntry_ok {key : Storage.Key} {value : Bytes} {world : World} {storage : Storage}
    (stored : world.storage.put key value = (storage, .ok ())) :
    ∃ records, outcome (writeEntry key value) world = (.ok (), { world with storage, records }) := by
  rw [writeEntry, outcome_bind, outcome_get]
  simp only [stored, outcome_bind, outcome_set]
  by_cases files : storage.keepsFiles
  · simp only [files, if_true]
    exact ⟨_, rfl⟩
  · simp only [files]
    exact ⟨world.records, rfl⟩

theorem outcome_writeEntry_error {key : Storage.Key} {value : Bytes} {world : World}
    {storage : Storage} {failure : Failure}
    (failed : world.storage.put key value = (storage, .error failure)) :
    outcome (writeEntry key value) world = (.error failure, { world with storage }) := by
  rw [writeEntry, outcome_bind, outcome_get]
  simp only [failed, outcome_bind, outcome_set, outcome_throw]

/-- A relation between worlds that a computation establishes, whatever comes of it. -/
def Keeps (kept : World → World → Prop) (action : Client α) : Prop :=
  ∀ world, kept world (outcome action world).2

/-- A relation that waiting, and one thing after the other, establishes. -/
structure Lasts (kept : World → World → Prop) : Prop where
  refl : ∀ world, kept world world
  trans : ∀ {world between after}, kept world between → kept between after → kept world after
  told : ∀ world level logger message, kept world (world.told level logger message)

variable {kept : World → World → Prop}

theorem keeps_bind {action : Client α} {next : α → Client β} (lasts : Lasts kept)
    (first : Keeps kept action) (later : ∀ value, Keeps kept (next value)) :
    Keeps kept (action >>= next) := by
  intro world
  have start := first world
  rw [outcome_bind]
  cases ran : outcome action world with
  | mk result after =>
      rw [ran] at start
      cases result with
      | error failure => exact start
      | ok value => exact lasts.trans start (later value after)

theorem keeps_pure (lasts : Lasts kept) (value : α) : Keeps kept (pure value : Client α) :=
  lasts.refl

theorem keeps_throw (lasts : Lasts kept) (failure : Failure) :
    Keeps kept (throw failure : Client α) := lasts.refl

theorem keeps_ofExcept (lasts : Lasts kept) (result : Except Failure α) :
    Keeps kept (ofExcept result : Client α) := by
  intro world
  rw [outcome_ofExcept]
  exact lasts.refl world

theorem keeps_debug (lasts : Lasts kept) (logger message : String) :
    Keeps kept (debug logger message) := fun world => lasts.told world _ _ _

theorem keeps_info (lasts : Lasts kept) (logger message : String) :
    Keeps kept (info logger message) := fun world => lasts.told world _ _ _

end Client

end AcmeClient
