import AcmeClient.Proofs.Client.Sealed
import Mathlib.Data.List.Induction

/-!
Computations seen from outside: what they ask next, and how they go on with each reply. What a
computation has heard so far determines what it asks next, so that it may wait for any time in between.
-/

namespace AcmeClient

variable {α β : Type}

/-- What a computation asks, and how it goes on with each reply. -/
inductive Course (α : Type) where
  | ended (result : Except Failure α)
  | asks (call : Call) (next : Reply → Course α)

namespace Course

def bind : Course α → (α → Course β) → Course β
  | ended (.ok value), next => next value
  | ended (.error failure), _ => ended (.error failure)
  | asks call later, next => asks call fun reply => (later reply).bind next

/-- What comes of a course in a world. -/
def play : Course α → World → Except Failure α × World
  | ended result, world => (result, world)
  | asks call next, world => (next world.nextReply).play (world.sent call)

def hear : Course α → Reply → Course α
  | ended result, _ => ended result
  | asks _ next, reply => next reply

/-- How a course goes on after some replies. -/
def after (course : Course α) (replies : List Reply) : Course α := replies.foldl hear course

def request? : Course α → Option Call
  | ended _ => none
  | asks call _ => some call

variable {course : Course α} {next : α → Course β} {world : World} {value : α}

theorem after_concat (course : Course α) (replies : List Reply) (reply : Reply) :
    course.after (replies ++ [reply]) = (course.after replies).hear reply := by
  rw [after, List.foldl_append]
  rfl

theorem after_ended (result : Except Failure α) (replies : List Reply) :
    (ended result).after replies = ended result := by
  induction replies with
  | nil => rfl
  | cons reply rest ih => exact ih

theorem play_bind (course : Course α) (next : α → Course β) (world : World) :
    (course.bind next).play world =
      match course.play world with
      | (.ok value, after) => (next value).play after
      | (.error failure, after) => (.error failure, after) := by
  induction course generalizing world with
  | ended result => cases result <;> rfl
  | asks call later ih => exact ih _ _

theorem calls_play (course : Course α) (world : World) :
    world.calls <+: (course.play world).2.calls := by
  induction course generalizing world with
  | ended result => exact List.prefix_refl _
  | asks call later ih => exact (List.prefix_append _ [call]).trans (ih world.nextReply (world.sent call))

/-- What a course asks when the replies are used up. -/
theorem getElem?_calls_play (course : Course α) (world : World) :
    (course.play world).2.calls[world.calls.length + world.replies.length]? =
      (course.after world.replies).request? := by
  generalize heard : world.replies = replies
  induction replies generalizing course world with
  | nil =>
      cases course with
      | ended result => simp [play, after, request?]
      | asks call later =>
          obtain ⟨rest, more⟩ := (later world.nextReply).calls_play (world.sent call)
          rw [play, ← more]
          simp [World.sent, after, request?]
  | cons reply rest ih =>
      cases course with
      | ended result => simp [play, after_ended, request?]
      | asks call later =>
          have first : world.nextReply = reply := by simp [World.nextReply, World.replyAfter, heard]
          have left : (world.sent call).replies = rest := by simp [World.sent, heard]
          have length : (world.sent call).calls.length = world.calls.length + 1 := by simp [World.sent]
          have later := ih (later reply) (world.sent call) left
          rw [length] at later
          rw [play, first, List.length_cons, ← Nat.add_assoc, Nat.add_right_comm]
          exact later

/-- A course that fails as soon as it gets no reply. -/
inductive Needy : Course α → Prop
  | ended (result : Except Failure α) : Needy (ended result)
  | asks {call : Call} {next : Reply → Course α} :
      (∀ failure, ∃ reason, next (.error failure) = .ended (.error reason)) →
      (∀ reply, Needy (next reply)) → Needy (.asks call next)

theorem after_of_play_ok (needy : course.Needy) (done : (course.play world).1 = .ok value) :
    course.after world.replies = ended (.ok value) := by
  generalize heard : world.replies = replies
  induction replies generalizing course world with
  | nil =>
      cases needy with
      | ended result => exact congrArg ended done
      | asks fails later =>
          obtain ⟨reason, failed⟩ := fails world.silence
          have silent : world.nextReply = .error world.silence := by
            simp [World.nextReply, World.replyAfter, heard]
          rw [play, silent, failed] at done
          contradiction
  | cons reply rest ih =>
      cases needy with
      | ended result =>
          rw [after_ended]
          exact congrArg ended done
      | @asks call next fails later =>
          have first : world.nextReply = reply := by simp [World.nextReply, World.replyAfter, heard]
          rw [play, first] at done
          exact ih (later reply) done (by simp [World.sent, heard])

theorem play_of_after {result : Except Failure α} (ends : course.after world.replies = ended result) :
    (course.play world).1 = result := by
  generalize heard : world.replies = replies at ends
  induction replies generalizing course world with
  | nil =>
      cases course with
      | ended _ => exact Course.ended.inj ends
      | asks call next => simp [after] at ends
  | cons reply rest ih =>
      cases course with
      | ended _ =>
          rw [after_ended] at ends
          exact Course.ended.inj ends
      | asks call next =>
          have first : world.nextReply = reply := by simp [World.nextReply, World.replyAfter, heard]
          rw [play, first]
          exact ih (by simp [World.sent, heard]) ends

end Course

/-- Worlds with the same requests so far and the same replies to come. -/
structure World.Resembles (world other : World) : Prop where
  calls : world.calls = other.calls
  replies : world.replies = other.replies
  silence : world.silence = other.silence

namespace Client

variable {action : Client α} {continuation : α → Client β} {course : Course α} {next : α → Course β}
  {result : Except Failure α}

/-- What a computation sends and returns is given by a course. -/
def Follows (action : Client α) (course : Course α) : Prop :=
  ∀ world other, world.Resembles other →
    (outcome action world).1 = (course.play other).1 ∧
      (outcome action world).2.Resembles (course.play other).2

theorem follows_pure (value : α) : Follows (pure value) (.ended (.ok value)) :=
  fun _ _ resembles => ⟨rfl, resembles⟩

theorem follows_throw (failure : Failure) : Follows (throw failure : Client α) (.ended (.error failure)) :=
  fun _ _ resembles => ⟨rfl, resembles⟩

theorem follows_ofExcept (result : Except Failure α) : Follows (ofExcept result) (.ended result) := by
  intro world other resembles
  rw [outcome_ofExcept]
  exact ⟨rfl, resembles⟩

theorem nextReply_of_resembles {world other : World} (resembles : world.Resembles other) :
    world.nextReply = other.nextReply := by
  simp [World.nextReply, World.replyAfter, resembles.replies, resembles.silence]

theorem sent_resembles {world other : World} (resembles : world.Resembles other) (call : Call) :
    (world.sent call).Resembles (other.sent call) where
  calls := congrArg (· ++ [call]) resembles.calls
  replies := congrArg List.tail resembles.replies
  silence := resembles.silence

theorem follows_send (call : Call) : Follows (send call) (.asks call .ended) := by
  intro world other resembles
  rw [outcome_send]
  exact ⟨nextReply_of_resembles resembles, sent_resembles resembles call⟩

theorem Follows.bind (first : Follows action course)
    (later : ∀ value, Follows (continuation value) (next value)) :
    Follows (action >>= continuation) (course.bind next) := by
  intro world other resembles
  obtain ⟨same, alike⟩ := first world other resembles
  rw [outcome_bind, Course.play_bind]
  cases ran : outcome action world with
  | mk result after =>
      cases played : course.play other with
      | mk expected left =>
          rw [ran, played] at same alike
          obtain rfl : result = expected := same
          cases result with
          | error failure => exact ⟨rfl, alike⟩
          | ok value => exact later value after left alike

theorem Follows.ended {rest : α → Except Failure β} (first : Follows action (.ended result))
    (later : ∀ value, Follows (continuation value) (.ended (rest value))) :
    Follows (action >>= continuation) (.ended (result >>= rest)) := by
  have whole := first.bind later
  cases result <;> exact whole

theorem Follows.told {later : Client β} {course : Course β} (follows : Follows later course)
    (level : Int) (logger message : String) :
    Follows (do write level logger message; later) course :=
  fun world _ resembles => follows (world.told level logger message) _
    ⟨resembles.calls, resembles.replies, resembles.silence⟩

theorem follows_newNonce (provider : Provider) :
    Follows provider.newNonce
      (.asks (.head provider.endpoints.newNonce) fun reply => .ended (reply.bind Response.nonce)) := by
  intro world other resembles
  rw [Provider.outcome_newNonce]
  exact ⟨by rw [nextReply_of_resembles resembles]; rfl, sent_resembles resembles _⟩

end Client

namespace Course

variable {newNonce : Json} {built : String → Except Failure (Json × Bytes)}
  {finish : Response → Except Failure α}

/-- What becomes of the reply to a request for a nonce: a post, whose reply is waited for. -/
def posting (built : String → Except Failure (Json × Bytes)) (next : Reply → Course α) (reply : Reply) :
    Course α :=
  (ended (reply.bind Response.nonce)).bind fun nonce =>
    (ended (built nonce)).bind fun made => .asks (.post made.1 Envelope.mediaType made.2) next

/-- What becomes of the reply to a post. A rejected nonce leads to another attempt, if there is one. -/
def concluding (finish : Response → Except Failure α) (again : Option (Course α)) (reply : Reply) :
    Course α :=
  (ended reply).bind fun answer =>
    match answer.check with
    | .ok response => ended (finish response)
    | .error failure =>
      match again with
      | some course => if Provider.isNonceRejection failure then course else ended (.error failure)
      | none => ended (.error failure)

/-- Attempts, of which `more` may follow the first. -/
def attempts (newNonce : Json) (built : String → Except Failure (Json × Bytes))
    (finish : Response → Except Failure α) : (more : Nat) → Course α
  | 0 => asks (.head newNonce) (posting built (concluding finish none))
  | more + 1 =>
    asks (.head newNonce)
      (posting built (concluding finish (some (attempts newNonce built finish more))))

variable {start course : Course α} {nonce : String} {replies : List Reply}

theorem posting_ok {next : Reply → Course α} {answer : Response} {url : Json} {body : Bytes}
    (given : answer.nonce = .ok nonce) (made : built nonce = .ok (url, body)) :
    posting built next (.ok answer) = asks (.post url Envelope.mediaType body) next := by
  simp only [posting, Except.bind, given, bind, made]

/-- A request for a nonce comes next. -/
def Asks (newNonce : Json) (built : String → Except Failure (Json × Bytes))
    (finish : Response → Except Failure α) (course : Course α) : Prop :=
  ∃ more, course = attempts newNonce built finish more

/-- A post for a nonce comes next. -/
def Posts (newNonce : Json) (built : String → Except Failure (Json × Bytes))
    (finish : Response → Except Failure α) (nonce : String) (course : Course α) : Prop :=
  ∃ url body again, built nonce = .ok (url, body) ∧
    course = asks (.post url Envelope.mediaType body) (concluding finish again) ∧
    ∀ next ∈ again, Asks newNonce built finish next

theorem hear_of_asks (asking : Asks newNonce built finish course) (reply : Reply) :
    (∃ failure, course.hear reply = ended (.error failure)) ∨
      ∃ answer nonce, reply = .ok answer ∧ answer.nonce = .ok nonce ∧
        Posts newNonce built finish nonce (course.hear reply) := by
  obtain ⟨again, heard, later⟩ : ∃ again,
      course.hear reply = posting built (concluding finish again) reply ∧
        ∀ next ∈ again, Asks newNonce built finish next := by
    obtain ⟨more, rfl⟩ := asking
    cases more with
    | zero => exact ⟨none, rfl, by simp⟩
    | succ more => exact ⟨some _, rfl, by simp [Asks]⟩
  rw [heard, posting]
  cases reply with
  | error failure => exact .inl ⟨failure, rfl⟩
  | ok answer =>
      simp only [Except.bind]
      cases found : answer.nonce with
      | error failure => exact .inl ⟨failure, rfl⟩
      | ok nonce =>
          simp only [bind]
          cases builds : built nonce with
          | error failure => exact .inl ⟨failure, rfl⟩
          | ok made =>
              exact .inr ⟨answer, nonce, rfl, found, made.1, made.2, again, builds, rfl, later⟩

theorem hear_of_posts (posting : Posts newNonce built finish nonce course) (reply : Reply) :
    (∃ failure, course.hear reply = ended (.error failure)) ∨
      ∃ answer, reply = .ok answer ∧ (answer.isOk ∧ course.hear reply = ended (finish answer) ∨
        answer.RejectsNonce ∧ Asks newNonce built finish (course.hear reply)) := by
  obtain ⟨url, body, again, -, rfl, later⟩ := posting
  simp only [hear, concluding]
  cases reply with
  | error failure => exact .inl ⟨failure, rfl⟩
  | ok answer =>
      simp only [bind]
      cases checked : answer.check with
      | ok response =>
          obtain ⟨rfl, accepted⟩ := Response.check_eq_ok_iff.mp checked
          exact .inr ⟨response, rfl, .inl ⟨accepted, rfl⟩⟩
      | error failure =>
          cases again with
          | none => exact .inl ⟨failure, rfl⟩
          | some next =>
              by_cases rejection : Provider.isNonceRejection failure
              · simp only [rejection, if_true]
                have rejects := (Provider.isNonceRejection_iff checked).mp rejection
                exact .inr ⟨answer, rfl, .inr ⟨rejects, later next rfl⟩⟩
              · simp only [rejection, Bool.false_eq_true, if_false]
                exact .inl ⟨failure, rfl⟩

/-- A course of attempts asks for a nonce, or has just been given one and posts, or has ended. -/
theorem stage_after (asking : Asks newNonce built finish start) (replies : List Reply) :
    Asks newNonce built finish (start.after replies) ∨
      (∃ front answer nonce, replies = front ++ [.ok answer] ∧
        Asks newNonce built finish (start.after front) ∧ answer.nonce = .ok nonce ∧
        Posts newNonce built finish nonce (start.after replies)) ∨
      ∃ result, start.after replies = ended result := by
  induction replies using List.reverseRecOn with
  | nil => exact .inl asking
  | append_singleton front reply ih =>
      rw [after_concat]
      obtain asks | ⟨_, _, nonce, -, -, -, posts⟩ | ⟨result, done⟩ := ih
      · obtain ⟨failure, done⟩ | ⟨answer, nonce, rfl, found, posts⟩ := hear_of_asks asks reply
        · exact .inr (.inr ⟨_, done⟩)
        · exact .inr (.inl ⟨front, answer, nonce, rfl, asks, found, posts⟩)
      · obtain ⟨failure, done⟩ | ⟨answer, -, ⟨-, done⟩ | ⟨-, asks⟩⟩ := hear_of_posts posts reply
        · exact .inr (.inr ⟨_, done⟩)
        · exact .inr (.inr ⟨_, done⟩)
        · exact .inl asks
      · rw [done]
        exact .inr (.inr ⟨result, rfl⟩)

theorem needy_concluding {again : Option (Course α)} (later : ∀ next ∈ again, Needy next)
    (reply : Reply) : Needy (concluding finish again reply) := by
  cases reply with
  | error failure => exact .ended _
  | ok answer =>
      simp only [concluding, bind]
      split
      · exact .ended _
      · split
        · split
          · exact later _ rfl
          · exact .ended _
        · exact .ended _

theorem needy_posting {again : Option (Course α)} (later : ∀ next ∈ again, Needy next)
    (reply : Reply) : Needy (posting built (concluding finish again) reply) := by
  unfold posting
  cases reply.bind Response.nonce with
  | error failure => exact .ended _
  | ok nonce =>
      simp only [bind]
      cases built nonce with
      | error failure => exact .ended _
      | ok made => exact .asks (fun failure => ⟨failure, rfl⟩) (needy_concluding later)

theorem needy_attempts (more : Nat) : Needy (attempts newNonce built finish more) := by
  induction more with
  | zero => exact .asks (fun failure => ⟨failure, rfl⟩) (needy_posting (by simp))
  | succ more ih => exact .asks (fun failure => ⟨failure, rfl⟩) (needy_posting (by simpa using ih))

end Course

namespace Provider

variable {provider : Provider} {build : Builder} {built : String → Except Failure (Json × Bytes)}
  {continuation : Response → Client α} {finish : Response → Except Failure α}

theorem follows_attemptFrom (builds : ∀ nonce, Client.Follows (build nonce) (.ended (built nonce)))
    (finishes : ∀ response, Client.Follows (continuation response) (.ended (finish response)))
    (total : Int) (more : Nat) :
    Client.Follows (provider.attemptFrom build total more >>= continuation)
      (.attempts provider.endpoints.newNonce built finish more) := by
  induction more with
  | zero =>
      simp only [attemptFrom, attempt, bind_assoc, pure_bind]
      refine (Client.follows_newNonce provider).bind fun nonce => (builds nonce).bind fun made => ?_
      refine .told ((Client.follows_send _).bind fun answer => ?_) _ _ _
      cases checked : answer.check with
      | ok response => exact (Client.follows_ofExcept _).bind finishes
      | error failure => exact (Client.follows_ofExcept _).bind finishes
  | succ more ih =>
      simp only [attemptFrom, attempt, bind_assoc, pure_bind]
      refine (Client.follows_newNonce provider).bind fun nonce => (builds nonce).bind fun made => ?_
      refine .told ((Client.follows_send _).bind fun answer => ?_) _ _ _
      cases checked : answer.check with
      | ok response => exact (Client.follows_pure response).bind finishes
      | error failure =>
          by_cases rejection : isNonceRejection failure
          · simp only [rejection, if_true, bind_assoc]
            exact ih.told _ _ _
          · simp only [rejection, Bool.false_eq_true, if_false]
            exact (Client.follows_throw failure).bind finishes

theorem follows_request (builds : ∀ nonce, Client.Follows (build nonce) (.ended (built nonce)))
    (finishes : ∀ response, Client.Follows (continuation response) (.ended (finish response)))
    (positive : 1 ≤ provider.attempts) :
    Client.Follows (provider.request build none >>= continuation)
      (.attempts provider.endpoints.newNonce built finish (provider.attempts.toNat - 1)) := by
  have enough : ¬ provider.attempts < 1 := by omega
  simp only [request, Option.getD_none, if_neg enough]
  exact follows_attemptFrom builds finishes _ _

/-- The envelope of a content, or the reason why there is none. -/
def sealedFor (url : Json) (key : AccountKey) (sender : Sender) (content : Json) (nonce : String) :
    Except Failure (Json × Bytes) :=
  match Envelope.sign key sender (.str nonce) url (some content) with
  | .ok envelope => .ok (url, envelope.bytes)
  | .error fault => .error (.fault fault)

variable {logger message nonce : String} {url target content : Json} {key : AccountKey}
  {sender : Sender} {body : Bytes}

theorem follows_sealing :
    Client.Follows (sealing logger message url key sender content nonce)
      (.ended (sealedFor url key sender content nonce)) := by
  refine .told ?_ _ _ _
  unfold Provider.sealed sealedFor
  cases Envelope.sign key sender (.str nonce) url (some content) with
  | error fault => exact Client.follows_throw _
  | ok envelope => exact Client.follows_pure _

theorem seals_of_sealedFor (made : sealedFor url key sender content nonce = .ok (target, body)) :
    Seals url key sender content nonce target body := by
  unfold sealedFor at made
  split at made
  · rename_i envelope signed
    cases made
    exact ⟨rfl, envelope, signed, rfl⟩
  · contradiction

end Provider

namespace Account

/-- The order that a response tells of. -/
def accepted (account : Account) (response : Response) : Except Failure Order := do
  let orderUrl ← response.expectHeader "Location"
  let resource ← Resource.Order.ofJson (← response.json)
  return ⟨account, resource, orderUrl⟩

theorem follows_taken (account : Account) (count : Nat) (response : Response) :
    Client.Follows (account.taken count response) (.ended (account.accepted response)) := by
  refine (Client.follows_ofExcept _).ended fun orderUrl => ?_
  refine (Client.follows_ofExcept _).ended fun document => ?_
  refine (Client.follows_ofExcept _).ended fun resource => ?_
  exact (Client.follows_pure _).told _ _ _

/-- What an order asks, and how it goes on. -/
def ordering (account : Account) (primary others : Json) : Course Order :=
  (Course.ended (otherNames others)).bind fun names =>
    if account.provider.attempts < 1 then
      .ended (.error (.defect (.tooFewAttempts account.provider.attempts)))
    else
      .attempts account.provider.endpoints.newNonce
        (Provider.sealedFor account.provider.endpoints.newOrder account.key
          (.account (.str account.url)) (Resource.Order.request ((primary :: names).map .dns)))
        account.accepted (account.provider.attempts.toNat - 1)

theorem follows_order (account : Account) (primary others : Json) :
    Client.Follows (account.order primary others) (account.ordering primary others) := by
  rw [order_eq]
  refine (Client.follows_ofExcept _).bind fun names => ?_
  split
  · rename_i few
    simp only [Provider.request, Option.getD_none, if_pos few]
    exact Client.follows_throw _
  · rename_i enough
    exact Provider.follows_request (fun _ => Provider.follows_sealing) (account.follows_taken _)
      (by omega)

end Account

end AcmeClient
