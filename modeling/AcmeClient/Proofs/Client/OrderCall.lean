import AcmeClient.Proofs.Client.Course
import AcmeClient.Proofs.Client.Posts
import Mathlib.Logic.Function.Basic

namespace AcmeClient

/-- The nonce that a body says it is for. -/
def Envelope.nonce? (body : Bytes) : Option String := do
  let .obj members ← (Json.read body).toOption | none
  let .str header ← Assoc.find? "protected" members | none
  let .obj fields ← part? header.toList | none
  let .str nonce ← Assoc.find? "nonce" fields | none
  return nonce

theorem Envelope.nonce?_of_opens {body : Bytes} {key : AccountKey} {name : String × Json}
    {nonce : String} {url : Json} {payload : List Char} (other : name.1 ≠ "nonce")
    (opens : Opens body key (headerNaming name nonce url) payload) : nonce? body = some nonce := by
  obtain ⟨envelope, read, header, -⟩ := opens
  simp [nonce?, read, Except.toOption, toJson, Assoc.find?, header, headerNaming, other]

/-- An order that is placed, and the world as it is when the call starts. -/
structure OrderCall where
  account : Account
  known : account.provider.IsKnown
  primary : Json
  others : Json
  world : World

namespace OrderCall

variable {call : OrderCall} {heard : List Reply} {url : Json} {mediaType : String} {body : Bytes}
  {reply : Reply} {order : Order}

/-- How far a call comes with the replies that it has heard. -/
def ran (call : OrderCall) (heard : List Reply) : Except Failure Order × World :=
  Client.outcome (call.account.order call.primary call.others)
    { call.world with replies := heard, calls := [] }

/-- The request that a call makes after the replies that it has heard. -/
def request? (call : OrderCall) (heard : List Reply) : Option Call :=
  (call.ran heard).2.calls[heard.length]?

/-- The course of the call. -/
def course (call : OrderCall) : Course Order := call.account.ordering call.primary call.others

theorem request?_eq (call : OrderCall) (heard : List Reply) :
    call.request? heard = (call.course.after heard).request? := by
  obtain ⟨-, resembles⟩ := call.account.follows_order call.primary call.others
    { call.world with replies := heard, calls := [] } _ ⟨rfl, rfl, rfl⟩
  rw [request?, ran, resembles.calls]
  have asked := call.course.getElem?_calls_play { call.world with replies := heard, calls := [] }
  rwa [List.length_nil, Nat.zero_add] at asked

/-- The envelope that a call posts for a nonce. -/
def built (call : OrderCall) (names : List Json) : String → Except Failure (Json × Bytes) :=
  Provider.sealedFor call.account.provider.endpoints.newOrder call.account.key
    (.account (.str call.account.url)) (Resource.Order.request ((call.primary :: names).map .dns))

def Asks (call : OrderCall) (names : List Json) (course : Course Order) : Prop :=
  course.Asks call.account.provider.endpoints.newNonce (call.built names) call.account.accepted

def Posts (call : OrderCall) (names : List Json) (nonce : String) (course : Course Order) : Prop :=
  course.Posts call.account.provider.endpoints.newNonce (call.built names) call.account.accepted nonce

/-- A call fails at once, or it goes through attempts. -/
theorem course_cases (call : OrderCall) :
    (∃ failure, call.course = .ended (.error failure)) ∨ ∃ names, call.Asks names call.course := by
  unfold course Account.ordering
  cases Account.otherNames call.others with
  | error failure => exact .inl ⟨failure, rfl⟩
  | ok names =>
      simp only [Course.bind]
      split
      · exact .inl ⟨_, rfl⟩
      · exact .inr ⟨names, _, rfl⟩

theorem nonce?_of_built {names : List Json} {nonce : String}
    (made : call.built names nonce = .ok (url, body)) : Envelope.nonce? body = some nonce := by
  obtain ⟨-, opens⟩ := (Provider.seals_of_sealedFor made).posts (.str _) call.known.newOrder
  exact Envelope.nonce?_of_opens (by simp [Sender.named]) opens

/-- A call asks for a nonce, or has just been given one and posts, or has ended. -/
theorem stage (call : OrderCall) (heard : List Reply) :
    (∃ names, call.Asks names (call.course.after heard)) ∨
      (∃ names front answer nonce, heard = front ++ [.ok answer] ∧
        call.Asks names (call.course.after front) ∧ answer.nonce = .ok nonce ∧
        call.Posts names nonce (call.course.after heard)) ∨
      ∃ result, call.course.after heard = .ended result := by
  obtain ⟨failure, failed⟩ | ⟨names, asks⟩ := call.course_cases
  · rw [failed, Course.after_ended]
    exact .inr (.inr ⟨_, rfl⟩)
  · obtain asks | ⟨front, answer, nonce, posts⟩ | ended := Course.stage_after asks heard
    · exact .inl ⟨names, asks⟩
    · exact .inr (.inl ⟨names, front, answer, nonce, posts⟩)
    · exact .inr (.inr ended)

theorem request?_of_asks {names : List Json} {course : Course Order} (asks : call.Asks names course) :
    course.request? = some (.head call.account.provider.endpoints.newNonce) := by
  obtain ⟨more, rfl⟩ := asks
  cases more <;> rfl

/-- A call that posts was given a nonce by the last reply, and asked for it before. -/
theorem posts_of_request? (asked : call.request? heard = some (.post url mediaType body)) :
    ∃ names front answer nonce, heard = front ++ [.ok answer] ∧
      call.request? front = some (.head call.account.provider.endpoints.newNonce) ∧
      answer.nonce = .ok nonce ∧ Envelope.nonce? body = some nonce ∧
      call.Posts names nonce (call.course.after heard) := by
  rw [request?_eq] at asked
  obtain ⟨names, asks⟩ | ⟨names, front, answer, nonce, last, asks, found, posts⟩ | ⟨result, ended⟩ :=
    call.stage heard
  · rw [request?_of_asks asks] at asked
    simp at asked
  · have reads : Envelope.nonce? body = some nonce := by
      obtain ⟨_, _, _, made, posted, -⟩ := posts
      rw [posted] at asked
      cases asked
      exact nonce?_of_built made
    exact ⟨names, front, answer, nonce, last, by rw [request?_eq, request?_of_asks asks], found, reads,
      posts⟩
  · rw [ended] at asked
    contradiction

/-- A call that goes on after a post was told that its nonce is rejected. -/
theorem rejects_of_request? (asked : call.request? heard = some (.post url mediaType body))
    (goesOn : call.request? (heard ++ [reply]) ≠ none) :
    ∃ answer, reply = .ok answer ∧ answer.RejectsNonce := by
  obtain ⟨_, _, _, _, -, -, -, -, posts⟩ := posts_of_request? asked
  rw [request?_eq, Course.after_concat] at goesOn
  obtain ⟨failure, failed⟩ | ⟨answer, rfl, ⟨-, ended⟩ | ⟨rejects, -⟩⟩ := Course.hear_of_posts posts reply
  · exact absurd (by rw [failed]; rfl) goesOn
  · exact absurd (by rw [ended]; rfl) goesOn
  · exact ⟨answer, rfl, rejects⟩

theorem expectHeader_of_accepted {account : Account} {response : Response}
    (accepted : account.accepted response = .ok order) :
    response.expectHeader "Location" = .ok order.url := by
  have made : response.made Resource.Order.ofJson (fun resource url => ⟨account, resource, url⟩) = .ok order :=
    accepted
  obtain ⟨url, document, resource, located, -, -, rfl⟩ := Response.made_eq_ok_iff.mp made
  exact located

theorem after_of_ran (done : (call.ran heard).1 = .ok order) :
    call.course.after heard = .ended (.ok order) := by
  obtain ⟨same, -⟩ := call.account.follows_order call.primary call.others
    { call.world with replies := heard, calls := [] } _ ⟨rfl, rfl, rfl⟩
  rw [ran, same] at done
  refine Course.after_of_play_ok ?_ done
  obtain ⟨failure, failed⟩ | ⟨names, more, attempts⟩ := call.course_cases
  · rw [← course, failed]
    exact .ended _
  · rw [← course, attempts]
    exact Course.needy_attempts more

theorem not_ended_of_asks {names : List Json} (asks : call.Asks names (.ended (.ok order))) : False := by
  obtain ⟨more, ended⟩ := asks
  cases more <;> contradiction

/-- A call ends with an order when a post is accepted. -/
theorem accepted_of_hear (waits : call.request? heard ≠ none)
    (ended : call.course.after (heard ++ [reply]) = .ended (.ok order)) :
    ∃ answer url mediaType body, reply = .ok answer ∧
      call.request? heard = some (.post url mediaType body) ∧ answer.isOk ∧
      answer.expectHeader "Location" = .ok order.url := by
  rw [request?_eq] at waits ⊢
  rw [Course.after_concat] at ended
  obtain ⟨names, asks⟩ | ⟨names, _, _, nonce, -, -, -, posts⟩ | ⟨result, finished⟩ := call.stage heard
  · obtain ⟨failure, failed⟩ | ⟨answer, nonce, -, -, _, _, _, -, posts, -⟩ :=
      Course.hear_of_asks asks reply
    · simp [failed] at ended
    · simp [posts] at ended
  · obtain ⟨failure, failed⟩ | ⟨answer, rfl, ⟨accepted, finished⟩ | ⟨-, asks⟩⟩ :=
      Course.hear_of_posts posts reply
    · simp [failed] at ended
    · obtain ⟨url, body, again, -, posted, -⟩ := posts
      rw [finished, Course.ended.injEq] at ended
      exact ⟨answer, url, Envelope.mediaType, body, rfl, by rw [posted]; rfl, accepted,
        expectHeader_of_accepted ended⟩
    · rw [ended] at asks
      exact (not_ended_of_asks asks).elim
  · rw [finished] at waits
    contradiction

/-- A call that returns an order made it of the reply to its last request, a post. -/
theorem accepted_of_ran (done : (call.ran heard).1 = .ok order)
    (waits : ∀ number < heard.length, call.request? (heard.take number) ≠ none) :
    ∃ front answer url mediaType body, heard = front ++ [.ok answer] ∧
      call.request? front = some (.post url mediaType body) ∧ answer.isOk ∧
      answer.expectHeader "Location" = .ok order.url := by
  have ended := after_of_ran done
  obtain rfl | ⟨front, reply, concat⟩ := heard.eq_nil_or_concat
  · rw [Course.after, List.foldl_nil] at ended
    obtain ⟨failure, failed⟩ | ⟨names, asks⟩ := call.course_cases
    · simp [failed] at ended
    · rw [ended] at asks
      exact (not_ended_of_asks asks).elim
  · rw [List.concat_eq_append] at concat
    subst concat
    have goesOn := waits front.length (by simp)
    rw [List.take_left] at goesOn
    obtain ⟨answer, url, mediaType, body, rfl, found⟩ := accepted_of_hear goesOn ended
    exact ⟨front, answer, url, mediaType, body, rfl, found⟩

/-- A call whose nonce and whose post are accepted returns the order. -/
theorem served {names : List Json} {nonce : String} {answer response : Response}
    (asks : call.Asks names call.course) (made : call.built names nonce = .ok (url, body))
    (given : answer.nonce = .ok nonce) (accepted : response.isOk)
    (located : call.account.accepted response = .ok order) :
    call.request? [] = some (.head call.account.provider.endpoints.newNonce) ∧
      call.request? [.ok answer] = some (.post url Envelope.mediaType body) ∧
      (call.ran [.ok answer, .ok response]).1 = .ok order := by
  have first := request?_of_asks asks
  obtain ⟨again, waits⟩ : ∃ again, call.course.hear (.ok answer) =
      .asks (.post url Envelope.mediaType body) (.concluding call.account.accepted again) := by
    obtain ⟨more, attempts⟩ := asks
    rw [attempts]
    cases more with
    | zero => exact ⟨none, Course.posting_ok given made⟩
    | succ more => exact ⟨some _, Course.posting_ok given made⟩
  have checked : response.check = .ok response := Response.check_eq_ok_iff.mpr ⟨rfl, accepted⟩
  refine ⟨by rw [request?_eq]; exact first, ?_, ?_⟩
  · rw [request?_eq, Course.after, List.foldl_cons, List.foldl_nil, waits]
    rfl
  · obtain ⟨same, -⟩ := call.account.follows_order call.primary call.others
      { call.world with replies := [.ok answer, .ok response], calls := [] } _ ⟨rfl, rfl, rfl⟩
    rw [ran, same]
    refine Course.play_of_after ?_
    simp only [Course.after, List.foldl_cons, List.foldl_nil]
    rw [← course, waits]
    simp only [Course.hear, Course.concluding, Course.bind, checked, located]

end OrderCall

/-- What has passed between a call and the provider: the requests, the answers to them by the numbers
of the requests, and what the call has heard. -/
structure Line where
  sent : List Call
  answered : Nat → Option Response
  heard : List Reply

namespace Line

variable {call : OrderCall} {line : Line} {number other : Nat} {request : Call} {reply : Reply}
  {url : Json} {mediaType : String} {body : Bytes} {order : Order}

def start : Line := ⟨[], fun _ => none, []⟩

def ask (line : Line) (request : Call) : Line := { line with sent := line.sent ++ [request] }

def answer (line : Line) (number : Nat) (answer : Response) : Line :=
  { line with answered := Function.update line.answered number (some answer) }

def hear (line : Line) (reply : Reply) : Line := { line with heard := line.heard ++ [reply] }

theorem answered_answer_self (line : Line) (number : Nat) (answer : Response) :
    (line.answer number answer).answered number = some answer := Function.update_self ..

theorem answered_answer_other (different : other ≠ number) (answer : Response) :
    (line.answer number answer).answered other = line.answered other :=
  Function.update_of_ne different ..

/-- A request that has been made and answered. -/
def Done (line : Line) (number : Nat) (request : Call) (answer : Response) : Prop :=
  line.sent[number]? = some request ∧ line.answered number = some answer

/-- Each request is the one that the call makes after the replies before it, and what the call hears
of the provider was answered. -/
structure Sound (call : OrderCall) (line : Line) : Prop where
  asked : ∀ number request, line.sent[number]? = some request →
    number ≤ line.heard.length ∧ call.request? (line.heard.take number) = some request
  heard_le : line.heard.length ≤ line.sent.length
  answered : ∀ number answer, line.answered number = some answer → number < line.sent.length
  heard : ∀ number answer, line.heard[number]? = some (.ok answer) →
    line.answered number = some answer

namespace Sound

theorem start (call : OrderCall) : Line.start.Sound call where
  asked := by simp [Line.start]
  heard_le := by simp [Line.start]
  answered := by simp [Line.start]
  heard := by simp [Line.start]

theorem ask (sound : line.Sound call) (free : line.sent.length = line.heard.length)
    (asks : call.request? line.heard = some request) : (line.ask request).Sound call where
  asked number next found := by
    simp only [Line.ask, List.getElem?_append] at found
    split at found
    · exact sound.asked number next found
    · obtain ⟨rfl, rfl⟩ : number = line.sent.length ∧ request = next := by
        rw [List.getElem?_singleton] at found
        split at found
        · exact ⟨by omega, Option.some.inj found⟩
        · contradiction
      refine ⟨Nat.le_of_eq free, ?_⟩
      rwa [free, show (line.ask request).heard.take line.heard.length = line.heard from List.take_length]
  heard_le := by
    have := sound.heard_le
    simp only [Line.ask, List.length_append, List.length_singleton]
    omega
  answered number answer found := by
    have := sound.answered number answer found
    simp only [Line.ask, List.length_append, List.length_singleton]
    omega
  heard := sound.heard

theorem answer (sound : line.Sound call) (made : line.sent[number]? = some request)
    (unanswered : line.answered number = none) (answer : Response) :
    (line.answer number answer).Sound call where
  asked := sound.asked
  heard_le := sound.heard_le
  answered other reply found := by
    by_cases same : other = number
    · rw [same]
      exact (List.getElem?_eq_some_iff.mp made).1
    · refine sound.answered other reply ?_
      rwa [answered_answer_other same] at found
  heard other reply found := by
    have before := sound.heard other reply found
    have different : other ≠ number := by
      rintro rfl
      rw [unanswered] at before
      contradiction
    rwa [answered_answer_other different]

theorem hear (sound : line.Sound call) (waiting : line.heard.length < line.sent.length)
    (known : ∀ answer, reply = .ok answer → line.answered line.heard.length = some answer) :
    (line.hear reply).Sound call where
  asked number request found := by
    obtain ⟨early, asks⟩ := sound.asked number request found
    simp only [Line.hear, List.length_append, List.length_singleton]
    rw [List.take_append_of_le_length early]
    exact ⟨by omega, asks⟩
  heard_le := by
    simp only [Line.hear, List.length_append, List.length_singleton]
    exact waiting
  answered := sound.answered
  heard number answer found := by
    simp only [Line.hear, List.getElem?_append] at found
    split at found
    · exact sound.heard number answer found
    · obtain ⟨rfl, rfl⟩ : number = line.heard.length ∧ reply = .ok answer := by
        rw [List.getElem?_singleton] at found
        split at found
        · exact ⟨by omega, Option.some.inj found⟩
        · contradiction
      exact known answer rfl

/-- A post follows an answer that gave the nonce for it. -/
theorem nonce_of_post (sound : line.Sound call)
    (made : line.sent[number]? = some (.post url mediaType body)) :
    ∃ before newNonce answer nonce, number = before + 1 ∧ line.Done before (.head newNonce) answer ∧
      answer.nonce = .ok nonce ∧ Envelope.nonce? body = some nonce := by
  obtain ⟨early, asks⟩ := sound.asked _ _ made
  obtain ⟨_, front, answer, nonce, last, head, found, reads, -⟩ := OrderCall.posts_of_request? asks
  have size : number = front.length + 1 := by
    have lengths := congrArg List.length last
    simpa [early] using lengths
  subst size
  have heard : line.heard[front.length]? = some (.ok answer) := by
    have last := congrArg (·[front.length]?) last
    simpa [List.getElem?_take] using last
  have before : line.heard.take front.length = front := by
    have fronts := congrArg (List.take front.length) last
    simpa [List.take_take] using fronts
  have inside : front.length < line.sent.length := by
    have := (List.getElem?_eq_some_iff.mp made).1
    omega
  obtain ⟨-, asked⟩ := sound.asked _ _ (List.getElem?_eq_getElem inside)
  rw [before, head] at asked
  refine ⟨front.length, call.account.provider.endpoints.newNonce, answer, nonce, rfl,
    ⟨?_, sound.heard _ _ heard⟩, found, reads⟩
  rw [List.getElem?_eq_getElem inside, ← asked]

/-- A post that other requests follow was answered with a rejection of its nonce. -/
theorem rejected_of_lt (sound : line.Sound call)
    (made : line.sent[number]? = some (.post url mediaType body)) (later : number < other)
    (follows : line.sent[other]? = some request) :
    ∃ answer, line.answered number = some answer ∧ answer.RejectsNonce := by
  obtain ⟨-, asks⟩ := sound.asked _ _ made
  obtain ⟨early, -⟩ := sound.asked _ _ follows
  have inside : number + 1 < line.sent.length := by
    have := (List.getElem?_eq_some_iff.mp follows).1
    omega
  obtain ⟨-, goesOn⟩ := sound.asked _ _ (List.getElem?_eq_getElem inside)
  have heard : number < line.heard.length := by omega
  rw [← List.take_append_getElem heard] at goesOn
  obtain ⟨answer, reply, rejects⟩ :=
    OrderCall.rejects_of_request? asks (by rw [goesOn]; exact Option.some_ne_none _)
  exact ⟨answer, sound.heard _ _ (by rw [List.getElem?_eq_getElem heard, reply]), rejects⟩

/-- A call that returns an order had a post accepted, and the answer said where the order is. -/
theorem accepted_of_ran (sound : line.Sound call) (done : (call.ran line.heard).1 = .ok order) :
    ∃ number url mediaType body answer, line.Done number (.post url mediaType body) answer ∧
      answer.isOk ∧ answer.expectHeader "Location" = .ok order.url := by
  have waits (number : Nat) (inside : number < line.heard.length) :
      call.request? (line.heard.take number) ≠ none := by
    have made := Nat.lt_of_lt_of_le inside sound.heard_le
    rw [(sound.asked _ _ (List.getElem?_eq_getElem made)).2]
    exact Option.some_ne_none _
  obtain ⟨front, answer, url, mediaType, body, last, asks, accepted, located⟩ :=
    OrderCall.accepted_of_ran done waits
  have heard : line.heard[front.length]? = some (.ok answer) := by simp [last]
  have inside : front.length < line.sent.length := by
    have := sound.heard_le
    rw [last, List.length_append, List.length_singleton] at this
    omega
  obtain ⟨-, asked⟩ := sound.asked _ _ (List.getElem?_eq_getElem inside)
  rw [last, List.take_left, asks] at asked
  refine ⟨front.length, url, mediaType, body, answer, ⟨?_, sound.heard _ _ heard⟩, accepted, located⟩
  rw [List.getElem?_eq_getElem inside, ← asked]

end Sound

theorem done_ask (sound : line.Sound call) (request : Call) {next : Call} {answer : Response} :
    (line.ask request).Done number next answer ↔ line.Done number next answer := by
  refine and_congr_left fun answered => ?_
  have inside := sound.answered number answer answered
  rw [Line.ask, List.getElem?_append_left inside]

theorem done_answer (made : line.sent[number]? = some request) (unanswered : line.answered number = none)
    (answer : Response) {next : Call} {given : Response} :
    (line.answer number answer).Done other next given ↔
      line.Done other next given ∨ other = number ∧ next = request ∧ given = answer := by
  by_cases same : other = number
  · subst same
    have undone : ¬ line.Done other next given := fun done => by
      rw [Done, unanswered] at done
      simp at done
    rw [or_iff_right undone, Done, answered_answer_self, Option.some.injEq]
    rw [show (line.answer other answer).sent = line.sent from rfl, made, Option.some.injEq]
    exact ⟨fun ⟨asked, replied⟩ => ⟨rfl, asked.symm, replied.symm⟩,
      fun ⟨_, asked, replied⟩ => ⟨asked.symm, replied.symm⟩⟩
  · simp only [same, false_and, or_false, Done, answered_answer_other same]
    rfl

/-- Where a post waits for its answer, no other one has been accepted. -/
theorem Sound.not_isOk (sound : line.Sound call) (made : line.sent[number]? = some (.post url mediaType body))
    (unanswered : line.answered number = none) {otherUrl : Json} {otherType : String} {otherBody : Bytes}
    {answer : Response} (done : line.Done other (.post otherUrl otherType otherBody) answer) :
    ¬ answer.isOk := by
  obtain ⟨found, answered⟩ := done
  obtain before | rfl | behind := Nat.lt_trichotomy other number
  · obtain ⟨rejection, given, rejects⟩ := sound.rejected_of_lt found before made
    rw [answered, Option.some.injEq] at given
    simp [given, rejects.1]
  · rw [unanswered] at answered
    contradiction
  · obtain ⟨rejection, given, -⟩ := sound.rejected_of_lt made behind found
    rw [unanswered] at given
    contradiction

end Line

end AcmeClient
