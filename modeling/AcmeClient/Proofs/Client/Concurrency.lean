import AcmeClient.Proofs.Client.OrderCall
import Mathlib.Logic.Relation

/-!
Orders that are placed at the same time. Each request and each reply may take any time or be lost, and
the provider takes the requests in any order. Still no call uses a nonce that is unknown or used up,
and none is the cause of more than one order.
-/

namespace AcmeClient

/-- What a provider has entered into its books: the nonces that it gave out, those that are used up,
and where the orders are that each call made it create. -/
structure Books (ι : Type) where
  issued : List String
  used : List String
  orders : ι → List String

variable {ι : Type}

namespace Books

variable {books after : Books ι} {done : ι → Nat → Call → Response → Prop} {caller other : ι}
  {number : Nat} {request : Call} {reply : Response} {nonce location : String} {url : Json}
  {mediaType : String} {body : Bytes}

/-- A provider's books agree with the requests that are done. -/
structure Agree (done : ι → Nat → Call → Response → Prop) (books : Books ι) : Prop where
  issued : ∀ {caller number url reply nonce}, done caller number (.head url) reply →
    reply.nonce = .ok nonce → nonce ∈ books.issued
  distinct : ∀ {caller number url reply other count address answer nonce},
    done caller number (.head url) reply → reply.nonce = .ok nonce →
    done other count (.head address) answer → answer.nonce = .ok nonce →
    caller = other ∧ number = count
  used : ∀ {nonce}, nonce ∈ books.used → ∃ caller number url mediaType body reply,
    done caller number (.post url mediaType body) reply ∧ Envelope.nonce? body = some nonce
  taken : ∀ {caller number url mediaType body reply}, done caller number (.post url mediaType body) reply →
    reply.isOk → ∃ location ∈ books.orders caller,
      ∀ named, reply.expectHeader "Location" = .ok named → named = location
  caused : ∀ {caller}, books.orders caller ≠ [] → ∃ number url mediaType body reply,
    done caller number (.post url mediaType body) reply ∧ reply.isOk
  single : ∀ caller, (books.orders caller).length ≤ 1
  apart : ∀ {caller other location}, location ∈ books.orders caller → location ∈ books.orders other →
    caller = other

/-- One more request is done. -/
def More (done : ι → Nat → Call → Response → Prop) (caller : ι) (number : Nat) (request : Call)
    (reply : Response) : ι → Nat → Call → Response → Prop :=
  fun other count next given =>
    done other count next given ∨ other = caller ∧ count = number ∧ next = request ∧ given = reply

theorem more_head {count : Nat} {address : Json} {answer : Response} :
    More done caller number (.post url mediaType body) reply other count (.head address) answer ↔
      done other count (.head address) answer := by
  simp [More]

theorem Agree.issue (agree : books.Agree done) (found : reply.nonce = .ok nonce)
    (fresh : nonce ∉ books.issued) :
    Agree (More done caller number (.head url) reply)
      { books with issued := nonce :: books.issued } where
  issued := by
    rintro _ _ _ _ _ (old | ⟨-, -, -, rfl⟩) given
    · exact List.mem_cons_of_mem _ (agree.issued old given)
    · rw [found] at given
      cases given
      exact List.mem_cons_self
  distinct := by
    rintro _ _ _ _ _ _ _ _ _ (old | ⟨rfl, rfl, -, rfl⟩) given (older | ⟨rfl, rfl, -, rfl⟩) same
    · exact agree.distinct old given older same
    · rw [found] at same
      cases same
      exact absurd (agree.issued old given) fresh
    · rw [found] at given
      cases given
      exact absurd (agree.issued older same) fresh
    · exact ⟨rfl, rfl⟩
  used member := by
    obtain ⟨_, _, _, _, _, _, old, reads⟩ := agree.used member
    exact ⟨_, _, _, _, _, _, .inl old, reads⟩
  taken := by
    rintro _ _ _ _ _ _ (old | ⟨-, -, other, -⟩) accepted
    · exact agree.taken old accepted
    · contradiction
  caused some := by
    obtain ⟨_, _, _, _, _, old, accepted⟩ := agree.caused some
    exact ⟨_, _, _, _, _, .inl old, accepted⟩
  single := agree.single
  apart := agree.apart

theorem Agree.decline {used : List String} (agree : books.Agree done) (declined : reply.isOk = false)
    (reads : ∀ nonce ∈ used, nonce ∈ books.used ∨ Envelope.nonce? body = some nonce) :
    Agree (More done caller number (.post url mediaType body) reply) { books with used } where
  issued given := agree.issued (more_head.mp given)
  distinct given found other := agree.distinct (more_head.mp given) found (more_head.mp other)
  used member := by
    obtain before | named := reads _ member
    · obtain ⟨_, _, _, _, _, _, old, reads⟩ := agree.used before
      exact ⟨_, _, _, _, _, _, .inl old, reads⟩
    · exact ⟨_, _, _, _, _, _, .inr ⟨rfl, rfl, rfl, rfl⟩, named⟩
  taken := by
    rintro _ _ _ _ _ _ (old | ⟨-, -, -, rfl⟩) accepted
    · exact agree.taken old accepted
    · rw [declined] at accepted
      contradiction
  caused some := by
    obtain ⟨_, _, _, _, _, old, accepted⟩ := agree.caused some
    exact ⟨_, _, _, _, _, .inl old, accepted⟩
  single := agree.single
  apart := agree.apart

variable [DecidableEq ι]

/-- How a provider answers a request. Only a nonce that it gave out and that is not used up lets it
create an order or refuse to. -/
inductive Answers (books : Books ι) (caller : ι) : Call → Response → Books ι → Prop
  | issue {url : Json} {reply : Response} {nonce : String} :
      reply.nonce = .ok nonce → nonce ∉ books.issued →
      Answers books caller (.head url) reply { books with issued := nonce :: books.issued }
  | reject {url : Json} {mediaType : String} {body : Bytes} {reply : Response} :
      reply.RejectsNonce → Answers books caller (.post url mediaType body) reply books
  | refuse {url : Json} {mediaType : String} {body : Bytes} {reply : Response} {nonce : String} :
      Envelope.nonce? body = some nonce → nonce ∈ books.issued → nonce ∉ books.used →
      reply.isOk = false →
      Answers books caller (.post url mediaType body) reply { books with used := nonce :: books.used }
  | create {url : Json} {mediaType : String} {body : Bytes} {reply : Response} {nonce location : String} :
      Envelope.nonce? body = some nonce → nonce ∈ books.issued → nonce ∉ books.used →
      reply.isOk → (∀ other, location ∉ books.orders other) →
      (∀ named, reply.expectHeader "Location" = .ok named → named = location) →
      Answers books caller (.post url mediaType body) reply
        { books with
          used := nonce :: books.used
          orders := Function.update books.orders caller (location :: books.orders caller) }

/-- Where nothing was accepted before, an order is the only one of its call. -/
theorem Agree.create (agree : books.Agree done) (reads : Envelope.nonce? body = some nonce)
    (accepted : reply.isOk) (new : ∀ other, location ∉ books.orders other)
    (names : ∀ named, reply.expectHeader "Location" = .ok named → named = location)
    (first : ∀ {count address otherType otherBody answer},
      done caller count (.post address otherType otherBody) answer → ¬ answer.isOk) :
    Agree (More done caller number (.post url mediaType body) reply)
      { books with
        used := nonce :: books.used
        orders := Function.update books.orders caller (location :: books.orders caller) } := by
  have none : books.orders caller = [] := Decidable.byContradiction fun some => by
    obtain ⟨_, _, _, _, _, old, accepted⟩ := agree.caused some
    exact first old accepted
  have mine : Function.update books.orders caller (location :: books.orders caller) caller =
      [location] := by rw [Function.update_self, none]
  have others {other : ι} (different : other ≠ caller) :
      Function.update books.orders caller (location :: books.orders caller) other =
        books.orders other := Function.update_of_ne different ..
  exact {
    issued := fun given => agree.issued (more_head.mp given)
    distinct := fun given found other => agree.distinct (more_head.mp given) found (more_head.mp other)
    used := by
      intro _ member
      obtain rfl | before := List.mem_cons.mp member
      · exact ⟨_, _, _, _, _, _, .inr ⟨rfl, rfl, rfl, rfl⟩, reads⟩
      · obtain ⟨_, _, _, _, _, _, old, reads⟩ := agree.used before
        exact ⟨_, _, _, _, _, _, .inl old, reads⟩
    taken := by
      rintro other _ _ _ _ _ (old | ⟨rfl, -, -, rfl⟩) taken
      · by_cases same : other = caller
        · subst same
          exact absurd taken (first old)
        · simp only [others same]
          exact agree.taken old taken
      · simp only [mine]
        exact ⟨location, List.mem_singleton_self _, names⟩
    caused := by
      intro other some
      by_cases same : other = caller
      · subst same
        exact ⟨_, _, _, _, _, .inr ⟨rfl, rfl, rfl, rfl⟩, accepted⟩
      · simp only [others same] at some
        obtain ⟨_, _, _, _, _, old, accepted⟩ := agree.caused some
        exact ⟨_, _, _, _, _, .inl old, accepted⟩
    single := by
      intro other
      by_cases same : other = caller
      · simp only [same, mine]
        exact Nat.le_refl _
      · simp only [others same]
        exact agree.single other
    apart := by
      intro one other place here there
      by_cases same : one = caller <;> by_cases sameToo : other = caller
      · rw [same, sameToo]
      · simp only [same, mine, others sameToo, List.mem_singleton] at here there
        exact absurd (here ▸ there) (new other)
      · simp only [sameToo, mine, others same, List.mem_singleton] at here there
        exact absurd (there ▸ here) (new one)
      · simp only [others same, others sameToo] at here there
        exact agree.apart here there }

theorem Agree.answers (agree : books.Agree done) (answers : books.Answers caller request reply after)
    (first : ∀ {url mediaType body}, request = .post url mediaType body →
      ∀ {count address otherType otherBody answer},
        done caller count (.post address otherType otherBody) answer → ¬ answer.isOk) :
    after.Agree (More done caller number request reply) := by
  cases answers with
  | issue found fresh => exact agree.issue found fresh
  | reject rejects => exact agree.decline rejects.1 fun _ member => .inl member
  | refuse reads known unused refused =>
      refine agree.decline refused fun other member => ?_
      obtain rfl | before := List.mem_cons.mp member
      · exact .inr reads
      · exact .inl before
  | create reads known unused accepted new names =>
      exact agree.create reads accepted new names (first rfl)

end Books

structure Traffic (ι : Type) where
  lines : ι → Line
  books : Books ι

namespace Traffic

variable {calls : ι → OrderCall} {traffic after : Traffic ι} {caller other : ι}

def start : Traffic ι := ⟨fun _ => .start, [], [], fun _ => []⟩

def Done (traffic : Traffic ι) (caller : ι) : Nat → Call → Response → Prop :=
  (traffic.lines caller).Done

/-- What passed on each line is what its call makes of what it heard, and the books agree with it. -/
structure Sound (calls : ι → OrderCall) (traffic : Traffic ι) : Prop where
  lines : ∀ caller, (traffic.lines caller).Sound (calls caller)
  books : traffic.books.Agree traffic.Done

theorem sound_start (calls : ι → OrderCall) : Sound calls start where
  lines caller := .start (calls caller)
  books := by
    constructor <;> simp [start, Done, Line.Done, Line.start]

/-- A post that waits for its answer is for a nonce that the provider gave out and that is not used
up. -/
theorem Sound.nonce_of_post {number : Nat} {url : Json} {mediaType : String} {body : Bytes}
    (sound : Sound calls traffic)
    (made : (traffic.lines caller).sent[number]? = some (.post url mediaType body))
    (unanswered : (traffic.lines caller).answered number = none) :
    ∃ nonce, Envelope.nonce? body = some nonce ∧ nonce ∈ traffic.books.issued ∧
      nonce ∉ traffic.books.used := by
  obtain ⟨before, _, answer, nonce, rfl, asked, found, reads⟩ :=
    (sound.lines caller).nonce_of_post made
  refine ⟨nonce, reads, sound.books.issued asked found, fun used => ?_⟩
  obtain ⟨other, count, _, _, otherBody, reply, posted, same⟩ := sound.books.used used
  obtain ⟨earlier, _, given, otherNonce, rfl, askedToo, foundToo, readsToo⟩ :=
    (sound.lines other).nonce_of_post posted.1
  obtain rfl : nonce = otherNonce := Option.some.inj (same.symm.trans readsToo)
  -- both posts use the nonce of one answer, so that they are the same one
  obtain ⟨rfl, rfl⟩ := sound.books.distinct asked found askedToo foundToo
  rw [posted.2] at unanswered
  contradiction

/-- A call that returns an order had just this one created. -/
theorem Sound.orders_of_ran {order : Order} (sound : Sound calls traffic)
    (done : ((calls caller).ran (traffic.lines caller).heard).1 = .ok order) :
    traffic.books.orders caller = [order.url] := by
  obtain ⟨number, url, mediaType, body, answer, posted, accepted, located⟩ :=
    (sound.lines caller).accepted_of_ran done
  obtain ⟨location, member, names⟩ := sound.books.taken posted accepted
  obtain ⟨only, single⟩ := List.length_eq_one_iff.mp
    (Nat.le_antisymm (sound.books.single caller) (List.length_pos_of_mem member))
  rw [single, List.mem_singleton] at member
  rw [single, ← member, names _ located]

variable [DecidableEq ι]

def put (traffic : Traffic ι) (caller : ι) (line : Line) : Traffic ι :=
  { traffic with lines := Function.update traffic.lines caller line }

/-- What may happen next: a call that has heard of its last request makes another one, the provider
answers a request, or a call hears the answer or that none will come. An answer may still be made when
the call does not wait for it any more. -/
inductive Step (calls : ι → OrderCall) : Traffic ι → Traffic ι → Prop
  | ask {traffic : Traffic ι} {caller : ι} {request : Call} :
      (traffic.lines caller).sent.length = (traffic.lines caller).heard.length →
      (calls caller).request? (traffic.lines caller).heard = some request →
      Step calls traffic (traffic.put caller ((traffic.lines caller).ask request))
  | answer {traffic : Traffic ι} {caller : ι} {number : Nat} {request : Call} {reply : Response}
      {books : Books ι} :
      (traffic.lines caller).sent[number]? = some request →
      (traffic.lines caller).answered number = none →
      traffic.books.Answers caller request reply books →
      Step calls traffic
        { traffic.put caller ((traffic.lines caller).answer number reply) with books }
  | hear {traffic : Traffic ι} {caller : ι} {reply : Response} :
      (traffic.lines caller).answered (traffic.lines caller).heard.length = some reply →
      Step calls traffic (traffic.put caller ((traffic.lines caller).hear (.ok reply)))
  | lose {traffic : Traffic ι} {caller : ι} {failure : Failure} :
      (traffic.lines caller).heard.length < (traffic.lines caller).sent.length →
      Step calls traffic (traffic.put caller ((traffic.lines caller).hear (.error failure)))

theorem lines_put_self (traffic : Traffic ι) (caller : ι) (line : Line) :
    (traffic.put caller line).lines caller = line := Function.update_self ..

theorem lines_put_other (different : other ≠ caller) (line : Line) :
    (traffic.put caller line).lines other = traffic.lines other := Function.update_of_ne different ..

theorem Sound.lines_put (sound : Sound calls traffic) {line : Line} (changed : line.Sound (calls caller)) :
    ∀ other, ((traffic.put caller line).lines other).Sound (calls other) := by
  intro other
  by_cases same : other = caller
  · rw [same, lines_put_self]
    exact changed
  · rw [lines_put_other same]
    exact sound.lines other

/-- A line that changes without another request being done. -/
theorem Sound.put (sound : Sound calls traffic) {line : Line} (changed : line.Sound (calls caller))
    (same : ∀ number request reply,
      line.Done number request reply ↔ traffic.Done caller number request reply) :
    Sound calls (traffic.put caller line) where
  lines := sound.lines_put changed
  books := by
    have unchanged : (traffic.put caller line).Done = traffic.Done := by
      funext other number request reply
      by_cases here : other = caller
      · rw [here, Done, lines_put_self]
        exact propext (same number request reply)
      · rw [Done, lines_put_other here, Done]
    rw [unchanged]
    exact sound.books

theorem Sound.step (sound : Sound calls traffic) (step : Step calls traffic after) :
    Sound calls after := by
  cases step with
  | @ask caller request free asks =>
      exact sound.put ((sound.lines caller).ask free asks) fun _ _ _ =>
        Line.done_ask (sound.lines caller) request
  | @hear caller reply answered =>
      have line := sound.lines caller
      refine sound.put (line.hear (line.answered _ _ answered) ?_) fun _ _ _ => Iff.rfl
      rintro _ ⟨⟩
      exact answered
  | @lose caller failure waiting =>
      refine sound.put ((sound.lines caller).hear waiting ?_) fun _ _ _ => Iff.rfl
      intro answer other
      contradiction
  | @answer caller number request reply books made unanswered answers =>
      have line := sound.lines caller
      have extended : (traffic.put caller ((traffic.lines caller).answer number reply)).Done =
          Books.More traffic.Done caller number request reply := by
        funext other count next given
        by_cases here : other = caller
        · subst here
          rw [Done, lines_put_self, Books.More]
          simp only [true_and]
          exact propext (Line.done_answer made unanswered reply)
        · rw [Done, lines_put_other here, Books.More]
          simp [here, Done]
      refine ⟨sound.lines_put (line.answer made unanswered reply), ?_⟩
      change Books.Agree (traffic.put caller ((traffic.lines caller).answer number reply)).Done books
      rw [extended]
      refine sound.books.answers answers fun post _ _ _ _ _ done => ?_
      subst post
      exact line.not_isOk made unanswered done

theorem sound_of_reached (reached : Relation.ReflTransGen (Step calls) start traffic) :
    Sound calls traffic := by
  induction reached with
  | refl => exact sound_start calls
  | tail _ step ih => exact ih.step step

/-- However calls that place orders, the provider and the net between them take turns: a post that
waits for its answer is for a nonce that is known and not used up. Each call has one order created at
most, and just the one that it returns. No two calls return the same order. -/
theorem orders_once (calls : ι → OrderCall)
    (reached : Relation.ReflTransGen (Step calls) start traffic) :
    (∀ caller number url mediaType body,
      (traffic.lines caller).sent[number]? = some (.post url mediaType body) →
      (traffic.lines caller).answered number = none →
      ∃ nonce, Envelope.nonce? body = some nonce ∧ nonce ∈ traffic.books.issued ∧
        nonce ∉ traffic.books.used) ∧
    (∀ caller, (traffic.books.orders caller).length ≤ 1) ∧
    (∀ caller order, ((calls caller).ran (traffic.lines caller).heard).1 = .ok order →
      traffic.books.orders caller = [order.url]) ∧
    (∀ caller other first second, caller ≠ other →
      ((calls caller).ran (traffic.lines caller).heard).1 = .ok first →
      ((calls other).ran (traffic.lines other).heard).1 = .ok second → first.url ≠ second.url) := by
  have sound := sound_of_reached reached
  refine ⟨fun _ _ _ _ _ => sound.nonce_of_post, sound.books.single, fun _ _ => sound.orders_of_ran, ?_⟩
  intro caller other first second different done doneToo same
  have mine : first.url ∈ traffic.books.orders caller := by simp [sound.orders_of_ran done]
  have others : first.url ∈ traffic.books.orders other := by simp [sound.orders_of_ran doneToo, same]
  exact different (sound.books.apart mine others)

section

variable {lines : ι → Line} {line : Line} {books entered : Books ι} {request : Call} {reply : Response}

theorem ask_step (free : line.sent.length = line.heard.length)
    (asks : (calls caller).request? line.heard = some request) :
    Step calls ⟨Function.update lines caller line, books⟩
      ⟨Function.update lines caller (line.ask request), books⟩ := by
  have step := @Step.ask _ _ calls ⟨Function.update lines caller line, books⟩ caller request
  simp only [put, Function.update_self, Function.update_idem] at step
  exact step free asks

theorem answer_step (number : Nat) (made : line.sent[number]? = some request)
    (unanswered : line.answered number = none) (answers : books.Answers caller request reply entered) :
    Step calls ⟨Function.update lines caller line, books⟩
      ⟨Function.update lines caller (line.answer number reply), entered⟩ := by
  have step := @Step.answer _ _ calls ⟨Function.update lines caller line, books⟩ caller number
    request reply entered
  simp only [put, Function.update_self, Function.update_idem] at step
  exact step made unanswered answers

theorem hear_step (answered : line.answered line.heard.length = some reply) :
    Step calls ⟨Function.update lines caller line, books⟩
      ⟨Function.update lines caller (line.hear (.ok reply)), books⟩ := by
  have step := @Step.hear _ _ calls ⟨Function.update lines caller line, books⟩ caller reply
  simp only [put, Function.update_self, Function.update_idem] at step
  exact step answered

end

/-- A call that has not begun may return an order for a nonce and at a place that are new. -/
theorem exists_served (calls : ι → OrderCall) (traffic : Traffic ι) (caller : ι) {names : List Json}
    {nonce : String} {url : Json} {body : Bytes}
    {answer response : Response} {order : Order} (fresh : traffic.lines caller = .start)
    (asks : (calls caller).Asks names (calls caller).course)
    (made : (calls caller).built names nonce = .ok (url, body))
    (given : answer.nonce = .ok nonce) (accepted : response.isOk)
    (located : (calls caller).account.accepted response = .ok order)
    (unknown : nonce ∉ traffic.books.issued) (unused : nonce ∉ traffic.books.used)
    (new : ∀ other, order.url ∉ traffic.books.orders other) :
    ∃ line, Relation.ReflTransGen (Step calls) traffic
        ⟨Function.update traffic.lines caller line, nonce :: traffic.books.issued,
          nonce :: traffic.books.used,
          Function.update traffic.books.orders caller (order.url :: traffic.books.orders caller)⟩ ∧
      ((calls caller).ran line.heard).1 = .ok order := by
  obtain ⟨first, second, returned⟩ := OrderCall.served asks made given accepted located
  have names (named : String) (found : response.expectHeader "Location" = .ok named) :
      named = order.url := by
    rw [OrderCall.expectHeader_of_accepted located, Except.ok.injEq] at found
    exact found.symm
  let asked := (Line.start.ask (.head (calls caller).account.provider.endpoints.newNonce)).answer 0 answer
  let posted := ((asked.hear (.ok answer)).ask (.post url Envelope.mediaType body)).answer 1 response
  have path : Relation.ReflTransGen (Step calls)
      ⟨Function.update traffic.lines caller .start, traffic.books⟩
      ⟨Function.update traffic.lines caller (posted.hear (.ok response)),
        nonce :: traffic.books.issued, nonce :: traffic.books.used,
        Function.update traffic.books.orders caller (order.url :: traffic.books.orders caller)⟩ := by
    refine .head (ask_step rfl first) (.head (answer_step 0 rfl rfl (.issue given unknown)) ?_)
    refine .head (hear_step (Line.answered_answer_self ..)) (.head (ask_step rfl second) ?_)
    refine .head (answer_step 1 rfl rfl ?_) (.single (hear_step (Line.answered_answer_self ..)))
    exact .create (OrderCall.nonce?_of_built made) List.mem_cons_self unused accepted new names
  rw [← fresh, Function.update_eq_self] at path
  exact ⟨_, path, returned⟩

/-- A call in a world without replies, for an account whose key signs everything. -/
def plainCall : OrderCall where
  account := {
    provider := {
      endpoints := ⟨.str "https://acme.test/nonce", .str "https://acme.test/account",
        .str "https://acme.test/order", .null, .null, .obj []⟩
      attempts := 1 }
    realm := "owner@acme.test"
    key := .ofSecret ⟨1, by decide, by decide⟩
    resource := ⟨.str "valid", [], true, .null⟩
    url := "https://acme.test/account/1" }
  known := ⟨.str _, .str _⟩
  primary := .str "acme.test"
  others := .arr []
  world := {
    replies := []
    silence := .fault (.noResponse "HEAD" "https://acme.test/nonce" "timed out")
    calls := []
    storage := .inMemory
    keySource := fun _ => ⟨1, by decide, by decide⟩
    generated := 0
    records := []
    clock := Transport.defaultTimeout
    transports := [] }

def givenNonce (nonce : String) : Response := ⟨200, [("Replay-Nonce", nonce)], []⟩

def createdOrder (location : String) : Response :=
  ⟨201, [("Location", location)], Text.Utf8.encode (Json.write .compact (.obj []))⟩

theorem expectHeader_single {name value : String} {status : Int} {body : Bytes} (some : value ≠ "") :
    Response.expectHeader name ⟨status, [(name, value)], body⟩ = .ok value := by
  simp [Response.expectHeader, Response.header?, some]

theorem nonce_givenNonce (nonce : String) (some : nonce ≠ "") : (givenNonce nonce).nonce = .ok nonce := by
  have checked : (givenNonce nonce).check = .ok (givenNonce nonce) :=
    Response.check_eq_ok_iff.mpr ⟨rfl, rfl⟩
  simp only [Response.nonce, checked, bind, Except.bind]
  exact expectHeader_single some

theorem accepted_createdOrder (account : Account) (location : String) (some : location ≠ "") :
    ∃ order, account.accepted (createdOrder location) = .ok order ∧ order.url = location := by
  have located : (createdOrder location).expectHeader "Location" = .ok location := expectHeader_single some
  have body : (createdOrder location).json = .ok (.obj []) :=
    Response.json_eq_ok_iff.mpr (Json.read_write Json.Layout.separates_compact (.obj [] (by simp) (by simp)))
  simp only [Account.accepted, located, body, bind, Except.bind]
  exact ⟨_, rfl, rfl⟩

theorem asks_plainCall : plainCall.Asks [] plainCall.course := ⟨0, rfl⟩

theorem built_plainCall (nonce : String) : ∃ url body, plainCall.built [] nonce = .ok (url, body) :=
  ⟨_, _, rfl⟩

/-- Two equal calls return an order each. -/
theorem orders_of_equal_calls : ∃ (traffic : Traffic Bool) (first second : Order),
    Relation.ReflTransGen (Step fun _ => plainCall) start traffic ∧
      (plainCall.ran (traffic.lines false).heard).1 = .ok first ∧
      (plainCall.ran (traffic.lines true).heard).1 = .ok second ∧
      traffic.books.orders false = [first.url] ∧ traffic.books.orders true = [second.url] ∧
      first.url ≠ second.url := by
  obtain ⟨_, _, made⟩ := built_plainCall "1"
  obtain ⟨_, _, madeToo⟩ := built_plainCall "2"
  obtain ⟨first, located, place⟩ :=
    accepted_createdOrder plainCall.account "https://acme.test/order/1" (by simp)
  obtain ⟨second, locatedToo, placeToo⟩ :=
    accepted_createdOrder plainCall.account "https://acme.test/order/2" (by simp)
  obtain ⟨line, path, returned⟩ := exists_served (fun _ : Bool => plainCall) start false rfl
    asks_plainCall made (nonce_givenNonce "1" (by simp)) rfl located (by simp [start]) (by simp [start])
    (by simp [start])
  obtain ⟨lineToo, pathToo, returnedToo⟩ := exists_served (fun _ : Bool => plainCall)
    ⟨Function.update start.lines false line, ["1"], ["1"],
      Function.update (fun _ => []) false [first.url]⟩ true rfl
    asks_plainCall madeToo (nonce_givenNonce "2" (by simp)) rfl locatedToo (by simp) (by simp)
    (by simp [Function.update_apply, place, placeToo])
  obtain ⟨-, -, returns, apart⟩ := orders_once (fun _ : Bool => plainCall) (path.trans pathToo)
  refine ⟨_, first, second, path.trans pathToo, ?_, ?_, ?_, ?_, ?_⟩
  · exact returned
  · exact returnedToo
  · exact returns false first returned
  · exact returns true second returnedToo
  · exact apart false true first second (by simp) returned returnedToo

end Traffic

end AcmeClient
