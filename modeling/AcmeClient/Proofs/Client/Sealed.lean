import AcmeClient.Client.Account
import AcmeClient.Proofs.Client.Request
import AcmeClient.Proofs.Json.Documents

namespace AcmeClient

/-- Every post stands right behind a request for a nonce, whose reply holds the nonce that the posted
body was built for. -/
inductive Transcript.Sealed (newNonce : Json) (built : String → Json → Bytes → Prop) :
    Transcript → Prop
  | nil : Sealed newNonce built []
  | asked {reply rest} :
      Sealed newNonce built rest → Sealed newNonce built ((.head newNonce, reply) :: rest)
  | posted {reply nonce url body answer rest} :
      reply.nonce = .ok nonce → built nonce url body → Sealed newNonce built rest →
      Sealed newNonce built
        ((.head newNonce, .ok reply) :: (.post url Envelope.mediaType body, answer) :: rest)

variable {newNonce : Json} {built wider : String → Json → Bytes → Prop}
  {first second : Transcript} {world between after : World}

namespace Transcript.Sealed

theorem append (before : Sealed newNonce built first) (later : Sealed newNonce built second) :
    Sealed newNonce built (first ++ second) := by
  induction before with
  | nil => exact later
  | asked _ ih => exact .asked ih
  | posted found builds _ ih => exact .posted found builds ih

theorem mono (allSealed : Sealed newNonce built first)
    (implied : ∀ nonce url body, built nonce url body → wider nonce url body) :
    Sealed newNonce wider first := by
  induction allSealed with
  | nil => exact .nil
  | asked _ ih => exact .asked ih
  | posted found builds _ ih => exact .posted found (implied _ _ _ builds) ih

theorem built_of_mem {url : Json} {mediaType : String} {body : Bytes} {reply : Reply}
    (allSealed : Sealed newNonce built first)
    (member : (.post url mediaType body, reply) ∈ first) : ∃ nonce, built nonce url body := by
  induction allSealed with
  | nil => simp at member
  | asked _ ih =>
      rw [List.mem_cons] at member
      obtain same | member := member
      · simp at same
      · exact ih member
  | posted found builds _ ih =>
      rw [List.mem_cons, List.mem_cons] at member
      obtain same | same | member := member
      · simp at same
      · simp only [Prod.mk.injEq, Call.post.injEq] at same
        obtain ⟨⟨rfl, -, rfl⟩, -⟩ := same
        exact ⟨_, builds⟩
      · exact ih member

end Transcript.Sealed

/-- The last request was a post, and the response answers it. -/
def Transcript.AnsweredBy (transcript : Transcript) (response : Response) : Prop :=
  ∃ url body, transcript.getLast? = some (.post url Envelope.mediaType body, .ok response)

/-- Nothing was sent between two worlds. -/
def Silent (world after : World) : Prop := Exchanged world after []

theorem lasts_silent : Client.Lasts Silent where
  refl _ := .silent rfl rfl rfl
  trans first second := Exchanged.trans first second
  told := .told

/-- What a builder may come to. -/
def Builder.Builds (build : Builder) (nonce : String) (url : Json) (body : Bytes) : Prop :=
  ∃ world after, Client.outcome (build nonce) world = (.ok (url, body), after)

section

variable {α β : Type} {read : Json → Except Failure α} {make : α → String → β}

/-- What is made of a response: a record, with the address at which it stands. -/
def Response.made (read : Json → Except Failure α) (make : α → String → β) (response : Response) :
    Except Failure β := do
  let url ← response.expectHeader "Location"
  let resource ← read (← response.json)
  return make resource url

theorem Response.made_eq_ok_iff {response : Response} {value : β} : response.made read make = .ok value ↔
    ∃ url document resource, response.expectHeader "Location" = .ok url ∧ response.json = .ok document ∧
      read document = .ok resource ∧ value = make resource url := by
  simp only [made, Json.bind_eq_ok_iff, pure, Except.pure, Except.ok.injEq, ← exists_and_left,
    eq_comm (b := value)]

theorem Client.keeps_made {kept : World → World → Prop} {next : String → α → Client β}
    (lasts : Client.Lasts kept)
    (later : ∀ address resource, Client.Keeps kept (next address resource)) (response : Response) :
    Client.Keeps kept (do
      let address ← Provider.expectHeader "Location" response
      let resource ← ofExcept (read (← ofExcept response.json))
      next address resource) := by
  refine Client.keeps_bind lasts (Client.keeps_ofExcept lasts _) fun address => ?_
  refine Client.keeps_bind lasts (Client.keeps_ofExcept lasts _) fun document => ?_
  exact Client.keeps_bind lasts (Client.keeps_ofExcept lasts _) fun resource => later address resource

theorem Client.outcome_made {next : String → α → Client β} (makes : ∀ address resource world, ∃ after,
      Client.outcome (next address resource) world = (.ok (make resource address), after))
    (response : Response) (world : World) :
    (Client.outcome (do
      let address ← Provider.expectHeader "Location" response
      let resource ← ofExcept (read (← ofExcept response.json))
      next address resource) world).1 = response.made read make := by
  rw [Client.outcome_bind, Provider.expectHeader, Client.outcome_ofExcept, Response.made]
  cases response.expectHeader "Location" with
  | error failure => rfl
  | ok address =>
      simp only
      rw [Client.outcome_bind, Client.outcome_ofExcept]
      cases response.json with
      | error failure => rfl
      | ok document =>
          simp only
          rw [Client.outcome_bind, Client.outcome_ofExcept]
          cases found : read document with
          | error failure => simp [bind, Except.bind, found]
          | ok resource =>
              obtain ⟨after, done⟩ := makes address resource world
              simp [bind, Except.bind, found, done, pure, Except.pure]

end

namespace Provider

variable {provider : Provider} {build : Builder}

theorem Attempt.Made.sealed {attempt : Attempt}
    (made : Attempt.Made provider build world attempt after) :
    (attempt.exchanges provider.endpoints.newNonce).Sealed provider.endpoints.newNonce
      build.Builds := by
  cases made with
  | unheard | noNonce | unbuilt => exact .asked .nil
  | unanswered heard found built | answered heard found built =>
      exact .posted found ⟨_, _, built⟩ .nil

theorem Performed.sealed {attempts : List Attempt}
    (performed : Performed provider build world attempts after) :
    Transcript.Sealed provider.endpoints.newNonce build.Builds
      (attempts.flatMap (Attempt.exchanges provider.endpoints.newNonce)) := by
  induction performed with
  | last made => simpa using made.sealed
  | more made _ ih => exact made.sealed.append ih

theorem Attempt.answeredBy_iff {attempts : List Attempt} {last : Attempt} {response : Response}
    (isLast : attempts.getLast? = some last) :
    Transcript.AnsweredBy (attempts.flatMap (Attempt.exchanges newNonce)) response ↔
      last.answer? = some response := by
  obtain ⟨before, rfl⟩ := List.getLast?_eq_some_iff.mp isLast
  unfold Transcript.AnsweredBy
  cases last <;> simp [Attempt.exchanges, Attempt.answer?]

/-- What a request sends is sealed, and it succeeds exactly if what was sent last is a post that is
answered with success. -/
theorem request_sends (provider : Provider) (quiet : build.IsQuiet) (limit : Option Int) (world : World) :
    let ran := Client.outcome (provider.request build limit) world
    ∃ transcript : Transcript, Exchanged world ran.2 transcript ∧
      transcript.Sealed provider.endpoints.newNonce build.Builds ∧
      ∀ response, ran.1 = .ok response ↔ transcript.AnsweredBy response ∧ response.isOk := by
  intro ran
  by_cases few : limit.getD provider.attempts < 1
  · have failed : ran = (.error _, world) := request_few few
    rw [failed]
    exact ⟨[], .silent rfl rfl rfl, .nil, by simp [Transcript.AnsweredBy]⟩
  · obtain ⟨attempts, last, after, performed, isLast, -, done⟩ :=
      request_attempted provider build limit (by omega) world
    have whole : ran = (last.result, after) := done
    rw [whole]
    refine ⟨_, performed.exchanged quiet, performed.sealed, fun response => ?_⟩
    rw [Attempt.answeredBy_iff isLast]
    exact Attempt.result_eq_ok_iff

/-- What follows a request and sends nothing itself has the response to what was sent last. -/
theorem request_then {α : Type} {next : Response → Client α} (quiet : build.IsQuiet)
    (silent : ∀ response, Client.Keeps Silent (next response)) (limit : Option Int)
    (world : World) :
    let ran := Client.outcome (provider.request build limit >>= next) world
    ∃ transcript : Transcript, Exchanged world ran.2 transcript ∧
      transcript.Sealed provider.endpoints.newNonce build.Builds ∧
      ∀ value, ran.1 = .ok value → ∃ response between after, transcript.AnsweredBy response ∧
        Client.outcome (next response) between = (.ok value, after) := by
  obtain ⟨transcript, exchanged, allSealed, answers⟩ :=
    request_sends provider quiet limit world
  rw [Client.outcome_bind]
  cases requested : Client.outcome (provider.request build limit) world with
  | mk result between =>
      rw [requested] at exchanged answers
      cases result with
      | error failure => exact ⟨transcript, exchanged, allSealed, by simp⟩
      | ok response =>
          refine ⟨transcript, ?_, allSealed, fun value done => ?_⟩
          · simpa using exchanged.trans (silent response between)
          · exact ⟨response, between, _, ((answers response).mp rfl).1, Prod.ext done rfl⟩

/-- A body holds a content for an address, sealed with a key by its sender for a nonce. -/
def Seals (url : Json) (key : AccountKey) (sender : Sender) (content : Json) (nonce : String)
    (target : Json) (body : Bytes) : Prop :=
  target = url ∧ ∃ envelope, Envelope.sign key sender (.str nonce) url (some content) =
    .ok envelope ∧ body = envelope.bytes

variable {url : Json} {key : AccountKey} {sender : Sender} {content : Json}

theorem seals_of_sealed {nonce : String} {target : Json} {body : Bytes}
    (built : Client.outcome (Provider.sealed url key sender content nonce) world =
      (.ok (target, body), after)) : Seals url key sender content nonce target body := by
  unfold Provider.sealed at built
  cases signed : Envelope.sign key sender (.str nonce) url (some content) with
  | error fault =>
      simp only [signed, Client.outcome_throw, Prod.mk.injEq, reduceCtorEq, false_and] at built
  | ok envelope =>
      simp only [signed, Client.outcome_pure, Prod.mk.injEq, Except.ok.injEq] at built
      obtain ⟨⟨rfl, rfl⟩, -⟩ := built
      exact ⟨rfl, envelope, signed, rfl⟩

/-- A builder that seals a content and tells the log about it. -/
def sealing (logger message : String) (url : Json) (key : AccountKey) (sender : Sender)
    (content : Json) : Builder := fun nonce => do
  Client.debug logger message
  Provider.sealed url key sender content nonce

variable {logger message : String}

theorem keeps_sealing {kept : World → World → Prop} (lasts : Client.Lasts kept) (nonce : String) :
    Client.Keeps kept (sealing logger message url key sender content nonce) := by
  refine Client.keeps_bind lasts (Client.keeps_debug lasts _ _) fun _ => ?_
  unfold Provider.sealed
  cases Envelope.sign key sender (.str nonce) url (some content) with
  | error fault => exact Client.keeps_throw lasts _
  | ok envelope => exact Client.keeps_pure lasts _

theorem sealing_isQuiet : Builder.IsQuiet (sealing logger message url key sender content) :=
  fun nonce => keeps_sealing lasts_silent nonce

theorem seals_of_builds {nonce : String} {target : Json} {body : Bytes}
    (builds : (sealing logger message url key sender content).Builds nonce target body) :
    Seals url key sender content nonce target body := by
  obtain ⟨world, after, built⟩ := builds
  exact seals_of_sealed built

/-- The registration of an account whose key is known. -/
def register (provider : Provider) (realm : String) (contact : Json) (key : AccountKey) :
    Client Account := do
  let content := registration (← ofExcept (Resource.elements contact))
  let url := provider.endpoints.newAccount
  let response ← provider.request (sealing "acmelib.directory"
    s!"Call new account endpoint: {url.asText}" url key .publicKey content) none
  let accountUrl ← expectHeader "Location" response
  let resource ← ofExcept (Resource.Account.ofJson (← ofExcept response.json))
  Client.info "acmelib.directory" s!"Using account {accountUrl} for realm {realm}"
  return ⟨provider, realm, key, resource, accountUrl⟩

theorem accountOfRealm_eq (provider : Provider) (realm : String) (contact : Json) :
    provider.accountOfRealm realm contact =
      (do
        let key ← accountKey realm
        provider.register realm contact key) := rfl

/-- The account of a registration, made of the response to it. -/
def registered (provider : Provider) (realm : String) (key : AccountKey) (response : Response) :
    Client Account := do
  let accountUrl ← expectHeader "Location" response
  let resource ← ofExcept (Resource.Account.ofJson (← ofExcept response.json))
  Client.info "acmelib.directory" s!"Using account {accountUrl} for realm {realm}"
  return ⟨provider, realm, key, resource, accountUrl⟩

theorem register_eq (provider : Provider) (realm : String) (contact : Json) (key : AccountKey) :
    provider.register realm contact key =
      (do
        let content := registration (← ofExcept (Resource.elements contact))
        let url := provider.endpoints.newAccount
        provider.request (sealing "acmelib.directory"
          s!"Call new account endpoint: {url.asText}" url key .publicKey content) none >>=
            provider.registered realm key) := rfl

theorem outcome_registered (realm : String) (response : Response) :
    (Client.outcome (provider.registered realm key response) world).1 =
      response.made Resource.Account.ofJson fun resource url => ⟨provider, realm, key, resource, url⟩ :=
  Client.outcome_made (fun _ _ _ => ⟨_, rfl⟩) response world

theorem keeps_registered {kept : World → World → Prop} (lasts : Client.Lasts kept)
    (realm : String) (response : Response) :
    Client.Keeps kept (provider.registered realm key response) := by
  refine Client.keeps_made lasts (fun _ _ => ?_) response
  exact Client.keeps_bind lasts (Client.keeps_info lasts _ _) fun _ => Client.keeps_pure lasts _

theorem of_registered {realm : String} {response : Response} {account : Account}
    (done : Client.outcome (provider.registered realm key response) world = (.ok account, after)) :
    account.provider = provider ∧ account.realm = realm ∧ account.key = key ∧
      response.expectHeader "Location" = .ok account.url := by
  have made := congrArg Prod.fst done
  rw [outcome_registered] at made
  obtain ⟨url, document, resource, located, -, -, rfl⟩ := Response.made_eq_ok_iff.mp made
  exact ⟨rfl, rfl, rfl, located⟩

theorem keeps_register {kept : World → World → Prop} (lasts : Client.Lasts kept) {realm : String}
    {contact : Json}
    (requests : ∀ items, Resource.elements contact = .ok items → ∀ message,
      Client.Keeps kept (provider.request (sealing "acmelib.directory" message
        provider.endpoints.newAccount key .publicKey (registration items)) none)) :
    Client.Keeps kept (provider.register realm contact key) := by
  intro world
  rw [register_eq, Client.outcome_bind, Client.outcome_ofExcept]
  cases read : Resource.elements contact with
  | error failure => exact lasts.refl world
  | ok items =>
      exact Client.keeps_bind lasts (requests items read _) (keeps_registered lasts realm) world

/-- A registration sends its content only, and its account is the one that the last response names. -/
theorem register_sends (provider : Provider) (realm : String) (contact : Json) (key : AccountKey)
    (world : World) :
    let ran := Client.outcome (provider.register realm contact key) world
    ∃ transcript : Transcript, Exchanged world ran.2 transcript ∧
      transcript.Sealed provider.endpoints.newNonce (fun nonce target body =>
        ∃ items, Resource.elements contact = .ok items ∧
          Seals provider.endpoints.newAccount key .publicKey (registration items) nonce target body) ∧
      ∀ account, ran.1 = .ok account → account.provider = provider ∧ account.key = key ∧
        ∃ response, transcript.AnsweredBy response ∧
          response.expectHeader "Location" = .ok account.url := by
  rw [register_eq, Client.outcome_bind, Client.outcome_ofExcept]
  cases read : Resource.elements contact with
  | error failure => exact ⟨[], .silent rfl rfl rfl, .nil, by simp⟩
  | ok items =>
      obtain ⟨transcript, exchanged, allSealed, answers⟩ :=
        request_then sealing_isQuiet (keeps_registered lasts_silent realm) none world
      refine ⟨transcript, exchanged,
        allSealed.mono fun _ _ _ builds => ⟨items, rfl, seals_of_builds builds⟩, ?_⟩
      intro account done
      obtain ⟨response, _, _, answered, made⟩ := answers account done
      obtain ⟨hasProvider, -, hasKey, located⟩ := of_registered made
      exact ⟨hasProvider, hasKey, response, answered, located⟩

end Provider

namespace Account

/-- An order of several names that a provider has taken, made of its response. -/
def taken (account : Account) (count : Nat) (response : Response) : Client Order := do
  let orderUrl ← Provider.expectHeader "Location" response
  let resource ← ofExcept (Resource.Order.ofJson (← ofExcept response.json))
  Client.info "acmelib.account" s!"Created order {orderUrl} for {count} identifier(s)"
  return ⟨account, resource, orderUrl⟩

theorem order_eq (account : Account) (primary others : Json) :
    account.order primary others =
      (do
        let names := primary :: (← ofExcept (otherNames others))
        let url := account.provider.endpoints.newOrder
        account.provider.request (Provider.sealing "acmelib.account"
          s!"Call new order endpoint: {url.asText}" url account.key (.account (.str account.url))
          (Resource.Order.request (names.map .dns))) none >>= account.taken names.length) := rfl

theorem outcome_taken (account : Account) (count : Nat) (response : Response) :
    (Client.outcome (account.taken count response) world).1 =
      response.made Resource.Order.ofJson fun resource url => ⟨account, resource, url⟩ :=
  Client.outcome_made (fun _ _ _ => ⟨_, rfl⟩) response world

theorem keeps_taken {kept : World → World → Prop} (lasts : Client.Lasts kept) (account : Account)
    (count : Nat) (response : Response) : Client.Keeps kept (account.taken count response) := by
  refine Client.keeps_made lasts (fun _ _ => ?_) response
  exact Client.keeps_bind lasts (Client.keeps_info lasts _ _) fun _ => Client.keeps_pure lasts _

theorem order_sends (account : Account) (primary others : Json) (world : World) :
    ∃ transcript : Transcript,
      Exchanged world (Client.outcome (account.order primary others) world).2 transcript ∧
      transcript.Sealed account.provider.endpoints.newNonce (fun nonce target body =>
        ∃ names, otherNames others = .ok names ∧
          Provider.Seals account.provider.endpoints.newOrder account.key
            (.account (.str account.url)) (Resource.Order.request ((primary :: names).map .dns))
            nonce target body) := by
  rw [order_eq, Client.outcome_bind, Client.outcome_ofExcept]
  cases read : otherNames others with
  | error failure => exact ⟨[], .silent rfl rfl rfl, .nil⟩
  | ok names =>
      obtain ⟨transcript, exchanged, allSealed, -⟩ := Provider.request_then
        Provider.sealing_isQuiet (keeps_taken lasts_silent account (primary :: names).length) none world
      exact ⟨transcript, exchanged,
        allSealed.mono fun _ _ _ builds => ⟨names, rfl, Provider.seals_of_builds builds⟩⟩

end Account

end AcmeClient
