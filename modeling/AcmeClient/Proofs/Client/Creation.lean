import AcmeClient.Proofs.Client.AccountKey

namespace AcmeClient

variable {α β : Type} {response : Response} {url : String} {failure : Failure} {world : World}
  {read : Json → Except Failure α} {make : α → String → β} {value : β}

/-- The first field whose name is that of addresses, in whatever case, holds an address that is not
empty. -/
def Response.Locates (response : Response) (url : String) : Prop :=
  url ≠ "" ∧ ∃ before name after, response.headers = before ++ (name, url) :: after ∧
    Text.lowerString name = "location" ∧ ∀ field ∈ before, Text.lowerString field.1 ≠ "location"

namespace Response

theorem header?_eq_some_iff : response.header? "Location" = some url ↔
    ∃ before name after, response.headers = before ++ (name, url) :: after ∧
      Text.lowerString name = "location" ∧ ∀ field ∈ before, Text.lowerString field.1 ≠ "location" := by
  have wanted : Text.lowerString "Location" = "location" := by decide
  simp only [header?, wanted, Option.map_eq_some_iff, List.find?_eq_some_iff_append, beq_iff_eq]
  constructor
  · intro found
    obtain ⟨⟨name, value⟩, ⟨named, before, after, listed, others⟩, rfl⟩ := found
    exact ⟨before, name, after, listed, named, by simpa using others⟩
  · intro ⟨before, name, after, listed, named, others⟩
    exact ⟨(name, url), ⟨named, before, after, listed, by simpa using others⟩, rfl⟩

theorem expectHeader_eq_ok_iff : response.expectHeader "Location" = .ok url ↔ response.Locates url := by
  rw [Locates, ← header?_eq_some_iff, expectHeader]
  cases response.header? "Location" with
  | none => simp
  | some found =>
      simp only [Option.some.injEq]
      split
      · rename_i empty
        simp only [reduceCtorEq, false_iff, not_and]
        intro some same
        exact some (same.symm.trans empty)
      · rename_i some
        simp only [Except.ok.injEq, iff_and_self]
        intro same
        rwa [← same]

theorem expectHeader_of_not_locates (nowhere : ∀ url, ¬ response.Locates url) :
    response.expectHeader "Location" = .error (.fault (.missingHeader "Location")) := by
  cases expected : response.expectHeader "Location" with
  | ok url => exact absurd (expectHeader_eq_ok_iff.mp expected) (nowhere url)
  | error failure =>
      unfold expectHeader at expected
      split at expected
      · split at expected <;> cases expected
        rfl
      · cases expected
        rfl

theorem made_of_not_locates (nowhere : ∀ url, ¬ response.Locates url) :
    response.made read make = .error (.fault (.missingHeader "Location")) := by
  rw [made, expectHeader_of_not_locates nowhere]
  rfl

theorem made_of_locates (located : response.Locates url) : response.made read make = do
    let resource ← read (← response.json)
    return make resource url := by
  rw [made, expectHeader_eq_ok_iff.mpr located]
  rfl

theorem made_eq_ok_iff_locates : response.made read make = .ok value ↔ ∃ url document resource,
    response.Locates url ∧ Json.read response.body response.room = .ok document ∧ read document = .ok resource ∧
      value = make resource url := by
  simp only [made_eq_ok_iff, expectHeader_eq_ok_iff, json_eq_ok_iff]

end Response

/-- What is created by a request, with all that was sent and received meanwhile. -/
structure Creates (requested : Except Failure Response × World) (read : Json → Except Failure α)
    (make : α → String → β) (world : World) (ran : Except Failure β × World)
    (transcript : Transcript) : Prop where
  /-- All that is sent is sent by the request. -/
  asked : Exchanged world requested.2 transcript
  exchanged : Exchanged world ran.2 transcript
  /-- The request succeeds exactly if what was sent last is a post that is answered with success. -/
  succeeds : ∀ response, requested.1 = .ok response ↔ transcript.AnsweredBy response ∧ response.isOk
  /-- Something is created exactly if that reply has an address and a record. -/
  made : ∀ value, ran.1 = .ok value ↔ ∃ response url document resource, transcript.AnsweredBy response ∧
    response.isOk ∧ response.Locates url ∧ Json.read response.body response.room = .ok document ∧
    read document = .ok resource ∧ value = make resource url
  /-- What ends the request is told as it is. -/
  refused : ∀ failure, requested.1 = .error failure → ran = (.error failure, requested.2)
  /-- A reply without an address is not looked into any further. -/
  nowhere : ∀ response, transcript.AnsweredBy response → response.isOk → (∀ url, ¬ response.Locates url) →
    ran.1 = .error (.fault (.missingHeader "Location"))
  unread : ∀ response url failure, transcript.AnsweredBy response → response.isOk → response.Locates url →
    response.json = .error failure → ran.1 = .error failure
  unfit : ∀ response url document failure, transcript.AnsweredBy response → response.isOk →
    response.Locates url → Json.read response.body response.room = .ok document → read document = .error failure →
    ran.1 = .error failure
  rests : world.Rests ran.2

namespace Creates

variable {between : World} {ran : Except Failure β × World} {transcript : Transcript}

theorem of_refused (exchanged : Exchanged world between transcript) (rests : world.Rests between)
    (succeeds : ∀ response, (.error failure : Except Failure Response) = .ok response ↔
      transcript.AnsweredBy response ∧ response.isOk) :
    Creates (.error failure, between) read make world (.error failure, between) transcript := by
  have unanswered (response : Response) (answered : transcript.AnsweredBy response) : ¬ response.isOk :=
    fun accepted => by simpa using (succeeds response).mpr ⟨answered, accepted⟩
  refine ⟨exchanged, exchanged, succeeds, fun value => ?_, ?_, ?_, ?_, ?_, rests⟩
  · simp only [reduceCtorEq, false_iff]
    intro ⟨response, _, _, _, answered, accepted, _⟩
    exact unanswered response answered accepted
  · intro other same
    cases same
    rfl
  · intro response answered accepted
    exact absurd accepted (unanswered response answered)
  · intro response _ _ answered accepted
    exact absurd accepted (unanswered response answered)
  · intro response _ _ _ answered accepted
    exact absurd accepted (unanswered response answered)

theorem of_answered (asked : Exchanged world between transcript)
    (exchanged : Exchanged world ran.2 transcript) (rests : world.Rests ran.2)
    (succeeds : ∀ other, (.ok response : Except Failure Response) = .ok other ↔
      transcript.AnsweredBy other ∧ other.isOk)
    (reads : ran.1 = response.made read make) :
    Creates (.ok response, between) read make world ran transcript := by
  -- What was sent last has one reply, so every statement is about this response.
  have same {other : Response} (answered : transcript.AnsweredBy other) (accepted : other.isOk) :
      response = other := Except.ok.inj ((succeeds other).mpr ⟨answered, accepted⟩)
  refine ⟨asked, exchanged, succeeds, fun value => ?_, fun failure failed => by contradiction, ?_, ?_, ?_,
    rests⟩
  · rw [reads, Response.made_eq_ok_iff_locates]
    constructor
    · intro ⟨url, document, resource, told⟩
      obtain ⟨answered, accepted⟩ := (succeeds response).mp rfl
      exact ⟨response, url, document, resource, answered, accepted, told⟩
    · intro ⟨other, url, document, resource, answered, accepted, told⟩
      rw [same answered accepted]
      exact ⟨url, document, resource, told⟩
  · intro other answered accepted nowhere
    obtain rfl := same answered accepted
    rw [reads, Response.made_of_not_locates nowhere]
  · intro other url failure answered accepted located unread
    obtain rfl := same answered accepted
    rw [reads, Response.made_of_locates located, unread]
    rfl
  · intro other url document failure answered accepted located told unfit
    obtain rfl := same answered accepted
    rw [reads, Response.made_of_locates located, Response.json_eq_ok_iff.mpr told]
    simp [bind, Except.bind, unfit]

end Creates

namespace Provider

variable {provider : Provider} {build : Builder} {next : Response → Client β}

/-- What follows a request and reads its reply creates all or nothing. -/
theorem request_creates (quiet : build.IsQuiet) (stays : ∀ nonce, Client.Keeps World.Rests (build nonce))
    (silent : ∀ response, Client.Keeps Silent (next response))
    (rests : ∀ response, Client.Keeps World.Rests (next response))
    (reads : ∀ response world, (Client.outcome (next response) world).1 = response.made read make)
    (limit : Option Int) (world : World) :
    ∃ transcript, Creates (Client.outcome (provider.request build limit) world) read make world
      (Client.outcome (provider.request build limit >>= next) world) transcript := by
  obtain ⟨transcript, exchanged, -, succeeds⟩ := request_sends provider quiet limit world
  have resting : Client.Keeps World.Rests (provider.request build limit) :=
    keeps_request World.lasts_rests (fun _ _ => ⟨rfl, rfl⟩) stays
  refine ⟨transcript, ?_⟩
  cases requested : Client.outcome (provider.request build limit) world with
  | mk result between =>
      have rested := resting world
      rw [requested] at exchanged succeeds rested
      cases result with
      | error failure =>
          rw [Client.outcome_bind_error requested]
          exact .of_refused exchanged rested succeeds
      | ok response =>
          rw [Client.outcome_bind_ok requested]
          have whole := exchanged.trans (silent response between)
          rw [List.append_nil] at whole
          exact .of_answered exchanged whole (World.lasts_rests.trans rested (rests response between))
            succeeds (reads response between)

theorem sealing_creates {logger message : String} {target : Json} {key : AccountKey} {sender : Sender}
    {content : Json} (lasts : ∀ {kept : World → World → Prop}, Client.Lasts kept → ∀ response,
      Client.Keeps kept (next response))
    (reads : ∀ response world, (Client.outcome (next response) world).1 = response.made read make)
    (world : World) :
    let request := provider.request (sealing logger message target key sender content) none
    ∃ transcript, Creates (Client.outcome request world) read make world
      (Client.outcome (request >>= next) world) transcript :=
  request_creates sealing_isQuiet (fun nonce => keeps_sealing World.lasts_rests nonce) (lasts lasts_silent)
    (lasts World.lasts_rests) reads none world

/-- The request of a registration. -/
def requestAccount (provider : Provider) (key : AccountKey) (contact : List Json) : Client Response :=
  let url := provider.endpoints.newAccount
  provider.request (sealing "acmelib.directory" s!"Call new account endpoint: {url.asText}" url key .publicKey
    (registration contact)) none

theorem register_creates (provider : Provider) (realm : String) (key : AccountKey) {contact : Json}
    {items : List Json} (listed : Resource.elements contact = .ok items) (world : World) :
    ∃ transcript, Creates (Client.outcome (provider.requestAccount key items) world) Resource.Account.ofJson
      (fun resource url => ⟨provider, realm, key, resource, url⟩) world
      (Client.outcome (provider.register realm contact key) world) transcript := by
  rw [register_eq, listed]
  exact sealing_creates (fun lasts => keeps_registered lasts realm)
    (fun response _ => outcome_registered realm response) world

end Provider

/-- The request of an order. -/
def Account.requestOrder (account : Account) (names : List Json) : Client Response :=
  let url := account.provider.endpoints.newOrder
  account.provider.request (Provider.sealing "acmelib.account" s!"Call new order endpoint: {url.asText}" url
    account.key (.account (.str account.url)) (Resource.Order.request (names.map .dns))) none

theorem Account.order_creates (account : Account) (primary : Json) {others : Json} {names : List Json}
    (listed : otherNames others = .ok names) (world : World) :
    ∃ transcript, Creates (Client.outcome (account.requestOrder (primary :: names)) world)
      Resource.Order.ofJson (fun resource url => ⟨account, resource, url⟩) world
      (Client.outcome (account.order primary others) world) transcript := by
  rw [order_eq, listed]
  exact Provider.sealing_creates (fun lasts => keeps_taken lasts account _)
    (fun response _ => outcome_taken account _ response) world

/-- An order is created as a whole or not at all, and so is an account once its key is there. Names that
are no list end an order before anything is sent. -/
theorem created_or_not (world : World) :
    (∀ (account : Account) (primary others : Json),
      let ran := Client.outcome (account.order primary others) world
      (∀ s, others = .str s → ran = (.error (.defect (.namesAsText (Text.quotedString s))), world)) ∧
      (∀ failure, Account.otherNames others = .error failure → ran = (.error failure, world)) ∧
      ∀ names, Account.otherNames others = .ok names → ∃ transcript,
        Creates (Client.outcome (account.requestOrder (primary :: names)) world) Resource.Order.ofJson
          (fun resource url => (⟨account, resource, url⟩ : Order)) world ran transcript) ∧
    ∀ (provider : Provider) (realm : String) (contact : Json),
      let keyed := Client.outcome (Provider.accountKey realm) world
      let ran := Client.outcome (provider.accountOfRealm realm contact) world
      (∀ failure, keyed.1 = .error failure → ran = (.error failure, keyed.2)) ∧
      ∀ key, keyed.1 = .ok key →
        (∀ failure, Resource.elements contact = .error failure → ran = (.error failure, keyed.2)) ∧
        ∀ items, Resource.elements contact = .ok items → ∃ transcript,
          Creates (Client.outcome (provider.requestAccount key items) keyed.2) Resource.Account.ofJson
            (fun resource url => (⟨provider, realm, key, resource, url⟩ : Account)) keyed.2 ran
            transcript := by
  constructor
  · intro account primary others ran
    have unnamed (failure : Failure) (failed : Account.otherNames others = .error failure) :
        ran = (.error failure, world) := by
      simp only [ran, Account.order_eq, failed]
      rfl
    refine ⟨fun s text => ?_, unnamed, fun names listed => account.order_creates primary listed world⟩
    exact unnamed _ (by rw [text]; rfl)
  · intro provider realm contact keyed ran
    constructor
    · intro failure failed
      have unkeyed : Client.outcome (Provider.accountKey realm) world = (.error failure, keyed.2) :=
        Prod.ext failed rfl
      exact Client.outcome_bind_error unkeyed
    · intro key known
      have found : Client.outcome (Provider.accountKey realm) world = (.ok key, keyed.2) := Prod.ext known rfl
      have registers : ran = Client.outcome (provider.register realm contact key) keyed.2 :=
        Client.outcome_bind_ok found
      rw [registers]
      refine ⟨fun failure failed => ?_, fun items listed =>
        Provider.register_creates provider realm key listed keyed.2⟩
      rw [Provider.register_eq, failed]
      rfl

end AcmeClient
