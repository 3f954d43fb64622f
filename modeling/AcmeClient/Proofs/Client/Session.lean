import AcmeClient.Proofs.Client.Posts
import Mathlib.Data.List.Forall2

namespace AcmeClient

open Json

namespace Session

/-- A call. The directory or the account that it is made on is named by the number of the call that
returned it. -/
inductive Step where
  | openDirectory (url : String) (attempts : Int)
  | account (directory : Nat) (email : String)
  | accountOfRealm (directory : Nat) (realm : String) (contact : Option (List String))
  | order (account : Nat) (primary : String) (others : List String)
  | certificate (account : Nat) (name : String)

/-- What a call returned, as far as later calls can be made on it. -/
inductive Result where
  | provider (provider : Provider)
  | account (account : Account)
  | nothing

end Session

/-- The world after the calls so far, and what they returned. -/
structure Session where
  world : World
  results : List Session.Result

namespace Session

def provider? (session : Session) (number : Nat) : Option Provider :=
  match session.results[number]? with
  | some (.provider provider) => some provider
  | _ => none

def account? (session : Session) (number : Nat) : Option Account :=
  match session.results[number]? with
  | some (.account account) => some account
  | _ => none

def contactJson : Option (List String) → Json
  | none => .null
  | some contact => .arr (contact.map .str)

/-- A call is made only on what another one returned. -/
def call (session : Session) : Step → Client Result
  | .openDirectory url attempts => do return .provider (← Provider.ofUrl url attempts)
  | .account directory email =>
    match session.provider? directory with
    | some provider => do return .account (← provider.account email)
    | none => return .nothing
  | .accountOfRealm directory realm contact =>
    match session.provider? directory with
    | some provider => do return .account (← provider.accountOfRealm realm (contactJson contact))
    | none => return .nothing
  | .order number primary others =>
    match session.account? number with
    | some account => do
      let _ ← account.order (.str primary) (.arr (others.map .str))
      return .nothing
    | none => return .nothing
  | .certificate number name =>
    match session.account? number with
    | some account => do
      let _ ← account.certificate name
      return .nothing
    | none => return .nothing

/-- A call that fails returns nothing. -/
def after (session : Session) (step : Step) : Session :=
  let ran := Client.outcome (session.call step) session.world
  ⟨ran.2, session.results ++ [ran.1.toOption.getD .nothing]⟩

def run (world : World) (steps : List Step) : Session := steps.foldl after ⟨world, []⟩

/-- The posts of a call for the account of a realm name the public key of the realm's stored key, and
they all have one payload. -/
inductive Registers (before after : Session) (directory : Nat) (realm : String)
    (contact : List String) : Transcript → Prop
  | unsent : Registers before after directory realm contact []
  | sent {provider pem key payload transcript} :
      before.provider? directory = some provider →
      after.world.storage.content? (Provider.accountEntry realm) = some pem →
      AccountKey.ofPem pem = .ok key →
      Envelope.part? payload = some (.obj
        [("termsOfServiceAgreed", .bool true), ("contact", .arr (contact.map .str))]) →
      transcript.Sealed provider.endpoints.newNonce
        (Posts provider.endpoints.newAccount key ("jwk", key.publicJson) payload) →
      Registers before after directory realm contact transcript

/-- The exchange of a registration: the last post names the public key of the account, and the response
to it says where the account stands. -/
def Registered (account : Account) (transcript : Transcript) : Prop :=
  ∃ nonce url body payload response,
    transcript.getLast? = some (.post url Envelope.mediaType body, .ok response) ∧
    Envelope.Opens body account.key
      (Envelope.headerNaming ("jwk", account.key.publicJson) nonce url) payload ∧
    response.expectHeader "Location" = .ok account.url

/-- The posts of an order name the address at which the account's own registration put it, and they
all have one payload. -/
inductive Orders (sent : List Transcript) (before : Session) (number : Nat) (names : List String) :
    Transcript → Prop
  | unsent : Orders sent before number names []
  | sent {account registration payload transcript} :
      before.account? number = some account →
      sent[number]? = some registration → Registered account registration →
      Envelope.part? payload = some (.obj [("identifiers", .arr (names.map fun name =>
        .obj [("type", .str "dns"), ("value", .str name)]))]) →
      transcript.Sealed account.provider.endpoints.newNonce
        (Posts account.provider.endpoints.newOrder account.key ("kid", .str account.url) payload) →
      Orders sent before number names transcript

/-- What a call sends, given what all calls sent. -/
def Step.Sends (sent : List Transcript) (before after : Session) (transcript : Transcript) :
    Step → Prop
  | .openDirectory url _ => ∃ reply, transcript = [(.get (.str url), reply)]
  | .account directory email =>
    Registers before after directory email [s!"mailto:{email}"] transcript
  | .accountOfRealm directory realm contact =>
    Registers before after directory realm (contact.getD []) transcript
  | .order number primary others => Orders sent before number (primary :: others) transcript
  | .certificate _ _ => transcript = []

variable {session before after : Session} {directory number : Nat} {realm : String}
  {contact names : List String} {transcript : Transcript} {sent : List Transcript}
  {provider : Provider} {account : Account}

theorem Registers.fresh (registers : Registers before after directory realm contact transcript) :
    transcript.Fresh := by
  cases registers with
  | unsent => exact Transcript.fresh_nil
  | sent _ _ _ _ allSealed =>
      exact allSealed.fresh fun nonce url body posts => ⟨_, _, _, .inl rfl, posts.2⟩

theorem Orders.fresh (orders : Orders sent before number names transcript) : transcript.Fresh := by
  cases orders with
  | unsent => exact Transcript.fresh_nil
  | sent _ _ _ _ allSealed =>
      exact allSealed.fresh fun nonce url body posts => ⟨_, _, _, .inr ⟨_, rfl⟩, posts.2⟩

theorem Step.Sends.fresh {step : Step} (sends : step.Sends sent before after transcript) :
    transcript.Fresh := by
  cases step with
  | openDirectory url attempts =>
      obtain ⟨reply, rfl⟩ := sends
      exact Transcript.fresh_single (by simp)
  | account | accountOfRealm => exact Registers.fresh sends
  | order => exact Orders.fresh sends
  | certificate =>
      obtain rfl := sends
      exact Transcript.fresh_nil

theorem after_world (session : Session) (step : Step) :
    (session.after step).world = (Client.outcome (session.call step) session.world).2 := rfl

theorem elements_contactJson (contact : Option (List String)) :
    Resource.elements (contactJson contact) = .ok ((contact.getD []).map .str) := by
  cases contact with
  | none => rfl
  | some contact => cases contact <;> rfl

theorem otherNames_texts (names : List String) :
    Account.otherNames (.arr (names.map .str)) = .ok (names.map .str) := rfl

/-- A call for the account of a realm sends nothing, or registers with the stored key. -/
theorem accountOfRealm_registers (found : before.provider? directory = some provider)
    (known : provider.IsKnown) (realm : String) {document : Json}
    (listed : Resource.elements document = .ok (contact.map .str)) :
    let ran := Client.outcome (provider.accountOfRealm realm document) before.world
    ∃ transcript, Exchanged before.world ran.2 transcript ∧
      (∀ after : Session, after.world = ran.2 →
        Registers before after directory realm contact transcript) ∧
      ∀ account, ran.1 = .ok account →
        account.provider = provider ∧ Registered account transcript := by
  obtain ⟨silent, holds⟩ := Provider.accountKey_spec realm before.world
  rw [Provider.accountOfRealm_eq, Client.outcome_bind]
  cases looked : Client.outcome (Provider.accountKey realm) before.world with
  | mk result between =>
      rw [looked] at silent holds
      cases result with
      | error failure => exact ⟨[], silent, fun _ _ => .unsent, by simp⟩
      | ok key =>
          obtain ⟨pem, stored, usable⟩ := holds key rfl
          obtain ⟨transcript, exchanged, allSealed, answers⟩ :=
            Provider.register_sends provider realm document key between
          obtain ⟨rests, -, -⟩ := Provider.register_spec provider realm document key between
          have posted : transcript.Sealed provider.endpoints.newNonce
              (Posts provider.endpoints.newAccount key ("jwk", key.publicJson)
                (Envelope.encodeJson (Provider.registration (contact.map .str)))) := by
            refine allSealed.mono ?_
            rintro nonce url body ⟨items, same, seals⟩
            rw [listed, Except.ok.injEq] at same
            subst same
            exact seals.posts trivial known.newAccount
          refine ⟨transcript, silent.trans exchanged, fun after ends => ?_, fun account done => ?_⟩
          · refine .sent found ?_ usable
              (Envelope.part?_encodeJson (isReadable_registration contact)) posted
            rw [ends]
            exact rests.storage ▸ stored
          · obtain ⟨hasProvider, rfl, response, ⟨url, body, last⟩, located⟩ := answers account done
            obtain ⟨nonce, posts⟩ := posted.built_of_mem (List.mem_of_getLast? last)
            exact ⟨hasProvider, nonce, url, body, _, response, last, posts.2, located⟩

theorem order_orders (found : before.account? number = some account)
    (known : account.provider.IsKnown) {registration : Transcript}
    (placed : sent[number]? = some registration) (registered : Registered account registration)
    (primary : String) (others : List String) :
    ∃ transcript, Exchanged before.world
        (Client.outcome (account.order (.str primary) (.arr (others.map .str))) before.world).2
        transcript ∧
      Orders sent before number (primary :: others) transcript := by
  obtain ⟨transcript, exchanged, allSealed⟩ :=
    account.order_sends (.str primary) (.arr (others.map .str)) before.world
  refine ⟨transcript, exchanged, .sent found placed registered
    (Envelope.part?_encodeJson (isReadable_orderedNames (primary :: others))) ?_⟩
  refine allSealed.mono ?_
  rintro nonce url body ⟨names, same, seals⟩
  rw [otherNames_texts, Except.ok.injEq] at same
  subst same
  have posts := seals.posts (.str account.url) known.newOrder
  rwa [← List.map_cons, request_texts] at posts

/-- Whether later calls can be made on what a call returned: a provider comes out of a document, and an
account stands where its registration says. -/
def Result.Usable (transcript : Transcript) : Result → Prop
  | .provider provider => provider.IsKnown
  | .account account => account.provider.IsKnown ∧ Registered account transcript
  | .nothing => True

/-- What the calls of a session returned fits what they sent. -/
def Sound (sent : List Transcript) (session : Session) : Prop :=
  List.Forall₂ Result.Usable sent session.results

namespace Sound

theorem result {result : Result} (sound : Sound sent session)
    (found : session.results[number]? = some result) :
    ∃ transcript, sent[number]? = some transcript ∧ result.Usable transcript := by
  unfold Sound at sound
  generalize session.results = results at sound found
  induction sound generalizing number with
  | nil => simp at found
  | cons usable _ ih =>
      cases number with
      | zero =>
          obtain rfl := Option.some.inj found
          exact ⟨_, rfl, usable⟩
      | succ number => exact ih found

theorem isKnown (sound : Sound sent session) (found : session.provider? directory = some provider) :
    provider.IsKnown := by
  unfold provider? at found
  split at found
  · rename_i listed
    cases found
    obtain ⟨_, -, usable⟩ := sound.result listed
    exact usable
  · contradiction

theorem registered (sound : Sound sent session) (found : session.account? number = some account) :
    account.provider.IsKnown ∧
      ∃ registration, sent[number]? = some registration ∧ Registered account registration := by
  unfold account? at found
  split at found
  · rename_i listed
    cases found
    obtain ⟨registration, placed, known, registered⟩ := sound.result listed
    exact ⟨known, registration, placed, registered⟩
  · contradiction

theorem silent_nothing (world : World) :
    Exchanged world (Client.outcome (pure .nothing : Client Result) world).2 [] :=
  .silent rfl rfl rfl

theorem registers (sound : Sound sent session) (directory : Nat) (realm : String)
    {document : Json} (listed : Resource.elements document = .ok (contact.map .str)) :
    let registering : Client Result := match session.provider? directory with
      | some provider => do return .account (← provider.accountOfRealm realm document)
      | none => return .nothing
    let ran := Client.outcome registering session.world
    ∃ transcript, Exchanged session.world ran.2 transcript ∧
      (∀ after : Session, after.world = ran.2 →
        Registers session after directory realm contact transcript) ∧
      (ran.1.toOption.getD .nothing).Usable transcript := by
  cases found : session.provider? directory with
  | none => exact ⟨[], silent_nothing _, fun _ _ => .unsent, trivial⟩
  | some provider =>
      have known := sound.isKnown found
      obtain ⟨transcript, exchanged, registers, holds⟩ :=
        accountOfRealm_registers found known realm listed
      simp only [Client.outcome_bind_pure]
      refine ⟨transcript, exchanged, registers, ?_⟩
      cases made : (Client.outcome (provider.accountOfRealm realm document) session.world).1 with
      | error failure => trivial
      | ok account =>
          obtain ⟨rfl, registered⟩ := holds account made
          exact ⟨known, registered⟩

theorem step (sound : Sound sent session) (step : Step) : ∃ transcript,
    Exchanged session.world (session.after step).world transcript ∧
      step.Sends sent session (session.after step) transcript ∧
      Sound (sent ++ [transcript]) (session.after step) := by
  have called : ∃ transcript, Exchanged session.world (session.after step).world transcript ∧
      step.Sends sent session (session.after step) transcript ∧
      ((Client.outcome (session.call step) session.world).1.toOption.getD .nothing).Usable
        transcript := by
    cases step with
    | openDirectory url attempts =>
        rw [after_world, call, Client.outcome_bind_pure]
        refine ⟨_, Provider.ofUrl_exchanged url attempts session.world, ⟨_, rfl⟩, ?_⟩
        cases opened : Client.outcome (Provider.ofUrl url attempts) session.world with
        | mk result after =>
            cases result with
            | error failure => trivial
            | ok provider => exact Provider.isKnown_of_ofUrl opened
    | account directory email =>
        have listed : Resource.elements (.arr [.str s!"mailto:{email}"]) =
            .ok ([s!"mailto:{email}"].map .str) := rfl
        obtain ⟨transcript, exchanged, registers, usable⟩ := sound.registers directory email listed
        exact ⟨transcript, exchanged, registers _ rfl, usable⟩
    | accountOfRealm directory realm contact =>
        obtain ⟨transcript, exchanged, registers, usable⟩ :=
          sound.registers directory realm (elements_contactJson contact)
        exact ⟨transcript, exchanged, registers _ rfl, usable⟩
    | order number primary others =>
        rw [after_world, call]
        cases found : session.account? number with
        | none => exact ⟨[], silent_nothing _, .unsent, trivial⟩
        | some account =>
            obtain ⟨known, registration, placed, registered⟩ := sound.registered found
            obtain ⟨transcript, exchanged, orders⟩ :=
              order_orders found known placed registered primary others
            simp only [Client.outcome_bind_pure]
            refine ⟨transcript, exchanged, orders, ?_⟩
            cases (Client.outcome (account.order _ _) session.world).1 <;> trivial
    | certificate number name =>
        rw [after_world, call]
        cases session.account? number with
        | none => exact ⟨[], silent_nothing _, rfl, trivial⟩
        | some account =>
            simp only [Client.outcome_bind_pure]
            refine ⟨[], account.keeps_certificate lasts_silent name _, rfl, ?_⟩
            cases (Client.outcome (account.certificate name) session.world).1 <;> trivial
  obtain ⟨transcript, exchanged, sends, usable⟩ := called
  exact ⟨transcript, exchanged, sends, List.rel_append sound (.cons usable .nil)⟩

end Sound

theorem Step.Sends.append {step : Step} (sends : step.Sends sent before after transcript)
    (more : List Transcript) : step.Sends (sent ++ more) before after transcript := by
  cases step with
  | order number primary others =>
      cases sends with
      | unsent => exact .unsent
      | sent found placed registered opens allSealed =>
          have early := (List.getElem?_eq_some_iff.mp placed).1
          exact .sent found (by rwa [List.getElem?_append_left early]) registered opens allSealed
  | _ => exact sends

/-- What each call of a session sent, after its last one. -/
structure Ran (world : World) (steps : List Step) (sent : List Transcript) : Prop where
  length : sent.length = steps.length
  sound : Sound sent (run world steps)
  exchanged : Exchanged world (run world steps).world sent.flatten
  fresh : Transcript.Fresh sent.flatten
  calls : ∀ (number : Nat) step transcript,
    steps[number]? = some step → sent[number]? = some transcript →
    Exchanged (run world (steps.take number)).world (run world (steps.take (number + 1))).world
      transcript ∧
    step.Sends sent (run world (steps.take number)) (run world (steps.take (number + 1))) transcript

theorem run_append (world : World) (steps : List Step) (step : Step) :
    run world (steps ++ [step]) = (run world steps).after step := by
  rw [run, List.foldl_append]
  rfl

theorem Ran.append {world : World} {steps : List Step} (ran : Ran world steps sent) (step : Step) :
    ∃ transcript, Ran world (steps ++ [step]) (sent ++ [transcript]) := by
  obtain ⟨transcript, exchanged, sends, sound⟩ := ran.sound.step step
  refine ⟨transcript, ?_, ?_, ?_, ?_, ?_⟩
  · rw [List.length_append, List.length_append, ran.length]
    rfl
  · rwa [run_append]
  · rw [run_append, List.flatten_append, List.flatten_singleton]
    exact ran.exchanged.trans exchanged
  · rw [List.flatten_append, List.flatten_singleton]
    exact ran.fresh.append sends.fresh
  · intro number other others called placed
    obtain early | rfl : number < steps.length ∨ number = steps.length := by
      have inside := (List.getElem?_eq_some_iff.mp called).1
      rw [List.length_append, List.length_singleton] at inside
      omega
    · rw [List.getElem?_append_left early] at called
      rw [List.getElem?_append_left (by rwa [ran.length])] at placed
      rw [List.take_append_of_le_length (by omega), List.take_append_of_le_length (by omega)]
      obtain ⟨exchanged, sends⟩ := ran.calls number other others called placed
      exact ⟨exchanged, sends.append _⟩
    · rw [List.getElem?_concat_length, Option.some.injEq] at called
      rw [← ran.length, List.getElem?_concat_length, Option.some.injEq] at placed
      subst called placed
      rw [List.take_left, List.take_of_length_le (by simp), run_append]
      exact ⟨exchanged, sends.append _⟩

theorem exists_ran (world : World) (steps : List Step) : ∃ sent, Ran world steps sent := by
  induction steps using List.reverseRec with
  | nil =>
      exact ⟨[], rfl, .nil, .silent rfl rfl rfl, Transcript.fresh_nil, by simp⟩
  | append_singleton steps step ih =>
      obtain ⟨sent, ran⟩ := ih
      obtain ⟨transcript, ran⟩ := ran.append step
      exact ⟨sent ++ [transcript], ran⟩

/-- Whatever a session calls and whatever it is answered, every post of it is fresh, and every call
sends what its arguments say. -/
theorem session_posts (world : World) (steps : List Step) :
    ∃ sent : List Transcript, sent.length = steps.length ∧
      Exchanged world (run world steps).world sent.flatten ∧ Transcript.Fresh sent.flatten ∧
      ∀ (number : Nat) step transcript,
        steps[number]? = some step → sent[number]? = some transcript →
        let before := run world (steps.take number)
        let after := run world (steps.take (number + 1))
        Exchanged before.world after.world transcript ∧
          step.Sends sent before after transcript := by
  obtain ⟨sent, ran⟩ := exists_ran world steps
  exact ⟨sent, ran.length, ran.exchanged, ran.fresh, ran.calls⟩

end Session

end AcmeClient
