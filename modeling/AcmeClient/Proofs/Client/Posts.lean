import AcmeClient.Proofs.Client.AccountKey
import AcmeClient.Proofs.Envelope

namespace AcmeClient

open Json

/-- The header of a post whose sender is named by one member. -/
def Envelope.headerNaming (name : String × Json) (nonce : String) (url : Json) : Json :=
  .obj [("alg", .str "ES256"), name, ("nonce", .str nonce), ("url", url)]

/-- A body for an address, signed with a key, with a name for its sender and a payload. -/
def Posts (address : Json) (key : AccountKey) (name : String × Json) (payload : List Char)
    (nonce : String) (url : Json) (body : Bytes) : Prop :=
  url = address ∧ Envelope.Opens body key (Envelope.headerNaming name nonce url) payload

/-- A body for an address and a nonce, whose sender is named by the public key or by an account. -/
def Speaks (nonce : String) (url : Json) (body : Bytes) : Prop :=
  ∃ key name payload, (name = ("jwk", key.publicJson) ∨ ∃ address, name = ("kid", .str address)) ∧
    Envelope.Opens body key (Envelope.headerNaming name nonce url) payload

/-- Every post comes right after a request for a nonce, and speaks for the nonce in the reply to it
and for its own address. -/
def Transcript.Fresh (transcript : Transcript) : Prop :=
  ∀ i url mediaType body answer, transcript[i]? = some (.post url mediaType body, answer) →
    mediaType = Envelope.mediaType ∧ ∃ j newNonce reply nonce, i = j + 1 ∧
      transcript[j]? = some (.head newNonce, .ok reply) ∧ reply.nonce = .ok nonce ∧
      Speaks nonce url body

namespace Transcript

variable {first second : Transcript}

theorem fresh_nil : Fresh [] := by
  intro i url mediaType body answer found
  simp at found

theorem fresh_single {call : Call} {reply : Reply}
    (other : ∀ url mediaType body, call ≠ .post url mediaType body) : Fresh [(call, reply)] := by
  intro i url mediaType body answer found
  cases i with
  | zero => exact absurd (by simpa using (Prod.mk.inj (Option.some.inj found)).1) (other _ _ _)
  | succ i => simp at found

theorem Fresh.append (before : Fresh first) (later : Fresh second) : Fresh (first ++ second) := by
  intro i url mediaType body answer found
  by_cases early : i < first.length
  · rw [List.getElem?_append_left early] at found
    obtain ⟨media, j, newNonce, reply, nonce, rfl, asked, rest⟩ := before _ _ _ _ _ found
    refine ⟨media, j, newNonce, reply, nonce, rfl, ?_, rest⟩
    rwa [List.getElem?_append_left (by omega)]
  · rw [List.getElem?_append_right (by omega)] at found
    obtain ⟨media, j, newNonce, reply, nonce, next, asked, rest⟩ := later _ _ _ _ _ found
    refine ⟨media, first.length + j, newNonce, reply, nonce, by omega, ?_, rest⟩
    rwa [List.getElem?_append_right (by omega), Nat.add_sub_cancel_left]

theorem Sealed.fresh {newNonce : Json} {built : String → Json → Bytes → Prop}
    (allSealed : Sealed newNonce built first)
    (speaks : ∀ nonce url body, built nonce url body → Speaks nonce url body) : Fresh first := by
  induction allSealed with
  | nil => exact fresh_nil
  | asked _ ih => exact (fresh_single (by simp)).append ih
  | @posted reply nonce url body answer rest found builds _ ih =>
      have posted : Fresh [(.head newNonce, .ok reply),
          (.post url Envelope.mediaType body, answer)] := by
        intro i
        match i with
        | 0 => simp
        | 1 =>
            rintro _ _ _ _ ⟨⟩
            exact ⟨rfl, 0, newNonce, reply, nonce, rfl, rfl, found, speaks _ _ _ builds⟩
        | i + 2 => simp
      exact posted.append ih

end Transcript

variable {provider : Provider} {account : Account} {key : AccountKey} {sender : Sender}
  {url target content : Json} {nonce : String} {body : Bytes} {world between after : World}

/-- The member of a header that names a sender. -/
def Sender.named (key : AccountKey) : Sender → String × Json
  | .publicKey => ("jwk", key.publicJson)
  | .account address => ("kid", address)

theorem Provider.Seals.posts (seals : Provider.Seals url key sender content nonce target body)
    (known : Envelope.SenderReadable sender) (readable : IsReadable url) :
    Posts url key (sender.named key) (Envelope.encodeJson content) nonce target body := by
  obtain ⟨rfl, envelope, signed, rfl⟩ := seals
  refine ⟨rfl, ?_⟩
  have opens := Envelope.opens_of_sign signed
    (Envelope.isReadable_headerJson key known (.str nonce) readable)
  cases sender with
  | publicKey | account address => exact opens

theorem isReadable_texts (texts : List String) : IsReadable (.arr (texts.map .str)) := by
  refine .arr _ fun item member => ?_
  obtain ⟨text, -, rfl⟩ := List.mem_map.mp member
  exact .str text

theorem isReadable_registration (contact : List String) :
    IsReadable (Provider.registration (contact.map .str)) := by
  refine .obj _ (by simp) ?_
  simp only [List.forall_mem_cons]
  exact ⟨.bool true, isReadable_texts contact, by simp⟩

/-- What an order of names says. -/
def orderedNames (names : List String) : Json :=
  .obj [("identifiers", .arr (names.map fun name => .obj [("type", .str "dns"), ("value", .str name)]))]

theorem request_texts (names : List String) :
    Resource.Order.request ((names.map .str).map .dns) = orderedNames names := by
  simp only [Resource.Order.request, orderedNames, List.map_map]
  rfl

theorem isReadable_request {identifiers : List Resource.Identifier}
    (readable : ∀ identifier ∈ identifiers, IsReadable identifier.value) :
    IsReadable (Resource.Order.request identifiers) := by
  refine .obj _ (by simp) ?_
  simp only [List.forall_mem_cons]
  refine ⟨.arr _ fun item member => ?_, by simp⟩
  obtain ⟨identifier, listed, rfl⟩ := List.mem_map.mp member
  refine .obj _ (by simp) ?_
  simp only [List.forall_mem_cons]
  exact ⟨.str _, readable identifier listed, by simp⟩

theorem isReadable_orderedNames (names : List String) : IsReadable (orderedNames names) := by
  rw [← request_texts]
  apply isReadable_request
  simp only [List.forall_mem_map]
  exact fun name _ => .str name

/-- A provider whose addresses came out of a document. -/
structure Provider.IsKnown (provider : Provider) : Prop where
  newAccount : IsReadable provider.endpoints.newAccount
  newOrder : IsReadable provider.endpoints.newOrder

theorem isReadable_member {members : List (String × Json)} (readable : IsReadable (.obj members))
    (name : String) : IsReadable (Resource.member name members) := by
  unfold Resource.member
  cases found : Assoc.find? name members with
  | none => exact .null
  | some value =>
      cases readable with
      | obj _ _ values => exact values _ (Assoc.mem_of_find? found)

theorem isKnown_of_ofJson {document : Json} {endpoints : Resource.Directory} {attempts : Int}
    (readable : IsReadable document) (made : Resource.Directory.ofJson document = .ok endpoints) :
    Provider.IsKnown ⟨endpoints, attempts⟩ := by
  unfold Resource.Directory.ofJson at made
  obtain ⟨members, listed, built⟩ := exists_of_bind_eq_ok made
  have whole : document = .obj members := by
    unfold Resource.members at listed
    split at listed
    · rw [Except.ok.inj listed]
    · contradiction
  subst whole
  simp only [bind, Except.bind] at built
  split at built
  · contradiction
  · cases built
    exact ⟨isReadable_member readable _, isReadable_member readable _⟩

theorem Provider.isKnown_of_ofUrl {address : String} {attempts : Int}
    (opened : Client.outcome (Provider.ofUrl address attempts) world = (.ok provider, after)) :
    provider.IsKnown := by
  unfold Provider.ofUrl at opened
  obtain ⟨_, _, -, opened⟩ := Client.outcome_bind_eq_ok opened
  obtain ⟨reply, _, -, opened⟩ := Client.outcome_bind_eq_ok opened
  obtain ⟨response, _, -, opened⟩ := Client.outcome_bind_eq_ok opened
  obtain ⟨document, _, read, opened⟩ := Client.outcome_bind_eq_ok opened
  obtain ⟨endpoints, _, made, opened⟩ := Client.outcome_bind_eq_ok opened
  rw [Client.outcome_ofExcept, Prod.mk.injEq] at read made
  rw [Client.outcome_pure, Prod.mk.injEq, Except.ok.injEq] at opened
  obtain ⟨rfl, -⟩ := opened
  exact isKnown_of_ofJson (isReadable_of_read (Response.json_eq_ok_iff.mp read.1)) made.1

theorem Provider.ofUrl_exchanged (address : String) (attempts : Int) (world : World) :
    Exchanged world (Client.outcome (Provider.ofUrl address attempts) world).2
      [(.get (.str address), world.nextReply)] := by
  have asked := (Exchanged.told world Logging.Level.debug "acmelib.directory"
    s!"Fetching directory {address}").trans (.sent _ (.get (.str address)))
  rw [List.nil_append, World.told_nextReply] at asked
  unfold Provider.ofUrl
  rw [Client.outcome_bind, Client.outcome_debug]
  simp only
  rw [Client.outcome_bind, Client.outcome_send, World.told_nextReply]
  cases heard : world.nextReply with
  | error failure => rwa [heard] at asked
  | ok reply =>
      rw [heard] at asked
      refine asked.trans (Client.keeps_bind lasts_silent ?_ (fun response => ?_) _)
      · exact Client.keeps_ofExcept lasts_silent _
      · refine Client.keeps_bind lasts_silent (Client.keeps_ofExcept lasts_silent _) fun document => ?_
        refine Client.keeps_bind lasts_silent (Client.keeps_ofExcept lasts_silent _) fun endpoints => ?_
        exact Client.keeps_pure lasts_silent _

theorem keeps_readEntry {kept : World → World → Prop} (lasts : Client.Lasts kept)
    (entry : Storage.Key) : Client.Keeps kept (Client.readEntry entry) := by
  intro world
  rw [Client.outcome_readEntry]
  exact lasts.refl world

theorem Account.keeps_certificate {kept : World → World → Prop} (lasts : Client.Lasts kept)
    (account : Account) (name : String) : Client.Keeps kept (account.certificate name) := by
  have reads (entry : Storage.Key) : Client.Keeps kept (Account.readText entry) := by
    refine Client.keeps_bind lasts (keeps_readEntry lasts entry) fun found => ?_
    cases found <;> exact Client.keeps_pure lasts _
  refine Client.keeps_bind lasts (Client.keeps_debug lasts _ _) fun _ => ?_
  refine Client.keeps_bind lasts (reads _) fun privateKey => ?_
  refine Client.keeps_bind lasts (Client.keeps_debug lasts _ _) fun _ => ?_
  exact Client.keeps_bind lasts (reads _) fun chain => Client.keeps_pure lasts _

end AcmeClient
