import AcmeClient.Envelope
import AcmeClient.Proofs.Base64
import AcmeClient.Proofs.Json.Documents

namespace AcmeClient

open Json

namespace Envelope

variable {key : AccountKey} {sender : Sender} {nonce url content : Json} {envelope : Envelope}

/-- The value that a part of an envelope holds. -/
def part? (text : List Char) : Option Json :=
  (Base64.decodeLenient text).toOption.bind fun bytes => (Json.read bytes).toOption

theorem part?_encodeJson {value : Json} (readable : IsReadable value) :
    part? (encodeJson value) = some value := by
  rw [part?, encodeJson, Base64.decodeLenient_encodeUrl]
  simp only [Except.toOption, Option.bind_some, Json.read_write Layout.separates_compact readable]

theorem isReadable_toJson (envelope : Envelope) : IsReadable envelope.toJson := by
  refine .obj _ (by simp) ?_
  simp only [List.forall_mem_cons]
  exact ⟨.str _, .str _, .str _, by simp⟩

theorem read_bytes (envelope : Envelope) : Json.read envelope.bytes = .ok envelope.toJson :=
  Json.read_write Layout.separates_spaced envelope.isReadable_toJson

theorem isReadable_publicJson (key : AccountKey) : IsReadable key.publicJson := by
  refine .obj _ (by simp [AccountKey.publicMembers]) ?_
  simp only [AccountKey.publicMembers, List.forall_mem_cons]
  exact ⟨.str _, .str _, .str _, .str _, by simp⟩

/-- The public key or the address by which a sender is named can be read. -/
def SenderReadable : Sender → Prop
  | .publicKey => True
  | .account url => IsReadable url

theorem isReadable_headerJson (key : AccountKey) (known : SenderReadable sender)
    (nonceReadable : IsReadable nonce) (urlReadable : IsReadable url) :
    IsReadable (headerJson key sender nonce url) := by
  cases sender with
  | publicKey =>
      refine .obj _ (by simp) ?_
      simp only [List.forall_mem_cons]
      exact ⟨.str _, isReadable_publicJson key, nonceReadable, urlReadable, by simp⟩
  | account address =>
      refine .obj _ (by simp) ?_
      simp only [List.forall_mem_cons]
      exact ⟨.str _, known, nonceReadable, urlReadable, by simp⟩

/-- What the receiver of a body finds in it: three parts, of which the first is the header, and the
last one the key's signature of the other two. -/
def Opens (body : Bytes) (key : AccountKey) (header : Json) (payload : List Char) : Prop :=
  ∃ envelope : Envelope, Json.read body = .ok envelope.toJson ∧ part? envelope.header = some header ∧
    envelope.content = payload ∧ ∃ signature, Base64.decodeLenient envelope.signature = .ok signature ∧
      key.sign (Text.Utf8.encode (signedText envelope.header payload)) = .ok signature

theorem opens_of_sign (signed : sign key sender nonce url (some content) = .ok envelope)
    (readable : IsReadable (headerJson key sender nonce url)) :
    Opens envelope.bytes key (headerJson key sender nonce url) (encodeJson content) := by
  simp only [sign] at signed
  obtain ⟨signature, made, built⟩ := exists_of_bind_eq_ok signed
  cases built
  exact ⟨_, read_bytes _, part?_encodeJson readable, rfl, signature,
    Base64.decodeLenient_encodeUrl signature, made⟩

end Envelope

end AcmeClient
