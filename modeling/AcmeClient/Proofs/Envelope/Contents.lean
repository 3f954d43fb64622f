import AcmeClient.Proofs.Envelope
import Mathlib.Data.List.Basic

namespace AcmeClient

open Json

namespace Envelope

variable {value : Json} {c : Char}

theorem mem_encodeJson (member : c ∈ encodeJson value) : c.toNat < 0x80 ∧ c ≠ '.' := by
  obtain ⟨digit, below, rfl⟩ := Base64.mem_encodeUrl member
  exact ⟨(Base64.urlDigit_ne below).2, Base64.urlDigit_ne_stop below⟩

theorem mem_encodeContent {content : Option Json} (member : c ∈ encodeContent content) :
    c.toNat < 0x80 ∧ c ≠ '.' := by
  cases content with
  | none => contradiction
  | some value => exact mem_encodeJson member

theorem encodeJson_inj {other : Json} (readable : IsReadable value)
    (otherReadable : IsReadable other) : encodeJson value = encodeJson other ↔ value = other := by
  constructor
  · intro same
    have opened := part?_encodeJson readable
    rw [same, part?_encodeJson otherReadable] at opened
    exact (Option.some.inj opened).symm
  · exact congrArg encodeJson

theorem encodeJson_ne_nil (readable : IsReadable value) : encodeJson value ≠ [] := by
  intro empty
  have opened := part?_encodeJson readable
  rw [empty, (by decide : part? [] = none)] at opened
  contradiction

theorem encodeContent_eq_nil_iff {content : Option Json} (readable : ∀ value ∈ content, IsReadable value) :
    encodeContent content = [] ↔ content = none := by
  cases content with
  | none => exact iff_of_true rfl rfl
  | some value => exact iff_of_false (encodeJson_ne_nil (readable value rfl)) (Option.some_ne_none value)

theorem encodeContent_inj {content other : Option Json}
    (readable : ∀ value ∈ content, IsReadable value) (otherReadable : ∀ value ∈ other, IsReadable value) :
    encodeContent content = encodeContent other ↔ content = other := by
  cases other with
  | none => exact encodeContent_eq_nil_iff readable
  | some value =>
      cases content with
      | none => exact iff_of_false (encodeJson_ne_nil (otherReadable value rfl)).symm (by simp)
      | some first =>
          rw [Option.some.injEq]
          exact encodeJson_inj (readable first rfl) (otherReadable value rfl)

/-- The full stop is no digit, so it parts the text in one place. -/
theorem signedText_inj {header content otherHeader otherContent : List Char}
    (plainHeader : '.' ∉ header) (plainContent : '.' ∉ content) :
    signedText header content = signedText otherHeader otherContent ↔
      header = otherHeader ∧ content = otherContent := by
  rw [signedText, signedText, List.append_cons_inj_of_notMem plainHeader plainContent]
  exact and_congr_right' (and_iff_right rfl)

theorem isReadable_of_part? {text : List Char} (opened : part? text = some value) : IsReadable value := by
  obtain ⟨bytes, -, read⟩ := Option.bind_eq_some_iff.mp opened
  cases known : Json.read bytes with
  | error failure => simp [known, Except.toOption] at read
  | ok other =>
      have same : other = value := by simpa [known, Except.toOption] using read
      exact same ▸ isReadable_of_read known

theorem ascii_bytes (envelope : Envelope) : ∀ b ∈ envelope.bytes, b.toNat < 0x80 :=
  Text.Utf8.ascii_encode fun _ member =>
    (isPlain_of_isPrintable (isPrintable_writeAt Layout.prints_spaced envelope.isReadable_toJson member)).2

end Envelope

/-- What goes into an envelope. Without the address of an account the public key is told. -/
structure Letter where
  key : AccountKey
  account : Option String
  nonce : String
  url : String
  content : Option Json
  readable : ∀ value ∈ content, IsReadable value

namespace Letter

variable {letter other : Letter} {c : Char}

def sender (letter : Letter) : Sender :=
  match letter.account with
  | none => .publicKey
  | some address => .account (.str address)

def sign (letter : Letter) : Except Fault Envelope :=
  Envelope.sign letter.key letter.sender (.str letter.nonce) (.str letter.url) letter.content

/-- The member of the header that tells the sender. -/
def senderMember (letter : Letter) : String × Json :=
  match letter.account with
  | none => ("jwk", letter.key.publicJson)
  | some address => ("kid", .str address)

def header (letter : Letter) : Json :=
  .obj [("alg", .str "ES256"), letter.senderMember, ("nonce", .str letter.nonce), ("url", .str letter.url)]

def headerText (letter : Letter) : List Char := Envelope.encodeJson letter.header

def contentText (letter : Letter) : List Char := Envelope.encodeContent letter.content

/-- The bytes that are signed. -/
def toSign (letter : Letter) : Bytes := Text.Utf8.encode (letter.headerText ++ '.' :: letter.contentText)

/-- What the receiver of an envelope finds in it, if a letter was put into it. -/
structure Fills (letter : Letter) (envelope : Envelope) : Prop where
  ascii : ∀ b ∈ envelope.bytes, b.toNat < 0x80
  parts : Json.read envelope.bytes = .ok (.obj [("protected", .str (String.ofList envelope.header)),
    ("payload", .str (String.ofList envelope.content)),
    ("signature", .str (String.ofList envelope.signature))])
  header : Envelope.part? envelope.header = some letter.header
  empty : envelope.content = [] ↔ letter.content = none
  content : ∀ value ∈ letter.content, Envelope.part? envelope.content = some value
  signature : ∃ signature, Base64.decodeLenient envelope.signature = .ok signature ∧
    signature.length = 64 ∧ letter.key.sign letter.toSign = .ok signature
  covered : Text.Utf8.encode (envelope.header ++ '.' :: envelope.content) = letter.toSign
  ascii_covered : ∀ b ∈ letter.toSign, b.toNat < 0x80
  one_stop : letter.toSign.count 0x2E = 1

theorem headerJson_eq (letter : Letter) :
    Envelope.headerJson letter.key letter.sender (.str letter.nonce) (.str letter.url) = letter.header := by
  unfold Envelope.headerJson sender header senderMember
  cases letter.account <;> rfl

theorem senderReadable (letter : Letter) : Envelope.SenderReadable letter.sender := by
  unfold sender
  cases letter.account with
  | none => trivial
  | some address => exact .str address

theorem isReadable_header (letter : Letter) : IsReadable letter.header := by
  rw [← headerJson_eq]
  exact Envelope.isReadable_headerJson letter.key letter.senderReadable (.str letter.nonce)
    (.str letter.url)

theorem sign_eq (letter : Letter) : letter.sign = (letter.key.sign letter.toSign).map fun signature =>
    ⟨letter.headerText, letter.contentText, Base64.encodeUrl signature⟩ := by
  unfold sign Envelope.sign
  rw [headerJson_eq]
  change (letter.key.sign letter.toSign >>= fun signature => _) = _
  cases letter.key.sign letter.toSign <;> rfl

theorem of_mem_signed (member : c ∈ letter.headerText ++ '.' :: letter.contentText) : c.toNat < 0x80 := by
  rcases List.mem_append.mp member with listed | listed
  · exact (Envelope.mem_encodeJson listed).1
  · rcases List.mem_cons.mp listed with rfl | listed
    · decide
    · exact (Envelope.mem_encodeContent listed).1

theorem stop_notMem_headerText (letter : Letter) : '.' ∉ letter.headerText :=
  fun listed => (Envelope.mem_encodeJson listed).2 rfl

theorem stop_notMem_contentText (letter : Letter) : '.' ∉ letter.contentText :=
  fun listed => (Envelope.mem_encodeContent listed).2 rfl

theorem count_stop_toSign (letter : Letter) : letter.toSign.count 0x2E = 1 := by
  have header : 0x2E ∉ Text.Utf8.encode letter.headerText :=
    Text.Utf8.notMem_encode (fun _ listed => (Envelope.mem_encodeJson listed).1) (by decide : '.'.toNat < _)
      letter.stop_notMem_headerText
  have content : 0x2E ∉ Text.Utf8.encode letter.contentText :=
    Text.Utf8.notMem_encode (fun _ listed => (Envelope.mem_encodeContent listed).1)
      (by decide : '.'.toNat < _) letter.stop_notMem_contentText
  rw [toSign, Text.Utf8.encode_append, Text.Utf8.encode_cons, List.count_append, List.count_append,
    List.count_eq_zero.mpr header, List.count_eq_zero.mpr content]
  rfl

theorem header_eq_iff : letter.header = other.header ↔
    letter.senderMember = other.senderMember ∧ letter.nonce = other.nonce ∧ letter.url = other.url := by
  simp only [header, Json.obj.injEq, List.cons.injEq, Prod.mk.injEq, Json.str.injEq, true_and, and_true]

/-- The bytes that are signed tell the header and the content, and thereby all that goes into them. -/
theorem toSign_eq_iff : letter.toSign = other.toSign ↔
    letter.header = other.header ∧ letter.content = other.content := by
  have texts : letter.toSign = other.toSign ↔
      letter.headerText ++ '.' :: letter.contentText = other.headerText ++ '.' :: other.contentText := by
    constructor
    · intro same
      have decoded := congrArg Text.Utf8.decode same
      simpa only [toSign, Text.Utf8.decode_encode, Except.ok.injEq] using decoded
    · exact congrArg Text.Utf8.encode
  -- The texts are parted at the stop, and each part is decoded.
  rw [texts, ← Envelope.signedText, ← Envelope.signedText,
    Envelope.signedText_inj letter.stop_notMem_headerText letter.stop_notMem_contentText]
  exact and_congr (Envelope.encodeJson_inj letter.isReadable_header other.isReadable_header)
    (Envelope.encodeContent_inj letter.readable other.readable)

theorem fills {signature : Bytes} (signed : letter.key.sign letter.toSign = .ok signature)
    (length : signature.length = 64) :
    letter.Fills ⟨letter.headerText, letter.contentText, Base64.encodeUrl signature⟩ where
  ascii := Envelope.ascii_bytes _
  parts := Envelope.read_bytes _
  header := Envelope.part?_encodeJson letter.isReadable_header
  empty := Envelope.encodeContent_eq_nil_iff letter.readable
  content := by
    intro value given
    rw [contentText, given]
    exact Envelope.part?_encodeJson (letter.readable value given)
  signature := ⟨signature, Base64.decodeLenient_encodeUrl signature, length, signed⟩
  covered := rfl
  ascii_covered := Text.Utf8.ascii_encode fun _ => of_mem_signed
  one_stop := letter.count_stop_toSign

/-- A key that refuses to sign makes no envelope. Any other makes one in which everything is found that
went into it, and two envelopes of which anything differs are not signed by signing the same bytes. The
content is taken to nest no deeper than the stacks of its writer and of its reader allow. -/
theorem envelope_contents :
    (∀ letter : Letter,
      (∃ reason, letter.key.refusal = some reason ∧ letter.sign = .error (.refusedSignature reason)) ∨
      (letter.key.refusal = none ∧ ∃ envelope, letter.sign = .ok envelope ∧ letter.Fills envelope)) ∧
    ∀ letter other : Letter, letter.toSign = other.toSign ↔
      letter.url = other.url ∧ letter.nonce = other.nonce ∧ letter.senderMember = other.senderMember ∧
        letter.content = other.content := by
  constructor
  · intro letter
    rw [sign_eq]
    cases refusal : letter.key.refusal with
    | some reason =>
        refine .inl ⟨reason, rfl, ?_⟩
        simp only [AccountKey.sign, refusal]
        rfl
    | none =>
        have signed : letter.key.sign letter.toSign =
            .ok (P256.sign letter.key.secret letter.toSign).bytes := by
          simp only [AccountKey.sign, refusal]
        refine .inr ⟨rfl, _, by rw [signed]; rfl, fills signed (P256.Signature.length_bytes _)⟩
  · intro letter other
    rw [toSign_eq_iff, header_eq_iff]
    tauto

/-- A key that was taken away makes no envelope, and the shortest integer with too many digits is neither
written out nor read. -/
theorem envelope_limits :
    Envelope.sign ⟨⟨1, by decide, by decide⟩, some "key removed"⟩
        (.account (.str "https://acme.test/account/1")) (.str "1") (.str "https://acme.test/order") none =
      .error (.refusedSignature "key removed") ∧
    (Json.int (10 ^ maxIntegerDigits)).hasLongInteger ∧
      ∀ text, Envelope.part? text ≠ some (.int (10 ^ maxIntegerDigits)) := by
  have size (count : Nat) : ((10 : Int) ^ count).natAbs = 10 ^ count := Int.natAbs_pow ..
  refine ⟨rfl, hasLongInteger_int.mpr (size _).ge, fun text opened => ?_⟩
  have small := Json.isReadable_int_iff.mp (Envelope.isReadable_of_part? opened)
  exact small.ne (size _)

end Letter

end AcmeClient
