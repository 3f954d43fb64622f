import AcmeClient.Key.Account
import AcmeClient.Proofs.Base64.UrlText

namespace AcmeClient

namespace Json

theorem writeChar_urlDigit {value : Nat} (below : value < 64) :
    writeChar (Base64.urlDigit value) = [Base64.urlDigit value] :=
  (by decide : ∀ value : Fin 64, writeChar (Base64.urlDigit value) = [Base64.urlDigit value])
    ⟨value, below⟩

theorem flatMap_writeChar {text : List Char} (plain : Base64.IsUrlText text) :
    text.flatMap writeChar = text := by
  induction text with
  | nil => rfl
  | cons c rest ih =>
      obtain ⟨listed, others⟩ := List.forall_mem_cons.mp plain
      obtain ⟨value, below, rfl⟩ := Base64.exists_urlDigit listed
      rw [List.flatMap_cons, writeChar_urlDigit below, ih others, List.singleton_append]

/-- Nothing in a text of this alphabet needs an escape. -/
theorem writeString_of_isUrlText {s : String} (plain : Base64.IsUrlText s.toList) :
    writeString s = '"' :: s.toList ++ ['"'] := by
  rw [writeString, flatMap_writeChar plain]

end Json

namespace AccountKey

open Json

/-- A text of 43 characters that tells a number of 32 bytes, zero bytes included. -/
structure TellsNumber (text : String) (n : Nat) : Prop where
  length : text.length = 43
  decoded : ∃ bytes, Base64.decodeLenient text.toList = .ok bytes ∧ bytes.length = 32 ∧
    Bytes.toNat bytes = n

def coordinateText (n : Nat) : String := String.ofList (Base64.encodeUrl (Bytes.ofNat 32 n))

theorem coordinate_eq (n : Nat) : coordinate n = .str (coordinateText n) := rfl

theorem tellsNumber_coordinateText {n : Nat} (fits : n < 256 ^ 32) : TellsNumber (coordinateText n) n where
  length := by
    rw [coordinateText, String.length_ofList, Base64.length_encodeUrl, Bytes.length_ofNat]
  decoded := by
    refine ⟨_, ?_, Bytes.length_ofNat 32 n, Bytes.toNat_ofNat fits⟩
    rw [coordinateText, String.toList_ofList, Base64.decodeLenient_encodeUrl]

theorem byName_publicMembers (point : P256.Point) : byName (publicMembers point) = publicMembers point :=
  byName_of_pairwise (by simp [publicMembers])

theorem isUrlText_coordinateText (n : Nat) : Base64.IsUrlText (coordinateText n).toList := by
  rw [coordinateText, String.toList_ofList]
  exact Base64.isUrlText_encodeUrl _

/-- The members stand between their brackets one after the other. -/
theorem canonicalText_eq (point : P256.Point) : canonicalText point =
    ("\x7b\"crv\":\"P-256\",\"kty\":\"EC\",\"x\":\"" ++ coordinateText point.x ++ "\",\"y\":\"" ++
      coordinateText point.y ++ "\"\x7d").toList := by
  have crv : writeString "crv" = "\"crv\"".toList := by decide
  have curve : writeString curveName = "\"P-256\"".toList := by decide
  have kty : writeString "kty" = "\"kty\"".toList := by decide
  have family : writeString "EC" = "\"EC\"".toList := by decide
  have x : writeString "x" = "\"x\"".toList := by decide
  have y : writeString "y" = "\"y\"".toList := by decide
  rw [canonicalText, byName_publicMembers, publicMembers, coordinate_eq, coordinate_eq]
  simp [write, writeAt, writeAt.writeMembers, bracketed, Layout.compact, Layout.lineBreak, crv, curve, kty,
    family, x, y, writeString_of_isUrlText (isUrlText_coordinateText _)]

theorem ascii_coordinateText (n : Nat) : ∀ c ∈ (coordinateText n).toList, c.toNat < 0x80 := by
  intro c member
  obtain ⟨value, below, rfl⟩ := Base64.exists_urlDigit (isUrlText_coordinateText n c member)
  exact (Base64.urlDigit_ne below).2

theorem ascii_canonicalText (point : P256.Point) : ∀ c ∈ canonicalText point, c.toNat < 0x80 := by
  have ascii_of_all {text : List Char} (all : text.all (·.toNat < 0x80)) : ∀ c ∈ text, c.toNat < 0x80 := by
    simpa using all
  rw [canonicalText_eq]
  simp only [String.toList_append, List.forall_mem_append]
  exact ⟨⟨⟨⟨ascii_of_all (by decide), ascii_coordinateText _⟩, ascii_of_all (by decide)⟩,
    ascii_coordinateText _⟩, ascii_of_all (by decide)⟩

/-- The members of the key of a point with given coordinates, if their bytes hold these. -/
def membersOf? (x y : Int) : Option (List (String × Json)) := do
  let x ← Bytes.ofInt? 32 x
  let y ← Bytes.ofInt? 32 y
  return [("crv", .str curveName), ("kty", .str "EC"), ("x", .str (String.ofList (Base64.encodeUrl x))),
    ("y", .str (String.ofList (Base64.encodeUrl y)))]

theorem prime_lt : P256.prime < 256 ^ 32 := by decide

theorem membersOf?_point (point : P256.Point) :
    membersOf? point.x.val point.y.val = some (publicMembers point) := by
  rw [membersOf?, Bytes.ofInt?_natCast (Nat.lt_trans point.x.isLt prime_lt),
    Bytes.ofInt?_natCast (Nat.lt_trans point.y.isLt prime_lt)]
  rfl

/-- How a point is told: by the members of its key, and in the text that a thumbprint is taken of. -/
structure Shows (point : P256.Point) (x y : String) : Prop where
  held : membersOf? point.x.val point.y.val = some (publicMembers point)
  members : publicMembers point = [("crv", .str "P-256"), ("kty", .str "EC"), ("x", .str x), ("y", .str y)]
  first : TellsNumber x point.x
  second : TellsNumber y point.y
  canonical : canonicalText point = ("\x7b\"crv\":\"P-256\",\"kty\":\"EC\",\"x\":\"" ++ x ++
    "\",\"y\":\"" ++ y ++ "\"\x7d").toList
  ascii : ∀ c ∈ canonicalText point, c.toNat < 0x80

theorem shows_coordinates (point : P256.Point) :
    Shows point (coordinateText point.x) (coordinateText point.y) where
  held := membersOf?_point point
  members := rfl
  first := tellsNumber_coordinateText (Nat.lt_trans point.x.isLt prime_lt)
  second := tellsNumber_coordinateText (Nat.lt_trans point.y.isLt prime_lt)
  canonical := canonicalText_eq point
  ascii := ascii_canonicalText point

theorem TellsNumber.unique {text : String} {n m : Nat} (tells : TellsNumber text n)
    (other : TellsNumber text m) : n = m := by
  obtain ⟨bytes, read, -, rfl⟩ := tells.decoded
  obtain ⟨others, readOther, -, rfl⟩ := other.decoded
  rw [Except.ok.inj (read.symm.trans readOther)]

namespace Shows

variable {point other : P256.Point} {x y x' y' : String}

theorem unique (shown : Shows point x y) (shownOther : Shows other x' y') (texts : x = x' ∧ y = y') :
    point = other := by
  obtain ⟨rfl, rfl⟩ := texts
  have first := Fin.ext (shown.first.unique shownOther.first)
  have second := Fin.ext (shown.second.unique shownOther.second)
  cases point
  cases other
  exact congrArg₂ P256.Point.mk first second

theorem texts_eq_of_members (shown : Shows point x y) (shownOther : Shows other x' y')
    (same : publicMembers point = publicMembers other) : x = x' ∧ y = y' := by
  rw [shown.members, shownOther.members] at same
  simpa only [List.cons.injEq, Prod.mk.injEq, Json.str.injEq, true_and, and_true] using same

/-- Texts of the same length stand at the same place. -/
theorem texts_eq_of_canonicalText (shown : Shows point x y) (shownOther : Shows other x' y')
    (same : canonicalText point = canonicalText other) : x = x' ∧ y = y' := by
  have length {text text' : String} (size : text.length = 43) (size' : text'.length = 43) :
      text.toList.length = text'.toList.length := by
    rw [String.length_toList, String.length_toList, size, size']
  rw [shown.canonical, shownOther.canonical] at same
  simp only [String.toList_append, List.append_assoc] at same
  obtain ⟨first, rest⟩ :=
    List.append_inj (List.append_cancel_left same) (length shown.first.length shownOther.first.length)
  obtain ⟨second, -⟩ :=
    List.append_inj (List.append_cancel_left rest) (length shown.second.length shownOther.second.length)
  exact ⟨String.toList_inj.mp first, String.toList_inj.mp second⟩

end Shows

theorem publicMembers_injective : Function.Injective publicMembers := by
  intro point other same
  have shown := shows_coordinates point
  have shownOther := shows_coordinates other
  exact shown.unique shownOther (shown.texts_eq_of_members shownOther same)

theorem canonicalText_injective : Function.Injective canonicalText := by
  intro point other same
  have shown := shows_coordinates point
  have shownOther := shows_coordinates other
  exact shown.unique shownOther (shown.texts_eq_of_canonicalText shownOther same)

/-- What a backend makes of a message: the two numbers of a signature, or the reason for which there is
none. -/
abbrev Backend := Bytes → Except String (Int × Int)

/-- Signs by any backend. There is no outcome where the bytes do not hold a number of the signature. -/
def signBy? (backend : Backend) (message : Bytes) : Option (Except Fault Bytes) :=
  match backend message with
  | .error reason => some (.error (.refusedSignature reason))
  | .ok (r, s) => do
    let r ← Bytes.ofInt? 32 r
    let s ← Bytes.ofInt? 32 s
    return .ok (r ++ s)

/-- The backend that a key signs by. -/
def backend (key : AccountKey) : Backend := fun message =>
  match key.refusal with
  | some reason => .error reason
  | none => .ok ((P256.sign key.secret message).r.val, (P256.sign key.secret message).s.val)

theorem order_lt : P256.order < 256 ^ 32 := by decide

theorem signBy?_backend (key : AccountKey) (message : Bytes) :
    signBy? key.backend message = some (key.sign message) := by
  cases refusal : key.refusal with
  | some reason => simp only [signBy?, backend, sign, refusal]
  | none =>
      simp only [signBy?, backend, sign, refusal]
      rw [Bytes.ofInt?_natCast (Nat.lt_trans (Fin.isLt _) order_lt),
        Bytes.ofInt?_natCast (Nat.lt_trans (Fin.isLt _) order_lt)]
      rfl

variable {backend : Backend} {message signature : Bytes} {r s : Int}

/-- The halves of a signature hold its two numbers. -/
theorem signBy?_eq_ok_iff (signed : backend message = .ok (r, s)) :
    signBy? backend message = some (.ok signature) ↔ signature.length = 64 ∧
      Bytes.toNat (signature.take 32) = r ∧ Bytes.toNat (signature.drop 32) = s := by
  simp only [signBy?, signed, Option.bind_eq_bind, Option.bind_eq_some_iff, Bytes.ofInt?_eq_some_iff,
    Option.pure_def, Option.some.injEq, Except.ok.injEq]
  constructor
  · rintro ⟨first, ⟨length, held⟩, second, ⟨length', held'⟩, rfl⟩
    rw [List.length_append, List.take_left' length, List.drop_left' length, length, length']
    exact ⟨rfl, held, held'⟩
  · rintro ⟨length, held, held'⟩
    refine ⟨signature.take 32, ⟨?_, held⟩, signature.drop 32, ⟨?_, held'⟩,
      List.take_append_drop 32 signature⟩
    · rw [List.length_take, length]
      rfl
    · rw [List.length_drop, length]

theorem exists_signature (signed : backend message = .ok (r, s)) (fits : 0 ≤ r ∧ r < 256 ^ 32)
    (fits' : 0 ≤ s ∧ s < 256 ^ 32) : ∃ signature, signBy? backend message = some (.ok signature) := by
  refine ⟨Bytes.ofNat 32 r.toNat ++ Bytes.ofNat 32 s.toNat, ?_⟩
  simp only [signBy?, signed, Bytes.ofInt?, if_pos fits, if_pos fits']
  rfl

/-- Each coordinate of a point is told by 43 characters for 32 bytes, in the members of its key and in the
text that the thumbprint is taken of, so that both tell the point. The two numbers of a signature, whatever
backend it comes from, are the halves of 64 bytes. The bytes hold all of these numbers. -/
theorem fixed_width_encodings :
    (∀ point : P256.Point, ∃ x y, Shows point x y) ∧
    Function.Injective publicMembers ∧ Function.Injective canonicalText ∧
    (∀ key : AccountKey, key.publicJson = .obj (publicMembers key.secret.point) ∧
      key.thumbprint =
        Base64.encodeUrl (Sha256.digest (Text.Utf8.encode (canonicalText key.secret.point)))) ∧
    (∀ (backend : Backend) (message : Bytes) (r s : Int), backend message = .ok (r, s) →
      1 ≤ r → r < P256.order → 1 ≤ s → s < P256.order →
      ∃ signature, signBy? backend message = some (.ok signature) ∧ signature.length = 64 ∧
        Bytes.toNat (signature.take 32) = r ∧ Bytes.toNat (signature.drop 32) = s) ∧
    ∀ (key : AccountKey) (message : Bytes), signBy? key.backend message = some (key.sign message) := by
  refine ⟨fun point => ⟨_, _, shows_coordinates point⟩, publicMembers_injective, canonicalText_injective,
    fun _ => ⟨rfl, rfl⟩, ?_, signBy?_backend⟩
  intro backend message r s signed lowR highR lowS highS
  have wide : (P256.order : Int) < 256 ^ 32 := by exact_mod_cast order_lt
  obtain ⟨signature, made⟩ := exists_signature signed ⟨by omega, by omega⟩ ⟨by omega, by omega⟩
  exact ⟨signature, made, (signBy?_eq_ok_iff signed).mp made⟩

/-- A signature of `data` under the smallest key, of which both numbers start with a zero byte. -/
theorem fixed_width_encodings_of_small_numbers :
    let r : Nat := 0x8ba2f72f49a1f57b1108d1102415c67424bd92298c413417db8040aec13226
    let s : Nat := 0xb4e80fccdd83ac54179254f45524af7b6d9031a3d23b6306e6dc2ba28fbf4e
    let message : Bytes := [0x64, 0x61, 0x74, 0x61]
    let key : P256.PrivateKey := ⟨1, by decide, by decide⟩
    let backend : Backend := fun _ => .ok (r, s)
    P256.verify key.point message ⟨Fin.ofNat _ r, Fin.ofNat _ s⟩ = true ∧ r < 256 ^ 31 ∧ s < 256 ^ 31 ∧
      ∃ signature, signBy? backend message = some (.ok signature) ∧ signature.length = 64 ∧
        Bytes.toNat (signature.take 32) = (r : Int) ∧ Bytes.toNat (signature.drop 32) = (s : Int) := by
  intro r s message key backend
  refine ⟨by decide +kernel, by decide, by decide, ?_⟩
  exact fixed_width_encodings.2.2.2.2.1 backend message r s rfl (by decide) (by decide) (by decide)
    (by decide)

end AccountKey

end AcmeClient
