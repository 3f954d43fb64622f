import AcmeClient.Key.Account
import AcmeClient.Proofs.Key.Der
import AcmeClient.Proofs.Key.Pem

namespace AcmeClient

namespace P256

theorem PrivateKey.ofNat?_scalar (key : PrivateKey) : PrivateKey.ofNat? key.scalar = some key := by
  rw [PrivateKey.ofNat?, dif_pos ⟨key.positive, key.below⟩]

theorem PrivateKey.toNat_ofNat_scalar (key : PrivateKey) :
    Bytes.toNat (Bytes.ofNat 32 key.scalar) = key.scalar :=
  Bytes.toNat_ofNat (Nat.lt_trans key.below (by decide))

end P256

namespace KeyFile

open Der

theorem plain_sequence : Tag.sequence &&& 0x1F ≠ 0x1F := by decide

theorem plain_octetString : Tag.octetString &&& 0x1F ≠ 0x1F := by decide

theorem plain_bitString : Tag.bitString &&& 0x1F ≠ 0x1F := by decide

theorem plain_context : Tag.context 1 &&& 0x1F ≠ 0x1F := by decide

theorem length_uncompressed (p : P256.Point) : (uncompressed p).length = 65 := by
  simp [uncompressed, Bytes.length_ofNat]

/-- The public point as the curve's own form holds it. -/
def pointPart (key : P256.PrivateKey) : Element := ⟨Tag.bitString, 0 :: uncompressed key.point⟩

theorem pointPart_isPlain (key : P256.PrivateKey) : (pointPart key).IsPlain where
  tag := plain_bitString
  length := by
    simp only [pointPart, List.length_cons, length_uncompressed]
    decide

theorem length_context_point (key : P256.PrivateKey) :
    (Der.context 1 [pointPart key]).content.length ≤ 76 := by
  have size := length_encode_le (pointPart key)
  simp only [pointPart, List.length_cons, length_uncompressed] at size
  simpa [Der.context, pointPart] using size

/-- The parts of the curve's own form. -/
def curveParts (key : P256.PrivateKey) : List Element :=
  [⟨Tag.integer, [1]⟩, ⟨Tag.octetString, Bytes.ofNat 32 key.scalar⟩, Der.context 1 [pointPart key]]

theorem curveForm_eq (key : P256.PrivateKey) : curveForm key = Der.sequence (curveParts key) := rfl

theorem curveParts_isPlain (key : P256.PrivateKey) : ∀ e ∈ curveParts key, e.IsPlain := by
  have size := length_context_point key
  simp only [curveParts, List.forall_mem_cons, List.not_mem_nil, false_implies, implies_true,
    and_true]
  refine ⟨⟨by decide, by decide⟩, ⟨plain_octetString, ?_⟩, ⟨plain_context, ?_⟩⟩
  · rw [Bytes.length_ofNat]
    decide
  · exact Nat.lt_of_le_of_lt size (by decide)

theorem length_curveForm (key : P256.PrivateKey) : (curveForm key).content.length ≤ 139 := by
  have version := length_encode_le ⟨Tag.integer, [1]⟩
  have secret := length_encode_le ⟨Tag.octetString, Bytes.ofNat 32 key.scalar⟩
  have marked := length_encode_le (Der.context 1 [pointPart key])
  have size := length_context_point key
  simp only [List.length_singleton, Bytes.length_ofNat] at version secret
  simp only [curveForm_eq, Der.sequence, curveParts, List.flatMap_cons, List.flatMap_nil,
    List.length_append, List.length_nil]
  omega

theorem curveForm_isPlain (key : P256.PrivateKey) : (curveForm key).IsPlain where
  tag := plain_sequence
  length := Nat.lt_of_le_of_lt (length_curveForm key) (by decide)

/-- The identifiers of the algorithm and its curve. -/
def algorithmParts : List Element :=
  [⟨Tag.objectIdentifier, ellipticCurve⟩, ⟨Tag.objectIdentifier, curveP256⟩]

theorem algorithmParts_isPlain : ∀ e ∈ algorithmParts, e.IsPlain := by
  simp only [algorithmParts, List.forall_mem_cons, List.not_mem_nil, false_implies, implies_true,
    and_true]
  exact ⟨⟨by decide, by decide⟩, ⟨by decide, by decide⟩⟩

def generalParts (key : P256.PrivateKey) : List Element :=
  [⟨Tag.integer, [0]⟩, Der.sequence algorithmParts, ⟨Tag.octetString, (curveForm key).encode⟩]

theorem generalForm_eq (key : P256.PrivateKey) :
    generalForm key = Der.sequence (generalParts key) := rfl

theorem length_curveForm_encode (key : P256.PrivateKey) : (curveForm key).encode.length ≤ 149 :=
  Nat.le_trans (length_encode_le _) (Nat.add_le_add_right (length_curveForm key) 10)

theorem generalParts_isPlain (key : P256.PrivateKey) : ∀ e ∈ generalParts key, e.IsPlain := by
  simp only [generalParts, List.forall_mem_cons, List.not_mem_nil, false_implies, implies_true,
    and_true]
  refine ⟨⟨by decide, by decide⟩, ⟨by decide, by decide⟩, ⟨plain_octetString, ?_⟩⟩
  exact Nat.lt_of_le_of_lt (length_curveForm_encode key) (by decide)

theorem generalForm_isPlain (key : P256.PrivateKey) : (generalForm key).IsPlain where
  tag := plain_sequence
  length := by
    have version := length_encode_le ⟨Tag.integer, [0]⟩
    have algorithm := length_encode_le (Der.sequence algorithmParts)
    have names : (Der.sequence algorithmParts).content.length = 19 := by decide
    have secret : (Element.encode ⟨Tag.octetString, (curveForm key).encode⟩).length ≤
        (curveForm key).encode.length + 10 := length_encode_le _
    have form := length_curveForm_encode key
    simp only [List.length_singleton] at version
    have size : (generalForm key).content.length ≤ 220 := by
      simp only [generalForm_eq, Der.sequence, generalParts, List.flatMap_cons, List.flatMap_nil,
        List.length_append, List.length_nil]
      simp only [Der.sequence] at algorithm names
      omega
    exact Nat.lt_of_le_of_lt size (by decide)

theorem keyOnCurve?_write (key : P256.PrivateKey) :
    keyOnCurve? ⟨Tag.objectIdentifier, curveP256⟩ key.scalar (some (uncompressed key.point)) =
      some (.p256 key) := by
  have listed : (pointForms key.point).contains (uncompressed key.point) = true := by
    simp [pointForms]
  simp only [keyOnCurve?, guard_true, if_true, P256.PrivateKey.ofNat?_scalar, listed, bind, Option.bind]
  rfl

theorem readCurveForm?_write (key : P256.PrivateKey) :
    readCurveForm? (some ⟨Tag.objectIdentifier, curveP256⟩) (curveForm key).encode =
      some (.p256 key) := by
  have parts : readSequence? (curveForm key).encode = some [⟨Tag.integer, [1]⟩,
      ⟨Tag.octetString, Bytes.ofNat 32 key.scalar⟩, Der.context 1 [pointPart key]] :=
    readSequence?_sequence (curveForm_isPlain key) (curveParts_isPlain key)
  have point : (Der.context 1 [pointPart key]).parts? = some [pointPart key] :=
    parts?_context 1 (by simpa using pointPart_isPlain key)
  have bits : markedParts?.bits? (pointPart key) = some (uncompressed key.point) := rfl
  have marked : markedParts? [Der.context 1 [pointPart key]] =
      some (none, some (uncompressed key.point)) := by
    simp only [markedParts?, point, bits, bind, Option.bind]
    rfl
  have scalar := key.toNat_ofNat_scalar
  have version : Element.natural? ⟨Tag.integer, [1]⟩ = some 1 := by decide
  simp only [readCurveForm?, parts, version, marked, scalar, keyOnCurve?_write,
    Option.bind_eq_bind, Option.bind_some, and_self, guard_true, Option.pure_def]

theorem readGeneralForm?_write (key : P256.PrivateKey) :
    readGeneralForm? (generalForm key).encode = some (.p256 key) := by
  have parts : readSequence? (generalForm key).encode = some [⟨Tag.integer, [0]⟩,
      Der.sequence algorithmParts, ⟨Tag.octetString, (curveForm key).encode⟩] :=
    readSequence?_sequence (generalForm_isPlain key) (generalParts_isPlain key)
  have algorithm : (Der.sequence algorithmParts).parts? = some [⟨Tag.objectIdentifier,
      ellipticCurve⟩, ⟨Tag.objectIdentifier, curveP256⟩] := parts?_sequence algorithmParts_isPlain
  have version : Element.natural? ⟨Tag.integer, [0]⟩ = some 0 := by decide
  have tag : (Der.sequence algorithmParts).tag = Tag.sequence := rfl
  simp only [readGeneralForm?, parts, version, tag, algorithm, readCurveForm?_write,
    Option.bind_eq_bind, Option.bind_some, and_self, true_or, guard_true, if_true, Option.pure_def]

theorem isLabel_privateKey : Pem.IsLabel "PRIVATE KEY".toList where
  ascii := by
    have all : "PRIVATE KEY".toList.all (fun c => decide (c.toNat < 0x80)) = true := by decide
    exact fun c member => of_decide_eq_true (List.all_eq_true.mp all c member)
  noHyphen := by decide
  named := by decide

theorem read?_write (key : P256.PrivateKey) : read? (write key) = some (.p256 key) := by
  have blocks := Pem.blocks?_encode isLabel_privateKey (generalForm key).encode
  have label : String.ofList "PRIVATE KEY".toList = "PRIVATE KEY" := String.ofList_toList
  have listed : labels.contains "PRIVATE KEY" = true := by decide
  simp only [read?, write, blocks, Option.bind_eq_bind, Option.bind_some, List.find?_cons, label,
    listed, isProcessed, List.any_nil, Bool.not_false, guard_true, if_true, Option.pure_def,
    readGeneralForm?_write]

theorem ascii_write (key : P256.PrivateKey) : ∀ b ∈ write key, b.toNat < 0x80 :=
  Text.Utf8.ascii_encode (Pem.ascii_encode isLabel_privateKey _)

theorem length_encode_congr {e other : Element} (same : e.content.length = other.content.length) :
    e.encode.length = other.encode.length := by
  simp only [Element.encode, List.length_append, List.length_cons, same]

theorem length_curveForm_congr (key other : P256.PrivateKey) :
    (curveForm key).encode.length = (curveForm other).encode.length := by
  apply length_encode_congr
  simp only [curveForm, Der.sequence, Der.context, Element.encode, List.flatMap_cons, List.flatMap_nil,
    List.length_append, List.length_cons, List.length_nil, Bytes.length_ofNat, length_uncompressed]

theorem length_generalForm_congr (key other : P256.PrivateKey) :
    (generalForm key).encode.length = (generalForm other).encode.length := by
  have inner : (Element.encode ⟨Tag.octetString, (curveForm key).encode⟩).length =
      (Element.encode ⟨Tag.octetString, (curveForm other).encode⟩).length :=
    length_encode_congr (length_curveForm_congr key other)
  apply length_encode_congr
  simp only [generalForm, Der.sequence, List.flatMap_cons, List.flatMap_nil, List.length_append, inner]

/-- The files of all keys are of one length. -/
theorem length_write_congr (key other : P256.PrivateKey) : (write key).length = (write other).length :=
  Pem.length_encode_congr (length_generalForm_congr key other)

end KeyFile

/-- The file of a key that does not refuse to sign gives back this very key. -/
theorem AccountKey.ofPem_toPem (secret : P256.PrivateKey) :
    AccountKey.ofPem (AccountKey.ofSecret secret).toPem = .ok (AccountKey.ofSecret secret) := by
  have read : KeyFile.read? (AccountKey.ofSecret secret).toPem = some (.p256 secret) :=
    KeyFile.read?_write secret
  simp only [AccountKey.ofPem, read]

end AcmeClient
