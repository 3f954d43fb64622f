import AcmeClient.Crypto.P256
import AcmeClient.Key.Der
import AcmeClient.Key.Pem

/-!
Private keys as armoured files. `write` gives the general form with the public point included;
`read?` accepts the general and the curve's own form and tells keys of other kinds apart.
-/

namespace AcmeClient.KeyFile

open Der

inductive Content where
  | p256 (key : P256.PrivateKey)
  | other
deriving DecidableEq, Repr

def ellipticCurve : Bytes := [0x2A, 0x86, 0x48, 0xCE, 0x3D, 0x02, 0x01]
def curveP256 : Bytes := [0x2A, 0x86, 0x48, 0xCE, 0x3D, 0x03, 0x01, 0x07]

def otherCurves : List Bytes := [
  [0x2A, 0x86, 0x48, 0xCE, 0x3D, 0x03, 0x01, 0x01],
  [0x2B, 0x81, 0x04, 0x00, 0x0A],
  [0x2B, 0x81, 0x04, 0x00, 0x21],
  [0x2B, 0x81, 0x04, 0x00, 0x22],
  [0x2B, 0x81, 0x04, 0x00, 0x23],
  [0x2B, 0x24, 0x03, 0x03, 0x02, 0x08, 0x01, 0x01, 0x07],
  [0x2B, 0x24, 0x03, 0x03, 0x02, 0x08, 0x01, 0x01, 0x0B],
  [0x2B, 0x24, 0x03, 0x03, 0x02, 0x08, 0x01, 0x01, 0x0D]]

def rsa : Bytes := [0x2A, 0x86, 0x48, 0x86, 0xF7, 0x0D, 0x01, 0x01, 0x01]
def rsaPss : Bytes := [0x2A, 0x86, 0x48, 0x86, 0xF7, 0x0D, 0x01, 0x01, 0x0A]
def dsa : Bytes := [0x2A, 0x86, 0x48, 0xCE, 0x38, 0x04, 0x01]

def rawKeyLength? (algorithm : Bytes) : Option Nat :=
  if algorithm = [0x2B, 0x65, 0x6E] then some 32
  else if algorithm = [0x2B, 0x65, 0x6F] then some 56
  else if algorithm = [0x2B, 0x65, 0x70] then some 32
  else if algorithm = [0x2B, 0x65, 0x71] then some 57
  else none

def uncompressed (p : P256.Point) : Bytes :=
  0x04 :: Bytes.ofNat 32 p.x ++ Bytes.ofNat 32 p.y

/-- Every way to write a point: whole, by one coordinate and the parity of the other, or both. -/
def pointForms (p : P256.Point) : List Bytes :=
  let parity := UInt8.ofNat (p.y.val % 2)
  [uncompressed p, (0x02 + parity) :: Bytes.ofNat 32 p.x,
    (0x06 + parity) :: Bytes.ofNat 32 p.x ++ Bytes.ofNat 32 p.y]

/-- The curve's own form: version, private number, and the public point. -/
def curveForm (key : P256.PrivateKey) : Element :=
  Der.sequence [⟨Tag.integer, [1]⟩, ⟨Tag.octetString, Bytes.ofNat 32 key.scalar⟩,
    Der.context 1 [⟨Tag.bitString, 0 :: uncompressed key.point⟩]]

/-- The general form: version, algorithm with its curve, and the curve's own form inside. -/
def generalForm (key : P256.PrivateKey) : Element :=
  Der.sequence [⟨Tag.integer, [0]⟩,
    Der.sequence [⟨Tag.objectIdentifier, ellipticCurve⟩, ⟨Tag.objectIdentifier, curveP256⟩],
    ⟨Tag.octetString, (curveForm key).encode⟩]

def write (key : P256.PrivateKey) : Bytes :=
  Text.Utf8.encode (Pem.encode "PRIVATE KEY".toList (generalForm key).encode)

/-- The optional marked parts of the curve's own form: parameters, then the public point. -/
def markedParts? : List Element → Option (Option Element × Option Bytes)
  | [] => some (none, none)
  | [e] => do
    let [part] ← e.parts? | none
    if e.tag = Tag.context 0 then return (some part, none)
    else if e.tag = Tag.context 1 then return (none, some (← bits? part))
    else none
  | [parameters, point] => do
    guard (parameters.tag = Tag.context 0 ∧ point.tag = Tag.context 1)
    let [parameters] ← parameters.parts? | none
    let [point] ← point.parts? | none
    return (some parameters, some (← bits? point))
  | _ => none
where
  /-- A string of whole bytes. -/
  bits? (e : Element) : Option Bytes :=
    match e.content with
    | 0 :: bytes => if e.tag = Tag.bitString then some bytes else none
    | _ => none

/-- A key on a named curve; a public point that is given must be the private number's. -/
def keyOnCurve? (curve : Element) (scalar : Nat) (point : Option Bytes) : Option Content := do
  guard (curve.tag = Tag.objectIdentifier)
  if curve.content = curveP256 then
    let key ← P256.PrivateKey.ofNat? scalar
    match point with
    | none => return .p256 key
    | some bytes =>
      guard ((pointForms key.point).contains bytes)
      return .p256 key
  else
    guard (otherCurves.contains curve.content ∧ scalar ≠ 0)
    return .other

/-- The curve's own form, inside which the curve may be left out if it is known from outside. -/
def readCurveForm? (outer : Option Element) (bytes : Bytes) : Option Content := do
  let version :: secret :: marked ← Der.readSequence? bytes | none
  guard (version.natural? = some 1 ∧ secret.tag = Tag.octetString)
  let (inner, point) ← markedParts? marked
  let scalar := Bytes.toNat secret.content
  match outer, inner with
  | some outer, some inner =>
    guard (outer = inner)
    keyOnCurve? outer scalar point
  | some curve, none | none, some curve => keyOnCurve? curve scalar point
  | none, none => none

/-- The numbers of an RSA key: version zero, the modulus, and what belongs to its two primes. -/
def readRsaForm? (bytes : Bytes) : Option Content := do
  let numbers ← (← Der.readSequence? bytes).mapM Element.natural?
  let [version, n, _, _, p, q, _, _, _] := numbers | none
  guard (version = 0 ∧ n = p * q)
  return .other

/-- The numbers of a DSA key: version zero, the group, and the public and private number. -/
def readDsaForm? (bytes : Bytes) : Option Content := do
  let numbers ← (← Der.readSequence? bytes).mapM Element.natural?
  let [version, _, _, _, _, _] := numbers | none
  guard (version = 0)
  return .other

/-- The general form of version zero, with optional attributes at the end. -/
def readGeneralForm? (bytes : Bytes) : Option Content := do
  let version :: algorithm :: secret :: attributes ← Der.readSequence? bytes | none
  guard (version.natural? = some 0 ∧ algorithm.tag = Tag.sequence
    ∧ secret.tag = Tag.octetString)
  guard (attributes = [] ∨ attributes.map Element.tag = [Tag.context 0])
  let name :: parameters ← algorithm.parts? | none
  guard (name.tag = Tag.objectIdentifier)
  if name.content = ellipticCurve then
    let [curve] := parameters | none
    readCurveForm? (some curve) secret.content
  else if name.content = rsa then
    guard (parameters = [] ∨ parameters = [⟨Tag.null, []⟩])
    readRsaForm? secret.content
  else if name.content = rsaPss then readRsaForm? secret.content
  else if name.content = dsa then
    let [group] := parameters | none
    let _ ← (← group.parts?).mapM Element.natural?
    let (number, rest) ← Element.read? secret.content
    guard (rest = [] ∧ number.natural?.isSome)
    return .other
  else
    let length ← rawKeyLength? name.content
    let (raw, rest) ← Element.read? secret.content
    guard (parameters = [] ∧ rest = [] ∧ raw.tag = Tag.octetString ∧ raw.content.length = length)
    return .other

/-- Whether a header of a block says how its content has been processed. The only process there is
encrypts it, and any other is refused as well. -/
def isProcessed (block : Pem.Block) : Bool :=
  block.headers.any fun header => header.1 == "Proc-Type".toList

def labels : List String :=
  ["PRIVATE KEY", "ENCRYPTED PRIVATE KEY", "RSA PRIVATE KEY", "EC PRIVATE KEY", "DSA PRIVATE KEY"]

/-- The first private key in a file, all of whose blocks must be sound. -/
def read? (bytes : Bytes) : Option Content := do
  let block ← (← Pem.blocks? bytes).find? fun block => labels.contains (String.ofList block.label)
  let label := String.ofList block.label
  guard (!isProcessed block)
  if label = "PRIVATE KEY" then readGeneralForm? block.content
  else if label = "EC PRIVATE KEY" then readCurveForm? none block.content
  else if label = "RSA PRIVATE KEY" then readRsaForm? block.content
  else if label = "DSA PRIVATE KEY" then readDsaForm? block.content
  else none

end AcmeClient.KeyFile
