import AcmeClient.Crypto.Sha256

/-!
The elliptic curve P-256 and its digital signatures over SHA-256. A private key is a number between
zero and the order of the base point; the secret number of each signature is derived from the key
and the message.
-/

namespace AcmeClient.P256

abbrev prime : Nat := 0xffffffff00000001000000000000000000000000ffffffffffffffffffffffff

abbrev order : Nat := 0xffffffff00000000ffffffffffffffffbce6faada7179e84f3b9cac2fc632551

structure Point where
  x : Fin prime
  y : Fin prime
deriving DecidableEq, Repr

/-- A point as a triple that stands for (x / z², y / z³); the neutral point has z = 0. -/
structure Triple where
  x : Nat
  y : Nat
  z : Nat

def sub (a b : Nat) : Nat := (a + (prime - b % prime)) % prime

def power (modulus : Nat) : (bits : Nat) → (base exponent : Nat) → Nat
  | 0, _, _ => 1 % modulus
  | bits + 1, base, exponent =>
    let rest := power modulus bits (base * base % modulus) (exponent / 2)
    if exponent % 2 = 1 then base * rest % modulus else rest

/-- The inverse modulo a prime below 2²⁵⁶, by the little theorem. -/
def inverse (modulus a : Nat) : Nat := power modulus 256 (a % modulus) (modulus - 2)

namespace Triple

def neutral : Triple := ⟨1, 1, 0⟩

def double (p : Triple) : Triple :=
  let square := p.z * p.z % prime
  let slope := 3 * (sub p.x square * ((p.x + square) % prime) % prime) % prime
  let ySquare := p.y * p.y % prime
  let shift := 4 * p.x * ySquare % prime
  let x := sub (slope * slope) (2 * shift)
  let y := sub (slope * sub shift x) (8 * (ySquare * ySquare % prime))
  ⟨x, y, 2 * p.y * p.z % prime⟩

def add (p q : Triple) : Triple :=
  if p.z = 0 then q
  else if q.z = 0 then p
  else
    let pSquare := p.z * p.z % prime
    let qSquare := q.z * q.z % prime
    let u := p.x * qSquare % prime
    let v := q.x * pSquare % prime
    let s := p.y * (qSquare * q.z % prime) % prime
    let t := q.y * (pSquare * p.z % prime) % prime
    if u = v then (if s = t then double p else neutral)
    else
      let h := sub v u
      let r := sub t s
      let hSquare := h * h % prime
      let hCube := hSquare * h % prime
      let shift := u * hSquare % prime
      let x := sub (r * r) (hCube + 2 * shift)
      let y := sub (r * sub shift x) (s * hCube % prime)
      ⟨x, y, p.z * q.z % prime * h % prime⟩

def ofPoint (p : Point) : Triple := ⟨p.x, p.y, 1⟩

def toPoint? (p : Triple) : Option Point :=
  if p.z = 0 then none
  else
    let i := inverse prime p.z
    let square := i * i % prime
    some ⟨Fin.ofNat prime (p.x * square), Fin.ofNat prime (p.y * (square * i % prime))⟩

/-- A multiple of a point, by the binary digits of the factor. -/
def multiple : (bits : Nat) → (factor : Nat) → Triple → Triple
  | 0, _, _ => neutral
  | bits + 1, factor, p =>
    let rest := multiple bits (factor / 2) (double p)
    if factor % 2 = 1 then add p rest else rest

end Triple

def base : Point where
  x := 0x6b17d1f2e12c4247f8bce6e563a440f277037d812deb33a0f4a13945d898c296
  y := 0x4fe342e2fe1a7f9b8ee7eb4a7c0f9e162bce33576b315ececbb6406837bf51f5

theorem one_lt_order : 1 < order := by decide

structure PrivateKey where
  scalar : Nat
  positive : 0 < scalar
  below : scalar < order
deriving DecidableEq, Repr

def PrivateKey.ofNat? (scalar : Nat) : Option PrivateKey :=
  if inside : 0 < scalar ∧ scalar < order then some ⟨scalar, inside.1, inside.2⟩ else none

def PrivateKey.point (key : PrivateKey) : Point :=
  ((Triple.multiple 256 key.scalar (.ofPoint base)).toPoint?).getD base

structure Signature where
  r : Fin order
  s : Fin order
deriving DecidableEq, Repr

def messageNumber (message : Bytes) : Nat := Bytes.toNat (Sha256.digest message) % order

def signWith (key : PrivateKey) (number secret : Nat) : Signature :=
  let r := match (Triple.multiple 256 secret (.ofPoint base)).toPoint? with
    | some p => p.x.val % order
    | none => 0
  ⟨Fin.ofNat order r,
    Fin.ofNat order (inverse order secret * ((number + r * key.scalar) % order))⟩

structure Generator where
  key : Bytes
  value : Bytes

namespace Generator

def update (g : Generator) (tag : UInt8) (seed : Bytes) : Generator :=
  let key := Sha256.authenticate g.key (g.value ++ tag :: seed)
  ⟨key, Sha256.authenticate key g.value⟩

def start (key : PrivateKey) (number : Nat) : Generator :=
  let seed := Bytes.ofNat 32 key.scalar ++ Bytes.ofNat 32 number
  let empty : Generator := ⟨List.replicate 32 0, List.replicate 32 1⟩
  (empty.update 0 seed).update 1 seed

end Generator

def signFrom (key : PrivateKey) (number : Nat) : (attempts : Nat) → Generator → Signature
  | 0, g => signWith key number (Bytes.toNat (Sha256.authenticate g.key g.value) % order)
  | attempts + 1, g =>
    let value := Sha256.authenticate g.key g.value
    let secret := Bytes.toNat value
    let signature := signWith key number secret
    if 0 < secret ∧ secret < order ∧ signature.r ≠ 0 ∧ signature.s ≠ 0 then signature
    else signFrom key number attempts (Generator.update ⟨g.key, value⟩ 0 [])

def sign (key : PrivateKey) (message : Bytes) : Signature :=
  let number := messageNumber message
  signFrom key number 64 (Generator.start key number)

def verify (point : Point) (message : Bytes) (signature : Signature) : Bool :=
  let inverseS := inverse order signature.s
  let u := messageNumber message * inverseS % order
  let v := signature.r * inverseS % order
  let sum := (Triple.multiple 256 u (.ofPoint base)).add
    (Triple.multiple 256 v (.ofPoint point))
  signature.r != 0 && signature.s != 0 &&
    match sum.toPoint? with
    | some p => p.x.val % order == signature.r
    | none => false

def Signature.bytes (signature : Signature) : Bytes :=
  Bytes.ofNat 32 signature.r ++ Bytes.ofNat 32 signature.s

theorem Signature.length_bytes (signature : Signature) : signature.bytes.length = 64 := by
  simp [bytes, Bytes.length_ofNat]

def Signature.ofBytes? (bytes : Bytes) : Option Signature :=
  let r := Bytes.toNat (bytes.take 32)
  let s := Bytes.toNat (bytes.drop 32)
  if inside : bytes.length = 64 ∧ r < order ∧ s < order then
    some ⟨⟨r, inside.2.1⟩, ⟨s, inside.2.2⟩⟩
  else none

end AcmeClient.P256
