import AcmeClient.Bytes

/-!
Base64 in both alphabets. `encodeUrl` writes the URL alphabet without padding; `decodeLenient`
skips foreign characters and stops at a completed padding; `decodeStandard?` accepts only what
`encodeStandard` writes.
-/

namespace AcmeClient.Base64

/-- The six-bit groups of a byte string; the last group is filled with zero bits. -/
def sextets : Bytes → List Nat
  | [] => []
  | [x] => [x.toNat / 4, x.toNat % 4 * 16]
  | [x, y] => [x.toNat / 4, x.toNat % 4 * 16 + y.toNat / 16, y.toNat % 16 * 4]
  | x :: y :: z :: rest =>
    x.toNat / 4 :: (x.toNat % 4 * 16 + y.toNat / 16) :: (y.toNat % 16 * 4 + z.toNat / 64)
      :: z.toNat % 64 :: sextets rest

/-- The whole bytes in a run of six-bit groups; bits that fill no byte are dropped. -/
def ofSextets : List Nat → Bytes
  | a :: b :: c :: d :: rest =>
    UInt8.ofNat (a * 4 + b / 16) :: UInt8.ofNat (b % 16 * 16 + c / 4)
      :: UInt8.ofNat (c % 4 * 64 + d) :: ofSextets rest
  | [a, b, c] => [UInt8.ofNat (a * 4 + b / 16), UInt8.ofNat (b % 16 * 16 + c / 4)]
  | [a, b] => [UInt8.ofNat (a * 4 + b / 16)]
  | _ => []

def letter (value : Nat) : Char :=
  if value < 26 then Char.ofNat (65 + value)
  else if value < 52 then Char.ofNat (71 + value)
  else Char.ofNat (value - 4)

def urlDigit (value : Nat) : Char :=
  if value < 62 then letter value else if value = 62 then '-' else '_'

def standardDigit (value : Nat) : Char :=
  if value < 62 then letter value else if value = 62 then '+' else '/'

def letterValue? (c : Char) : Option Nat :=
  if 'A' ≤ c ∧ c ≤ 'Z' then some (c.toNat - 65)
  else if 'a' ≤ c ∧ c ≤ 'z' then some (c.toNat - 71)
  else if '0' ≤ c ∧ c ≤ '9' then some (c.toNat + 4)
  else none

def standardValue? (c : Char) : Option Nat :=
  if c = '+' then some 62 else if c = '/' then some 63 else letterValue? c

def value? (c : Char) : Option Nat :=
  if c = '-' then some 62 else if c = '_' then some 63 else standardValue? c

def encodeUrl (bytes : Bytes) : List Char :=
  (sextets bytes).map urlDigit

def paddingFor (length : Nat) : List Char :=
  List.replicate ((4 - length % 4) % 4) '='

def encodeStandard (bytes : Bytes) : List Char :=
  let text := (sextets bytes).map standardDigit
  text ++ paddingFor text.length

inductive DecodeError where
  | notAscii
  | padding
  | oneTooMany (count : Nat)
deriving DecidableEq, Repr

def DecodeError.message : DecodeError → String
  | .notAscii => "string argument should contain only ASCII characters"
  | .padding => "Incorrect padding"
  | .oneTooMany count =>
    s!"Invalid base64-encoded string: number of data characters ({count}) cannot be 1 more than a multiple of 4"

/-- The digits of a text up to the padding that completes a group of four, and whether there was
such a padding. `filled` digits of the current group have been read, with `pads` padding characters
after them. -/
def gather (value? : Char → Option Nat) (filled pads : Nat) : List Char → List Nat × Bool
  | [] => ([], false)
  | c :: rest =>
    if c = '=' then
      if filled < 2 then gather value? filled pads rest
      else if 4 ≤ filled + pads + 1 then ([], true)
      else gather value? filled (pads + 1) rest
    else
      match value? c with
      | none => gather value? filled pads rest
      | some value =>
        let (values, closed) := gather value? ((filled + 1) % 4) 0 rest
        (value :: values, closed)

/-- Reads padded text whose digits have given values, and skips all other characters. -/
def decodeWith (value? : Char → Option Nat) (text : List Char) : Except DecodeError Bytes :=
  let (values, closed) := gather value? 0 0 text
  if closed || values.length % 4 == 0 then .ok (ofSextets values)
  else if values.length % 4 = 1 then .error (.oneTooMany values.length)
  else .error .padding

/-- Reads padded or unpadded text of either alphabet and skips all other characters. -/
def decodeLenient (text : List Char) : Except DecodeError Bytes :=
  if text.any fun c => 0x80 ≤ c.toNat then .error .notAscii
  else decodeWith value? (text ++ paddingFor text.length)

/-- Reads the standard alphabet, with its padding and with zero bits where no byte is filled. -/
def decodeStandard? (text : List Char) : Option Bytes := do
  let values ← (text.takeWhile (· != '=')).mapM standardValue?
  let bytes := ofSextets values
  guard (encodeStandard bytes = text)
  return bytes

end AcmeClient.Base64
