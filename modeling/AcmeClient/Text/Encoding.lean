import AcmeClient.Text.Utf8

namespace AcmeClient.Text

inductive Endian where
  | little
  | big
deriving DecidableEq, Repr

/-- An encoding, with the number of bytes of its mark at the front. -/
inductive Encoding where
  | utf8 (mark : Nat)
  | utf16 (order : Endian) (mark : Nat)
  | utf32 (order : Endian) (mark : Nat)
deriving DecidableEq, Repr

/-- A byte order mark decides; without one, the position of zero bytes among the first four. -/
def Encoding.detect (bytes : Bytes) : Encoding :=
  if [0x00, 0x00, 0xFE, 0xFF].isPrefixOf bytes then .utf32 .big 4
  else if [0xFF, 0xFE, 0x00, 0x00].isPrefixOf bytes then .utf32 .little 4
  else if [0xFE, 0xFF].isPrefixOf bytes then .utf16 .big 2
  else if [0xFF, 0xFE].isPrefixOf bytes then .utf16 .little 2
  else if [0xEF, 0xBB, 0xBF].isPrefixOf bytes then .utf8 3
  else
    match bytes with
    | a :: b :: c :: d :: _ =>
      if a = 0 then (if b = 0 then .utf32 .big 0 else .utf16 .big 0)
      else if b = 0 then (if c = 0 ∧ d = 0 then .utf32 .little 0 else .utf16 .little 0)
      else .utf8 0
    | [a, b] =>
      if a = 0 then .utf16 .big 0 else if b = 0 then .utf16 .little 0 else .utf8 0
    | _ => .utf8 0

def Endian.suffix : Endian → String
  | .little => "le"
  | .big => "be"

def Endian.unit (order : Endian) (bytes : Bytes) : Nat :=
  match order with
  | .big => Bytes.toNat bytes
  | .little => Bytes.toNat bytes.reverse

namespace Utf16

def isHigh (unit : Nat) : Bool := 0xD800 ≤ unit && unit < 0xDC00
def isLow (unit : Nat) : Bool := 0xDC00 ≤ unit && unit < 0xE000

def join (high low : Nat) : Nat :=
  0x10000 + (high - 0xD800) * 1024 + (low - 0xDC00)

def single (unit : Nat) : Char :=
  if isHigh unit || isLow unit then replacement else Char.ofNat unit

/-- Reads pairs of bytes; a surrogate without its partner is read as the replacement character. -/
def decodeFrom (order : Endian) (start : Nat) : Bytes → Except DecodeError (List Char)
  | [] => .ok []
  | [last] =>
    .error { encoding := s!"utf-16-{order.suffix}", start, count := 1, first := last,
             reason := .truncated }
  | [a, b] => .ok [single (order.unit [a, b])]
  | [a, b, last] => do
    let text ← decodeFrom order (start + 2) [last]
    return single (order.unit [a, b]) :: text
  | a :: b :: c :: d :: rest => do
    let unit := order.unit [a, b]
    let next := order.unit [c, d]
    if isHigh unit && isLow next then
      let text ← decodeFrom order (start + 4) rest
      return Char.ofNat (join unit next) :: text
    else
      let text ← decodeFrom order (start + 2) (c :: d :: rest)
      return single unit :: text

end Utf16

namespace Utf32

/-- Reads groups of four bytes; a surrogate is read as the replacement character. -/
def decodeFrom (order : Endian) (start : Nat) : Bytes → Except DecodeError (List Char)
  | [] => .ok []
  | a :: b :: c :: d :: rest => do
    let value := order.unit [a, b, c, d]
    if 0x110000 ≤ value then
      throw { encoding := s!"utf-32-{order.suffix}", start, count := 4, first := a,
              reason := .outOfRange }
    let text ← decodeFrom order (start + 4) rest
    let c := if 0xD800 ≤ value ∧ value < 0xE000 then replacement else Char.ofNat value
    return c :: text
  | first :: rest =>
    .error { encoding := s!"utf-32-{order.suffix}", start, count := rest.length + 1, first,
             reason := .truncated }

end Utf32

/-- Positions count from the first byte, except in marked UTF-8, where the mark is not counted. -/
def Encoding.decode (e : Encoding) (bytes : Bytes) : Except DecodeError (List Char) :=
  match e with
  | .utf8 mark => Utf8.decodeFrom true 0 0 (bytes.drop mark)
  | .utf16 order mark => Utf16.decodeFrom order mark (bytes.drop mark)
  | .utf32 order mark => Utf32.decodeFrom order mark (bytes.drop mark)

def decodeDetected (bytes : Bytes) : Except DecodeError (List Char) :=
  (Encoding.detect bytes).decode bytes

end AcmeClient.Text
