import AcmeClient.Number.Decimal
import AcmeClient.Text.Space

namespace AcmeClient.Numeral

/-- The zeros of all scripts; the other nine digits follow each. -/
def zeros : List Nat := [
  0x30, 0x660, 0x6F0, 0x7C0, 0x966, 0x9E6, 0xA66, 0xAE6, 0xB66, 0xBE6, 0xC66, 0xCE6, 0xD66, 0xDE6,
  0xE50, 0xED0, 0xF20, 0x1040, 0x1090, 0x17E0, 0x1810, 0x1946, 0x19D0, 0x1A80, 0x1A90, 0x1B50,
  0x1BB0, 0x1C40, 0x1C50, 0xA620, 0xA8D0, 0xA900, 0xA9D0, 0xA9F0, 0xAA50, 0xABF0, 0xFF10, 0x104A0,
  0x10D30, 0x11066, 0x110F0, 0x11136, 0x111D0, 0x112F0, 0x11450, 0x114D0, 0x11650, 0x116C0,
  0x11730, 0x118E0, 0x11950, 0x11C50, 0x11D50, 0x11DA0, 0x16A60, 0x16AC0, 0x16B50, 0x1D7CE,
  0x1D7D8, 0x1D7E2, 0x1D7EC, 0x1D7F6, 0x1E140, 0x1E2F0, 0x1E950, 0x1FBF0]

def digit? (c : Char) : Option Nat :=
  if c.toNat < 0x80 then (if c.isDigit then some (c.toNat - 48) else none)
  else (zeros.find? fun first => first ≤ c.toNat && c.toNat < first + 10).map (c.toNat - ·)

def digitIn? (base : Nat) (c : Char) : Option Nat := do
  let value ←
    if 'a' ≤ c ∧ c ≤ 'f' then some (c.toNat - 87)
    else if 'A' ≤ c ∧ c ≤ 'F' then some (c.toNat - 55)
    else digit? c
  if value < base then return value else none

/-- A sign, which may be left out, and what follows it. -/
def splitSign : List Char → Bool × List Char
  | '-' :: rest => (true, rest)
  | '+' :: rest => (false, rest)
  | text => (false, text)

def dropMark (base : Nat) (text : List Char) : List Char :=
  let mark? : Option Char :=
    if base = 2 then some 'b' else if base = 8 then some 'o' else if base = 16 then some 'x' else none
  match mark?, text with
  | some mark, '0' :: c :: rest => if c.toLower = mark then rest else text
  | _, _ => text

/-- The digits of an integer in a base of at most sixteen, and whether it is negative. -/
def integerDigits? (base : Nat) (text : List Char) : Option (Bool × List Nat) := do
  let (negative, unsigned) := splitSign (Text.trim Text.isSpace text)
  let values ← (dropMark base unsigned).mapM (digitIn? base)
  guard !values.isEmpty
  return (negative, values)

def ofValues (base : Nat) (values : List Nat) : Nat :=
  values.foldl (fun number value => base * number + value) 0

/-- Digits with at most one point, of which at least one stands on either side. -/
def significand? (text : List Char) : Option (List Nat × Nat) := do
  let whole := text.takeWhile (· != '.')
  let fraction := (text.dropWhile (· != '.')).drop 1
  let values ← (whole ++ fraction).mapM digit?
  guard !values.isEmpty
  return (values, fraction.length)

def exponent? (text : List Char) : Option Int := do
  let (negative, unsigned) := splitSign text
  let values ← unsigned.mapM digit?
  guard !values.isEmpty
  let size : Int := ofValues 10 values
  return if negative then -size else size

/-- A double precision number in decimal notation, or one of the words for what is none. -/
def float? (text : List Char) : Option Binary64 :=
  let (negative, unsigned) := splitSign (Text.trim Text.isSpace text)
  let small := unsigned.map Char.toLower
  if small = "inf".toList ∨ small = "infinity".toList then some (.infinite negative)
  else if small = "nan".toList then some .nan
  else do
    let isMark (c : Char) : Bool := c == 'e' || c == 'E'
    let (values, places) ← significand? (unsigned.takeWhile (!isMark ·))
    let exponent ← match unsigned.dropWhile (!isMark ·) with
      | [] => some 0
      | _ :: rest => exponent? rest
    return .ofDecimal negative (ofValues 10 values) (exponent - places)

end AcmeClient.Numeral
