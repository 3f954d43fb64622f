import AcmeClient.Bytes

/-!
UTF-8. `encode` writes text; `decode` reads it strictly and says where and why it stops;
`decodeTolerant` also accepts the three-byte form of half a surrogate pair, which no text holds and
which is read as the replacement character.
-/

namespace AcmeClient.Text

inductive DecodeReason where
  | invalidStart
  | invalidContinuation
  | unexpectedEnd
  | truncated
  | outOfRange
deriving DecidableEq, Repr

def DecodeReason.message : DecodeReason → String
  | .invalidStart => "invalid start byte"
  | .invalidContinuation => "invalid continuation byte"
  | .unexpectedEnd => "unexpected end of data"
  | .truncated => "truncated data"
  | .outOfRange => "code point not in range(0x110000)"

/-- The first place at which a byte string stops being text: `count` bytes from `start` on. -/
structure DecodeError where
  encoding : String
  start : Nat
  count : Nat
  first : UInt8
  reason : DecodeReason
deriving DecidableEq, Repr

/-- One byte is named by its value, several only by their positions. -/
def DecodeError.message (e : DecodeError) : String :=
  let place :=
    if e.count = 1 then
      s!"byte 0x{String.ofList (Bytes.toHex [e.first])} in position {e.start}"
    else s!"bytes in position {e.start}-{e.start + e.count - 1}"
  s!"'{e.encoding}' codec can't decode {place}: {e.reason.message}"

def replacement : Char := Char.ofNat 0xFFFD

namespace Utf8

def encodeChar (c : Char) : Bytes :=
  let n := c.toNat
  if n < 0x80 then [UInt8.ofNat n]
  else if n < 0x800 then [UInt8.ofNat (0xC0 + n / 64), UInt8.ofNat (0x80 + n % 64)]
  else if n < 0x10000 then
    [UInt8.ofNat (0xE0 + n / 4096), UInt8.ofNat (0x80 + n / 64 % 64), UInt8.ofNat (0x80 + n % 64)]
  else
    [UInt8.ofNat (0xF0 + n / 262144), UInt8.ofNat (0x80 + n / 4096 % 64),
      UInt8.ofNat (0x80 + n / 64 % 64), UInt8.ofNat (0x80 + n % 64)]

def encode (text : List Char) : Bytes :=
  text.flatMap encodeChar

def isTail (b : UInt8) : Bool := 0x80 ≤ b && b ≤ 0xBF

/-- The range of the second byte after a given first byte: it excludes forms that are longer than
needed, surrogates, and what lies beyond the last code point. -/
def secondRange (first : UInt8) : UInt8 × UInt8 :=
  if first = 0xE0 then (0xA0, 0xBF)
  else if first = 0xED then (0x80, 0x9F)
  else if first = 0xF0 then (0x90, 0xBF)
  else if first = 0xF4 then (0x80, 0x8F)
  else (0x80, 0xBF)

/-- How many bytes a character with this first byte has, if any has. -/
def width? (first : UInt8) : Option Nat :=
  if first < 0x80 then some 1
  else if 0xC2 ≤ first ∧ first ≤ 0xDF then some 2
  else if 0xE0 ≤ first ∧ first ≤ 0xEF then some 3
  else if 0xF0 ≤ first ∧ first ≤ 0xF4 then some 4
  else none

/-- What stands at the front of a byte string: a character of so many bytes, or so many bytes that
begin none. -/
inductive Front where
  | char (c : Char) (width : Nat)
  | bad (count : Nat) (reason : DecodeReason)
deriving DecidableEq, Repr

def front (first : UInt8) (rest : Bytes) : Front :=
  match width? first with
  | none => .bad 1 .invalidStart
  | some 1 => .char (Char.ofNat first.toNat) 1
  | some width =>
    match rest with
    | [] => .bad 1 .unexpectedEnd
    | second :: rest =>
      let (low, high) := secondRange first
      if second < low ∨ high < second then .bad 1 .invalidContinuation
      else if width = 2 then
        .char (Char.ofNat ((first.toNat - 0xC0) * 64 + (second.toNat - 0x80))) 2
      else
        match rest with
        | [] => .bad 2 .unexpectedEnd
        | third :: rest =>
          if !isTail third then .bad 2 .invalidContinuation
          else if width = 3 then
            .char (Char.ofNat ((first.toNat - 0xE0) * 4096 + (second.toNat - 0x80) * 64
              + (third.toNat - 0x80))) 3
          else
            match rest with
            | [] => .bad 3 .unexpectedEnd
            | fourth :: _ =>
              if !isTail fourth then .bad 3 .invalidContinuation
              else
                .char (Char.ofNat ((first.toNat - 0xF0) * 262144 + (second.toNat - 0x80) * 4096
                  + (third.toNat - 0x80) * 64 + (fourth.toNat - 0x80))) 4

/-- Whether a byte string starts with the three-byte form of half a surrogate pair. -/
def startsWithHalf : Bytes → Bool
  | first :: second :: third :: _ => first == 0xED && 0xA0 ≤ second && isTail second && isTail third
  | _ => false

/-- Reads text from position `start` on, where the first `skip` bytes belong to a character that has
been read; with `tolerant`, half a surrogate pair is read as the replacement character. -/
def decodeFrom (tolerant : Bool) (start skip : Nat) : Bytes → Except DecodeError (List Char)
  | [] => .ok []
  | first :: rest =>
    match skip with
    | skip + 1 => decodeFrom tolerant (start + 1) skip rest
    | 0 =>
      match front first rest with
      | .char c width => do
        let text ← decodeFrom tolerant (start + 1) (width - 1) rest
        return c :: text
      | .bad count reason =>
        if tolerant && startsWithHalf (first :: rest) then do
          let text ← decodeFrom tolerant (start + 1) 2 rest
          return replacement :: text
        else .error { encoding := "utf-8", start, count, first, reason }

def decode (bytes : Bytes) : Except DecodeError (List Char) :=
  decodeFrom false 0 0 bytes

def decodeTolerant (bytes : Bytes) : Except DecodeError (List Char) :=
  decodeFrom true 0 0 bytes

end Utf8

def bytesOf (s : String) : Bytes :=
  Utf8.encode s.toList

end AcmeClient.Text
