import AcmeClient.Bytes

namespace AcmeClient.Der

structure Element where
  tag : UInt8
  content : Bytes
deriving DecidableEq, Repr

abbrev Tag.integer : UInt8 := 0x02
abbrev Tag.bitString : UInt8 := 0x03
abbrev Tag.octetString : UInt8 := 0x04
abbrev Tag.null : UInt8 := 0x05
abbrev Tag.objectIdentifier : UInt8 := 0x06
abbrev Tag.sequence : UInt8 := 0x30

abbrev Tag.context (number : UInt8) : UInt8 := 0xA0 + number

def significantBytes (n : Nat) : Bytes :=
  (Bytes.ofNat 8 n).dropWhile (· == 0)

def encodeLength (length : Nat) : Bytes :=
  if length < 0x80 then [UInt8.ofNat length]
  else
    let bytes := significantBytes length
    UInt8.ofNat (0x80 + bytes.length) :: bytes

def Element.encode (e : Element) : Bytes :=
  e.tag :: encodeLength e.content.length ++ e.content

/-- A length and what follows it; only the shortest form is read. -/
def readLength? : Bytes → Option (Nat × Bytes)
  | [] => none
  | first :: rest =>
    if first < 0x80 then some (first.toNat, rest)
    else
      let count := first.toNat - 0x80
      let length := Bytes.toNat (rest.take count)
      if count ≤ 4 ∧ encodeLength length = first :: rest.take count then
        some (length, rest.drop count)
      else none

def Element.read? : Bytes → Option (Element × Bytes)
  | [] => none
  | tag :: rest => do
    guard (tag &&& 0x1F ≠ 0x1F)
    let (length, rest) ← readLength? rest
    guard (length ≤ rest.length)
    return (⟨tag, rest.take length⟩, rest.drop length)

/-- The elements that make up a byte string, given at least as many steps as it has bytes. -/
def readElements? : (steps : Nat) → Bytes → Option (List Element)
  | _, [] => some []
  | 0, _ :: _ => none
  | steps + 1, bytes => do
    let (e, rest) ← Element.read? bytes
    let others ← readElements? steps rest
    return e :: others

def readSequence? (bytes : Bytes) : Option (List Element) := do
  let (e, rest) ← Element.read? bytes
  guard (e.tag = Tag.sequence ∧ rest = [])
  readElements? e.content.length e.content

def Element.parts? (e : Element) : Option (List Element) :=
  readElements? e.content.length e.content

/-- An integer of zero or more, in its shortest form. -/
def Element.natural? (e : Element) : Option Nat :=
  match e.content with
  | [] => none
  | first :: rest =>
    if e.tag ≠ Tag.integer ∨ 0x80 ≤ first then none
    else if first = 0 ∧ (rest.head?.any fun second => second < 0x80) then none
    else some (Bytes.toNat e.content)

def sequence (parts : List Element) : Element :=
  ⟨Tag.sequence, parts.flatMap Element.encode⟩

def context (number : UInt8) (parts : List Element) : Element :=
  ⟨Tag.context number, parts.flatMap Element.encode⟩

end AcmeClient.Der
