import AcmeClient.Bytes
import AcmeClient.Text.Printable

/-!
Text and byte strings in quotes, as messages show them: single quotes, unless the text has a single
quote and no double one, and escapes for what cannot be shown.
-/

namespace AcmeClient.Text

def quoteFor (text : List Char) : Char :=
  if text.contains '\'' && !text.contains '"' then '"' else '\''

def hexDigits : (width : Nat) → Nat → List Char
  | 0, _ => []
  | width + 1, n => hexDigits width (n / 16) ++ [Bytes.hexDigit (n % 16)]

def escape? (quote : Char) (c : Char) : Option (List Char) :=
  if c = quote ∨ c = '\\' then some ['\\', c]
  else if c = '\t' then some ['\\', 't']
  else if c = '\n' then some ['\\', 'n']
  else if c = '\r' then some ['\\', 'r']
  else none

def quoteChar (quote c : Char) : List Char :=
  match escape? quote c with
  | some escaped => escaped
  | none =>
    if isPrintable c then [c]
    else if c.toNat < 0x100 then '\\' :: 'x' :: hexDigits 2 c.toNat
    else if c.toNat < 0x10000 then '\\' :: 'u' :: hexDigits 4 c.toNat
    else '\\' :: 'U' :: hexDigits 8 c.toNat

def quoted (text : List Char) : List Char :=
  let quote := quoteFor text
  quote :: text.flatMap (quoteChar quote) ++ [quote]

def quotedString (s : String) : String := String.ofList (quoted s.toList)

def byteChar (b : UInt8) : Char := Char.ofNat b.toNat

def quoteByte (quote : Char) (b : UInt8) : List Char :=
  let c := byteChar b
  match escape? quote c with
  | some escaped => escaped
  | none => if 0x20 ≤ b ∧ b < 0x7F then [c] else '\\' :: 'x' :: hexDigits 2 b.toNat

def quotedBytes (bytes : Bytes) : List Char :=
  let quote := quoteFor (bytes.map byteChar)
  'b' :: quote :: bytes.flatMap (quoteByte quote) ++ [quote]

end AcmeClient.Text
