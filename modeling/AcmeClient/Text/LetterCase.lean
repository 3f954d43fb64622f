import AcmeClient.Text.CaseTable
import AcmeClient.Text.Printable

/-!
Capital and small forms of text. A capital sigma that ends a word becomes the small letter's final
form; every other character is mapped on its own.
-/

namespace AcmeClient.Text

namespace CaseTable

def Run.image? (n : Nat) : Run → Option Nat
  | (first, last, step, image) =>
    if first ≤ n ∧ n ≤ last ∧ (n - first) % step = 0 then some (image + (n - first)) else none

def lookUp (runs : List Run) (expansions : List (Nat × List Nat)) (c : Char) : List Char :=
  match expansions.find? fun expansion => expansion.1 == c.toNat with
  | some (_, image) => image.map Char.ofNat
  | none =>
    match runs.findSome? (Run.image? c.toNat) with
    | some image => [Char.ofNat image]
    | none => [c]

end CaseTable

def upperChar (c : Char) : List Char :=
  if c.toNat < 0x80 then [c.toUpper]
  else CaseTable.lookUp CaseTable.upperRuns CaseTable.upperExpansions c

def lowerChar (c : Char) : List Char :=
  if c.toNat < 0x80 then [c.toLower]
  else CaseTable.lookUp CaseTable.lowerRuns CaseTable.lowerExpansions c

def upper (text : List Char) : List Char := text.flatMap upperChar

def meetsLetter (text : List Char) : Bool :=
  match text.dropWhile (inRanges CaseTable.ignorable) with
  | c :: _ => inRanges CaseTable.cased c
  | [] => false

def capitalSigma : Char := Char.ofNat 0x3A3

/-- The small form of text that stands after `before`, whose last character comes first. -/
def lowerAfter (before : List Char) : List Char → List Char
  | [] => []
  | c :: rest =>
    let small :=
      if c = capitalSigma then
        [Char.ofNat (if meetsLetter before && !meetsLetter rest then 0x3C2 else 0x3C3)]
      else lowerChar c
    small ++ lowerAfter (c :: before) rest

def lower (text : List Char) : List Char := lowerAfter [] text

def lowerString (s : String) : String := String.ofList (lower s.toList)

def upperString (s : String) : String := String.ofList (upper s.toList)

end AcmeClient.Text
