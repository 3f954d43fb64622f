import AcmeClient.Base64
import AcmeClient.Text.Space
import AcmeClient.Text.Utf8

namespace AcmeClient.Pem

structure Block where
  label : List Char
  headers : List (List Char × List Char)
  content : Bytes
deriving DecidableEq, Repr

def lines : (steps : Nat) → List Char → List Char
  | _, [] => []
  | 0, _ :: _ => []
  | steps + 1, text => text.take 64 ++ '\n' :: lines steps (text.drop 64)

def encode (label : List Char) (content : Bytes) : List Char :=
  let text := Base64.encodeStandard content
  "-----BEGIN ".toList ++ label ++ "-----\n".toList ++ lines text.length text
    ++ "-----END ".toList ++ label ++ "-----\n".toList

def splitAt? (mark : Bytes) : Bytes → Option (Bytes × Bytes)
  | [] => if mark.isEmpty then some ([], []) else none
  | b :: rest =>
    if mark.isPrefixOf (b :: rest) then some ([], (b :: rest).drop mark.length)
    else (splitAt? mark rest).map fun (before, after) => (b :: before, after)

def isBlank (b : UInt8) : Bool := b == 0x20 || b == 0x09 || b == 0x0A || b == 0x0D

/-- A block as it stands in the text: the labels of its two ends and what is between them. -/
structure Frame where
  opening : Bytes
  body : Bytes
  closing : Bytes

def Frame.read? (bytes : Bytes) : Option (Frame × Bytes) := do
  let (_, rest) ← splitAt? (Text.bytesOf "-----BEGIN ") bytes
  let (opening, rest) ← splitAt? (Text.bytesOf "-----") rest
  let (body, rest) ← splitAt? (Text.bytesOf "-----END ") (rest.dropWhile isBlank)
  let (closing, rest) ← splitAt? (Text.bytesOf "-----") rest
  return (⟨opening, body, closing⟩, rest)

/-- All blocks, given at least as many steps as there are bytes. -/
def Frame.readAll : (steps : Nat) → Bytes → List Frame
  | 0, _ => []
  | steps + 1, bytes =>
    match read? bytes with
    | none => []
    | some (frame, rest) => frame :: readAll steps rest

/-- The lines of a text; a carriage return before a line feed belongs to the line's end. -/
def splitLines (text : List Char) : List (List Char) :=
  go [] text
where
  /-- Continues a line whose characters so far are given last one first. -/
  go (line : List Char) : List Char → List (List Char)
    | [] => if line.isEmpty then [] else [line.reverse]
    | '\n' :: rest =>
      (match line with
        | '\r' :: before => before.reverse
        | _ => line.reverse) :: go [] rest
    | c :: rest => go (c :: line) rest

/-- A header per line, except that a line which starts with white space continues the one before. -/
def readHeaders? (lines : List (List Char)) : Option (List (List Char × List Char)) :=
  let unfolded := lines.foldl (fun kept line =>
    match kept, line with
    | before :: others, c :: _ =>
      if Text.isWhiteSpace c then (before ++ ' ' :: Text.trim Text.isWhiteSpace line) :: others else line :: kept
    | _, _ => line :: kept) []
  unfolded.reverse.mapM fun line =>
    if line.contains ':' then
      some (Text.trim Text.isWhiteSpace (line.takeWhile (· != ':')),
        Text.trim Text.isWhiteSpace ((line.dropWhile (· != ':')).drop 1))
    else none

/-- Headers, if any, end with an empty line. -/
def splitHeaders (body : Bytes) : Bytes × Bytes :=
  match splitAt? (Text.bytesOf "\n\n") body with
  | some parts => parts
  | none => (splitAt? (Text.bytesOf "\r\n\r\n") body).getD ([], body)

def Frame.block? (frame : Frame) : Option Block := do
  let decode (bytes : Bytes) : Option (List Char) := (Text.Utf8.decode bytes).toOption
  let label ← decode frame.opening
  guard (!label.isEmpty ∧ frame.closing = frame.opening)
  let (headers, data) := splitHeaders frame.body
  let headers ← readHeaders? (splitLines (← decode headers))
  let lines := (splitLines (← decode data)).map (Text.trimEnd Text.isWhiteSpace)
  let content ← Base64.decodeStandard? lines.flatten
  return ⟨label, headers, content⟩

/-- Every block of a byte string, if each of them is sound. -/
def blocks? (bytes : Bytes) : Option (List Block) :=
  (Frame.readAll bytes.length bytes).mapM Frame.block?

end AcmeClient.Pem
