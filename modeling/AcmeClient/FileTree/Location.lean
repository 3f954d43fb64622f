namespace AcmeClient

abbrev Path := List String

/-- A written path: the slashes that it starts with, and its names. -/
structure Location where
  root : String
  parts : List String
deriving DecidableEq, Repr, Inhabited

namespace Location

def split : List Char → List (List Char)
  | [] => [[]]
  | '/' :: rest => [] :: split rest
  | c :: rest =>
    match split rest with
    | [] => [[c]]
    | first :: others => (c :: first) :: others

/-- Exactly two slashes at the start stand for themselves, any other number for one. -/
def rootOf : List Char → String
  | '/' :: '/' :: '/' :: _ => "/"
  | '/' :: '/' :: _ => "//"
  | '/' :: _ => "/"
  | _ => ""

/-- Empty names and single dots lead nowhere. -/
def ofString (s : String) : Location where
  root := rootOf s.toList
  parts := ((split s.toList).filter fun name => name != [] && name != ['.']).map String.ofList

def toString (l : Location) : String :=
  if l.root = "" ∧ l.parts = [] then "." else l.root ++ "/".intercalate l.parts

def child (l : Location) (name : String) : Location := { l with parts := l.parts ++ [name] }

/-- One name further on; two dots lead back. -/
def follow (path : Path) (name : String) : Path :=
  if name = ".." then path.dropLast else path ++ [name]

/-- The places that names lead through, one for each name. -/
def wayFrom (path : Path) : List String → List Path
  | [] => []
  | name :: rest => follow path name :: wayFrom (follow path name) rest

/-- The places on the way to a location, which is the last of them. -/
def way (l : Location) : List Path := wayFrom [] l.parts

/-- Where a location leads. Names count from the root, whatever slashes stand before them. -/
def path (l : Location) : Path := l.parts.foldl follow []

def hasNull (l : Location) : Bool := l.parts.any fun name => name.toList.contains '\x00'

end Location

end AcmeClient
