import AcmeClient.Assoc
import AcmeClient.Yaml.Resolution
import AcmeClient.Yaml.Token

/-!
The nodes of a YAML document, put together from tokens. Every node has its full tag. An alias stands
for the node that has its anchor; inside that node itself it is a node of its own kind.
-/

namespace AcmeClient.Yaml

inductive Node where
  | scalar (tag text : String)
  | sequence (tag : String) (items : List Node)
  | mapping (tag : String) (entries : List (Node × Node))
  | again (isList : Bool)
deriving Repr, Inhabited

/-- What an anchor names: a node that is complete, or a collection that is still open. -/
inductive Anchored where
  | done (node : Node)
  | open (isList : Bool)

structure Composer where
  tokens : List Token
  anchors : List (String × Anchored)

/-- Tokens that do not fit are refused, with how many were left. -/
abbrev Compose := StateT Composer (Except Nat)

namespace Compose

def refuse : Compose α := do throw (← get).tokens.length

def peek : Compose (Option Token) := return (← get).tokens.head?

def skip : Compose Unit := modify fun c => { c with tokens := c.tokens.drop 1 }

/-- Whether the next token is a given one, which is then passed over. -/
def accept (token : Token) : Compose Bool := do
  if (← peek) = some token then skip; return true
  else return false

def expect (token : Token) : Compose Unit := do
  if !(← accept token) then refuse

def atOne (tokens : List Token) : Compose Bool := do
  return ((← peek).map tokens.contains).getD false

end Compose

open Compose

abbrev Handles := List (String × String)

def standardHandles : Handles := [("!", "!"), ("!!", standardTag "")]

/-- The anchor and the tag in front of a node, in either order. -/
structure Properties where
  anchor : Option String
  tag : Option String

def fullTag (handles : Handles) (t : TagText) : Compose String := do
  match t.handle with
  | none => return t.suffix
  | some handle =>
    match Assoc.find? handle handles with
    | some replacement => return replacement ++ t.suffix
    | none => refuse

def readAnchor : Compose (Option String) := do
  match ← peek with
  | some (.anchor name) => skip; return some name
  | _ => return none

def readTag (handles : Handles) : Compose (Option String) := do
  match ← peek with
  | some (.tag t) => skip; return some (← fullTag handles t)
  | _ => return none

def readProperties (handles : Handles) : Compose Properties := do
  match ← readAnchor with
  | some name => return ⟨some name, ← readTag handles⟩
  | none =>
    let tag ← readTag handles
    let anchor ← if tag.isSome then readAnchor else pure none
    return ⟨anchor, tag⟩

/-- The tag of a scalar: its own, or the one that a plain text stands for. -/
def scalarTag (tag : Option String) (plain : Bool) (text : String) : String :=
  match tag with
  | some "!" => resolve text
  | some tag => tag
  | none => if plain then resolve text else standardTag "str"

/-- The tag of a collection: its own, or the usual one. -/
def collectionTag (tag : Option String) (usual : String) : String :=
  match tag with
  | none | some "!" => standardTag usual
  | some tag => tag

def emptyNode : Node := .scalar (standardTag "null") ""

/-- An anchor may be given once. -/
def openAnchor (anchor : Option String) (isList : Bool) : Compose Unit := do
  match anchor with
  | none => pure ()
  | some name =>
    if (Assoc.find? name (← get).anchors).isSome then refuse
    modify fun c => { c with anchors := Assoc.insert name (.open isList) c.anchors }

def closeAnchor (anchor : Option String) (node : Node) : Compose Node := do
  match anchor with
  | none => pure ()
  | some name => modify fun c => { c with anchors := Assoc.insert name (.done node) c.anchors }
  return node

def readAlias (name : String) : Compose Node := do
  match Assoc.find? name (← get).anchors with
  | some (.done node) => return node
  | some (.open isList) => return .again isList
  | none => refuse

/-- Where a node stands: in a block, as the value of a block mapping, where a sequence need not be
indented, or inside a flow collection. -/
inductive Place where
  | block
  | blockValue
  | flow
deriving DecidableEq

mutual

/-- A node, given enough steps for the tokens that are left. -/
def readNode (handles : Handles) : (steps : Nat) → Place → Compose Node
  | 0, _ => refuse
  | steps + 1, place => do
    match ← peek with
    | some (.alias name) => skip; readAlias name
    | _ =>
      let properties ← readProperties handles
      let sequenceTag := collectionTag properties.tag "seq"
      let mappingTag := collectionTag properties.tag "map"
      match ← peek with
      | some (.scalar text plain) =>
        skip
        openAnchor properties.anchor false
        closeAnchor properties.anchor (.scalar (scalarTag properties.tag plain text) text)
      | some .flowSequenceStart =>
        skip
        openAnchor properties.anchor true
        closeAnchor properties.anchor (.sequence sequenceTag (← readFlowItems handles steps true))
      | some .flowMappingStart =>
        skip
        openAnchor properties.anchor false
        closeAnchor properties.anchor (.mapping mappingTag (← readFlowEntries handles steps true))
      | next =>
        if next = some .blockEntry ∧ place = .blockValue then
          openAnchor properties.anchor true
          closeAnchor properties.anchor
            (.sequence sequenceTag (← readPlainItems handles steps))
        else if next = some .blockSequenceStart ∧ place ≠ .flow then
          skip
          openAnchor properties.anchor true
          closeAnchor properties.anchor
            (.sequence sequenceTag (← readBlockItems handles steps))
        else if next = some .blockMappingStart ∧ place ≠ .flow then
          skip
          openAnchor properties.anchor false
          closeAnchor properties.anchor
            (.mapping mappingTag (← readBlockEntries handles steps))
        else if properties.anchor.isSome || properties.tag.isSome then
          openAnchor properties.anchor false
          closeAnchor properties.anchor (.scalar (scalarTag properties.tag true "") "")
        else refuse

/-- A node, or an empty one before the tokens that may follow it. -/
def readOptional (handles : Handles) :
    (steps : Nat) → Place → (followers : List Token) → Compose Node
  | 0, _, _ => refuse
  | steps + 1, place, followers => do
    if ← atOne followers then return emptyNode else readNode handles steps place

/-- The items of an indented sequence, up to its end. -/
def readBlockItems (handles : Handles) : (steps : Nat) → Compose (List Node)
  | 0 => refuse
  | steps + 1 => do
    if ← accept .blockEntry then
      let item ← readOptional handles steps .block [.blockEntry, .blockEnd]
      return item :: (← readBlockItems handles steps)
    else
      expect .blockEnd
      return []

/-- The items of a sequence that is not indented; it ends before any other token. -/
def readPlainItems (handles : Handles) : (steps : Nat) → Compose (List Node)
  | 0 => refuse
  | steps + 1 => do
    if ← accept .blockEntry then
      let item ← readOptional handles steps .block [.blockEntry, .key, .value, .blockEnd]
      return item :: (← readPlainItems handles steps)
    else return []

/-- The entries of a block mapping, up to its end; a key may lack its value. -/
def readBlockEntries (handles : Handles) : (steps : Nat) → Compose (List (Node × Node))
  | 0 => refuse
  | steps + 1 => do
    if ← accept .key then
      let key ← readOptional handles steps .blockValue [.key, .value, .blockEnd]
      let value ←
        if ← accept .value then readOptional handles steps .blockValue [.key, .value, .blockEnd]
        else pure emptyNode
      return (key, value) :: (← readBlockEntries handles steps)
    else
      expect .blockEnd
      return []

/-- The items of a flow sequence, up to its end; a single entry may stand for a mapping. -/
def readFlowItems (handles : Handles) : (steps : Nat) → (first : Bool) → Compose (List Node)
  | 0, _ => refuse
  | steps + 1, first => do
    if ← accept .flowSequenceEnd then return []
    if !first then expect .flowEntry
    if ← accept .key then
      let key ← readOptional handles steps .flow [.value, .flowEntry, .flowSequenceEnd]
      let value ←
        if ← accept .value then readOptional handles steps .flow [.flowEntry, .flowSequenceEnd]
        else pure emptyNode
      let item := Node.mapping (standardTag "map") [(key, value)]
      return item :: (← readFlowItems handles steps false)
    else if ← accept .flowSequenceEnd then return []
    else
      let item ← readNode handles steps .flow
      return item :: (← readFlowItems handles steps false)

/-- The entries of a flow mapping, up to its end; a key alone has an empty value. -/
def readFlowEntries (handles : Handles) :
    (steps : Nat) → (first : Bool) → Compose (List (Node × Node))
  | 0, _ => refuse
  | steps + 1, first => do
    if ← accept .flowMappingEnd then return []
    if !first then expect .flowEntry
    if ← accept .key then
      let key ← readOptional handles steps .flow [.value, .flowEntry, .flowMappingEnd]
      let value ←
        if ← accept .value then readOptional handles steps .flow [.flowEntry, .flowMappingEnd]
        else pure emptyNode
      return (key, value) :: (← readFlowEntries handles steps false)
    else if ← accept .flowMappingEnd then return []
    else
      let key ← readNode handles steps .flow
      return (key, emptyNode) :: (← readFlowEntries handles steps false)

end

/-- The directives before a document: at most one version, which must be 1, and no tag handle
twice. -/
def readDirectives : (steps : Nat) → (versioned : Bool) → Handles → Compose Handles
  | 0, _, handles => return handles
  | steps + 1, versioned, handles => do
    match ← peek with
    | some (.directive (.version major _)) =>
      skip
      if versioned ∨ major ≠ 1 then refuse
      readDirectives steps true handles
    | some (.directive (.tag handle replacement)) =>
      skip
      if (Assoc.find? handle handles).isSome then refuse
      readDirectives steps versioned (Assoc.insert handle replacement handles)
    | some (.directive .other) => skip; readDirectives steps versioned handles
    | _ => return handles

def skipEnds : (steps : Nat) → Compose Unit
  | 0 => return
  | steps + 1 => do
    if ← accept .documentEnd then skipEnds steps

def isDirective : Token → Bool
  | .directive _ => true
  | _ => false

/-- The one document of a text, or nothing in a text without any. -/
def readDocument (steps : Nat) : Compose (Option Node) := do
  match ← peek with
  | none => return none
  | some first =>
    let node ←
      if first = .documentStart || isDirective first then do
        let own ← readDirectives steps false []
        expect .documentStart
        let handles := standardHandles.foldl
          (fun handles entry => Assoc.insertNew entry.1 entry.2 handles) own
        match ← peek with
        | none | some .documentStart | some .documentEnd | some (.directive _) => pure emptyNode
        | _ => readNode handles steps .block
      else readNode standardHandles steps .block
    skipEnds steps
    if (← get).tokens.isEmpty then return some node else refuse

/-- The document that tokens make up, or how many tokens were left where they make up none. -/
def Node.ofTokens (tokens : List Token) : Except Nat (Option Node) :=
  ((readDocument (3 * tokens.length + 3)).run ⟨tokens, []⟩).map Prod.fst

end AcmeClient.Yaml
