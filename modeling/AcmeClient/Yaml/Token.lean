/-!
The tokens of a YAML text. Indentation has become tokens that open and close block collections.
-/

namespace AcmeClient.Yaml

/-- A tag as it is written: the handle that is replaced, if there is one, and the rest. -/
structure TagText where
  handle : Option String
  suffix : String
deriving DecidableEq, Repr

inductive Directive where
  | version (major minor : Nat)
  | tag (handle replacement : String)
  | other
deriving DecidableEq, Repr

inductive Token where
  | directive (d : Directive)
  | documentStart
  | documentEnd
  | blockSequenceStart
  | blockMappingStart
  | blockEnd
  | flowSequenceStart
  | flowSequenceEnd
  | flowMappingStart
  | flowMappingEnd
  | blockEntry
  | flowEntry
  | key
  | value
  | alias (name : String)
  | anchor (name : String)
  | tag (t : TagText)
  | scalar (text : String) (plain : Bool)
deriving DecidableEq, Repr

inductive LexFault where
  | malformed (reason : String)
  | codeTooLarge (code : Nat)
  | longInteger (digitCount : Nat)
deriving DecidableEq, Repr

end AcmeClient.Yaml
