/-! The tokens of a YAML text.

The structure that indentation gives to a text is made visible by tokens of its own: collections
in block style are enclosed by a start and an end. -/
namespace PodNetwork.Yaml

/-- The end of a text is the end of its tokens. -/
inductive Token where
  | version (major minor : Nat)
  | tagShorthand (handle expansion : List Char)
  | documentStart
  | documentEnd
  | blockSequenceStart
  | blockMappingStart
  | blockEnd
  | flowSequenceStart
  | flowSequenceEnd
  | flowMappingStart
  | flowMappingEnd
  | blockEntry
  | flowEntry
  | key
  | value
  | reference (name : List Char)
  | anchor (name : List Char)
  | tag (handle suffix : List Char)
  /-- Only a plain scalar may stand for anything but a text. -/
  | scalar (plain : Bool) (text : List Char)
  deriving DecidableEq, Repr, Inhabited

end PodNetwork.Yaml
