/-!
# The tokens of YAML

What a YAML text is made of, layout included: blocks are opened and closed by tokens of their own, as
flow collections are by their brackets.
-/

namespace Rollout.Yaml

/-- How a scalar is written. -/
inductive ScalarStyle where
  | plain
  | singleQuoted
  | doubleQuoted
  | literal
  | folded
  deriving Repr, DecidableEq

inductive Token where
  | version (major minor : Nat)
  | tagDirective (handle meaning : List Char)
  | documentStart
  | documentEnd
  | blockSequenceStart
  | blockMappingStart
  | blockEnd
  | flowSequenceStart
  | flowSequenceEnd
  | flowMappingStart
  | flowMappingEnd
  | blockEntry
  | flowEntry
  | key
  | value
  | alias (name : List Char)
  | anchor (name : List Char)
  | tag (handle suffix : List Char)
  | scalar (text : List Char) (style : ScalarStyle)
  | streamEnd
  deriving Repr, DecidableEq

end Rollout.Yaml
