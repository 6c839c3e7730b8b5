import TaskRunner.Yaml.Scalar
/- # TaskRunner.Yaml.Token -- the tokens of a YAML text

Indentation shows in the tokens: `blockSequenceStart` and `blockMappingStart` stand where a block
collection begins, and one `blockEnd` stands where it ends.  Inside a collection `blockEntry`,
`flowEntry`, `key` and `value` stand before its parts. -/

namespace TaskRunner.Yaml
set_option autoImplicit false

/-- A token of a YAML text. -/
inductive Token where
  | versionDirective (major minor : Nat)
  | tagDirective (handle start : String)
  | documentStart
  | documentEnd
  | blockSequenceStart
  | blockMappingStart
  | blockEnd
  | flowSequenceStart
  | flowSequenceEnd
  | flowMappingStart
  | flowMappingEnd
  | blockEntry
  | flowEntry
  | key
  | value
  | alias (name : String)
  | anchor (name : String)
  /-- A tag whose handle is still to be looked up; the empty handle stands for nothing. -/
  | tag (handle suffix : String)
  | scalar (style : Style) (text : String)
  deriving DecidableEq, Repr, Inhabited

end TaskRunner.Yaml
