/-! # Tokens of a document

The marks and the texts that a document consists of.  Nesting by indentation has marks of its own:
`blockSequence` and `blockMapping` open a level that `blockEnd` closes, and `key` stands before a
key whether or not the document writes a question mark.
-/

namespace FormIntake.Yaml

inductive Token where
  | versionDirective (major : Nat)
  | handleDirective (handle meaning : String)
  | otherDirective
  | documentStart
  | documentEnd
  | streamEnd
  | blockSequence
  | blockMapping
  | blockEnd
  | flowSequence
  | flowSequenceEnd
  | flowMapping
  | flowMappingEnd
  | item
  | comma
  | key
  | value
  | anchor (name : String)
  /-- A second place for what an anchor names. -/
  | reference (name : String)
  | tag (handle : Option String) (suffix : String)
  /-- A text; without quotes it may stand for something else. -/
  | scalar (text : String) (isPlain : Bool)
  deriving DecidableEq, Repr

end FormIntake.Yaml
