import FormIntake.Yaml.Node
import FormIntake.Yaml.Resolution
import FormIntake.Text.Printable

/-! # Documents as values

`readDocument` takes a text to the value that its one document stands for.  A mapping that names others
under its merge key takes their entries in, before its own; a repeated key keeps its first place and
takes its last value in the first edition and is a fault in the second.

A document may contain itself.  This is found out last, when its parts are gone through
(`Document.endless`).
-/

namespace FormIntake.Yaml

/-- A node that stands for nothing that is known. -/
def unknownValue : Failure := .unreadableDocument .values

/-- What the tags of the language say about a text. -/
def taggedKinds : List (String × Kind) :=
  [("tag:yaml.org,2002:null", .null), ("tag:yaml.org,2002:bool", .bool),
    ("tag:yaml.org,2002:int", .int), ("tag:yaml.org,2002:float", .float),
    ("tag:yaml.org,2002:str", .text), ("tag:yaml.org,2002:timestamp", .time),
    ("tag:yaml.org,2002:merge", .merge), ("tag:yaml.org,2002:value", .ownValue)]

/-- The kind of a text with or without a tag. -/
def kindOfScalar (e : Edition) (tag : Option String) (text : String) (isPlain : Bool) :
    Except Failure Kind :=
  match tag with
  | some name =>
    match taggedKinds.lookup name with
    | some kind => .ok kind
    | none => .error unknownValue
  | none => .ok (if isPlain then kindOf e text else .text)

/-- The value of a text as a key: the sign for a mapping's own value stands for itself. -/
def keyScalar (e : Edition) (text : String) : Kind → Except Failure Scalar
  | .ownValue => .ok (.text text)
  | kind => scalarOf e text kind

/-- Whether a node is the key under which a mapping takes in others. -/
def Node.isMerge (e : Edition) : Node → Bool
  | .scalar none text isPlain => isPlain && kindOf e text = .merge
  | .scalar (some tag) _ _ => tag = "tag:yaml.org,2002:merge"
  | _ => false

/-- The value of a node as a key. -/
def Node.toKey (e : Edition) : Node → Except Failure Scalar
  | .scalar tag text isPlain => do keyScalar e text (← kindOfScalar e tag text isPlain)
  | _ => .error unknownValue

/-- A sequence of entries, as lists of two. -/
def entryLists : List Value → Except Failure (List Value)
  | [] => .ok []
  | .mapping [(key, value)] :: rest => (entryLists rest).map (.list [.scalar key, value] :: ·)
  | _ => .error unknownValue

/-- The value of a sequence with a tag. -/
def sequenceOf (tag : Option String) (items : List Value) : Except Failure Value :=
  match tag with
  | none | some "tag:yaml.org,2002:seq" => .ok (.list items)
  | some "tag:yaml.org,2002:omap" | some "tag:yaml.org,2002:pairs" => (entryLists items).map .list
  | some _ => .error unknownValue

/-- The value of a mapping with a tag; a set is a mapping of its members to nothing. -/
def mappingOf (tag : Option String) (entries : List (Scalar × Value)) : Except Failure Value :=
  match tag with
  | none | some "tag:yaml.org,2002:map" => .ok (.ofEntries entries)
  | some "tag:yaml.org,2002:set" => .ok (.list ((Assoc.ofList entries).map fun e => .scalar e.1))
  | some _ => .error unknownValue

/-- Whether some key comes twice. -/
def repeatsKey : List (Scalar × Value) → Bool
  | [] => false
  | (key, _) :: rest => rest.any (fun e => e.1 = key) || repeatsKey rest

namespace Node

mutual

/-- The value that a node stands for. -/
def toValue (e : Edition) : Node → Except Failure Value
  | .scalar tag text isPlain => do
    return .scalar (← scalarOf e text (← kindOfScalar e tag text isPlain))
  | .sequence tag items => do sequenceOf tag (← itemValues e items)
  | .mapping tag entries => do
    let (merged, own) ← entryValues e entries
    if e = .two && repeatsKey own then throw .repeatedKey
    mappingOf tag (merged ++ own)
  | .loop => .ok .null

def itemValues (e : Edition) : List Node → Except Failure (List Value)
  | [] => .ok []
  | item :: rest => do return (← item.toValue e) :: (← itemValues e rest)

/-- The entries that a mapping takes in, and its own. -/
def entryValues (e : Edition) :
    List (Node × Node) → Except Failure (List (Scalar × Value) × List (Scalar × Value))
  | [] => .ok ([], [])
  | (key, value) :: rest =>
    if key.isMerge e then do
      let taken ← value.mergedEntries e
      let (merged, own) ← entryValues e rest
      return (taken ++ merged, own)
    else do
      let entry := (← key.toKey e, ← value.toValue e)
      let (merged, own) ← entryValues e rest
      return (merged, entry :: own)

/-- The entries of a mapping, or of several of which the first one counts most. -/
def mergedEntries (e : Edition) : Node → Except Failure (List (Scalar × Value))
  | .mapping _ entries => do
    let (merged, own) ← entryValues e entries
    return merged ++ own
  | .sequence _ items => mergedItems e items
  | .loop => .error .endlessDocument
  | .scalar .. => .error unknownValue

def mergedItems (e : Edition) : List Node → Except Failure (List (Scalar × Value))
  | [] => .ok []
  | .mapping _ entries :: rest => do
    let (merged, own) ← entryValues e entries
    return (← mergedItems e rest) ++ merged ++ own
  | _ :: _ => .error unknownValue

end

mutual

/-- Whether going through the values in a node comes to no end. -/
def isEndless : Node → Bool
  | .scalar .. => false
  | .sequence _ items => anyEndless items
  | .mapping _ entries => anyValueEndless entries
  | .loop => true

def anyEndless : List Node → Bool
  | [] => false
  | item :: rest => item.isEndless || anyEndless rest

def anyValueEndless : List (Node × Node) → Bool
  | [] => false
  | (_, value) :: rest => value.isEndless || anyValueEndless rest

end

end Node

/-- What a text stands for; in an endless document, nothing stands for what it is part of. -/
structure Document where
  value : Value
  endless : Bool := false

/-- Whether a character may stand in a document. -/
def isAllowed (c : Char) : Bool :=
  c = '\t' || c = '\n' || c = '\r' || c = '\x85' || (' ' ≤ c && c ≤ '~') ||
    ('\xa0' ≤ c && c ≤ '\ufffd') || 0x10000 ≤ c.toNat

/-- The text with a line feed for each of the ways to end a line. -/
def unifyBreaks : List Char → List Char
  | '\r' :: '\n' :: rest => '\n' :: unifyBreaks rest
  | '\r' :: rest => '\n' :: unifyBreaks rest
  | c :: rest => c :: unifyBreaks rest
  | [] => []

/-- The document that a text holds; nothing for a text without one. -/
def readDocument (e : Edition) (text : String) : Except Failure Document := do
  let text := unifyBreaks text.toList
  if !text.all isAllowed then throw (.unreadableDocument .characters)
  match ← Node.ofText text with
  | some root => return ⟨← root.toValue e, root.isEndless⟩
  | none => return { value := .null }

/-- The value of a document without what contains itself. -/
def Document.finite (document : Document) : Except Failure Value :=
  if document.endless then .error .endlessDocument else .ok document.value

/-- The value of the document that a text holds. -/
def read (e : Edition) (text : String) : Except Failure Value := do
  (← readDocument e text).finite

end FormIntake.Yaml
