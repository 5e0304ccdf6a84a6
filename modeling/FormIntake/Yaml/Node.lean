import FormIntake.Yaml.Lexer

/-! # From tokens to nodes

A document is one node with others inside.  A node may have a tag that says what it stands for and
an anchor under which it can be put in further places; a place inside the node itself is a
`Node.loop`.  Tokens are read in order and each fault is found at its token, so a fault of the
nesting comes before one of a later token.
-/

namespace FormIntake.Yaml

inductive Node where
  /-- A text; without quotes and tag it may stand for something else. -/
  | scalar (tag : Option String) (text : String) (isPlain : Bool)
  | sequence (tag : Option String) (items : List Node)
  | mapping (tag : Option String) (entries : List (Node × Node))
  /-- A node that is around this place. -/
  | loop
  deriving Repr, Inhabited

/-- A node that is not written. -/
def Node.absent : Node := .scalar none "" true

/-- What is being read: the tokens left, the anchors so far with their nodes, as far as these are
complete, and what the handles of tags stand for. -/
structure Reading where
  tokens : List Token
  fault : Option Failure
  anchors : List (String × Option Node) := []
  handles : List (String × String) := []

abbrev Read (α : Type) := StateT Reading (Except Failure) α

/-- Tokens that do not fit together. -/
def misplacedToken : Failure := .unreadableDocument .grammar

/-- A misused anchor, or more than one document. -/
def misusedAnchor : Failure := .unreadableDocument .anchors

namespace Read

/-- The next token. -/
def peek : Read Token := do
  let r ← get
  match r.tokens with
  | t :: _ => return t
  | [] => throw (r.fault.getD misplacedToken)

def drop : Read Unit := modify fun r => { r with tokens := r.tokens.drop 1 }

/-- Pass over a token if it comes next, and tell whether it did. -/
def takeIf (token : Token) : Read Bool := do
  if (← peek) = token then
    drop
    return true
  else return false

/-- Pass over a token that has to come next. -/
def take (token : Token) : Read Unit := do
  if !(← takeIf token) then throw misplacedToken

/-! ### Anchors and tags -/

def takeAnchor : Read (Option String) := do
  match ← peek with
  | .anchor name =>
    drop
    return some name
  | _ => return none

/-- A tag with its handle replaced by what it stands for; not yet for an unknown handle. -/
def takeTag : Read (Option (Option String × String)) := do
  match ← peek with
  | .tag handle name =>
    drop
    return some (handle, name)
  | _ => return none

def resolveTag : Option (Option String × String) → Read (Option String)
  | none => return none
  | some (none, name) => return some name
  | some (some handle, name) => do
    match (← get).handles.lookup handle with
    | some meaning => return some (meaning ++ name)
    | none => throw misplacedToken

/-- The anchor and the tag of a node, in either order. -/
def properties : Read (Option String × Option String) := do
  match ← takeAnchor with
  | some name => return (some name, ← resolveTag (← takeTag))
  | none =>
    match ← takeTag with
    | some tag => do
      let anchor ← takeAnchor
      return (anchor, ← resolveTag (some tag))
    | none => return (none, none)

/-- Take a name for the node that starts here. -/
def openAnchor : Option String → Read Unit
  | none => return
  | some name => do
    if ((← get).anchors.lookup name).isSome then throw misusedAnchor
    modify fun r => { r with anchors := (name, none) :: r.anchors }

/-- The node that has been read, known under its name from now on. -/
def closeAnchor (name : Option String) (node : Node) : Read Node := do
  if let some name := name then
    modify fun r => { r with anchors := Assoc.put name (some node) r.anchors }
  return node

/-- The node that an anchor names. -/
def lookUp (name : String) : Read Node := do
  match (← get).anchors.lookup name with
  | some (some node) => return node
  | some none => return .loop
  | none => throw misusedAnchor

/-! ### Nodes -/

/-- Where a node stands: between brackets, in a block, or in a mapping of a block, where a sequence
needs no deeper indentation. -/
inductive Place where
  | flow
  | block
  | entry
  deriving DecidableEq, Repr

/-- The tag of a collection; an exclamation mark alone says nothing. -/
def collectionTag (tag : Option String) : Option String := if tag = some "!" then none else tag

mutual

/-- A node. -/
def node : (fuel : Nat) → Place → Read Node
  | 0, _ => throw misplacedToken
  | fuel + 1, place => do
    if let .reference name := ← peek then
      drop
      return ← lookUp name
    let (anchor, tag) ← properties
    let collection (mark : Option Token) (read : Read Node) : Read Node := do
      openAnchor anchor
      if mark.isSome then drop
      closeAnchor anchor (← read)
    let sequence (read : Read (List Node)) : Read Node :=
      return .sequence (collectionTag tag) (← read)
    let mapping (read : Read (List (Node × Node))) : Read Node :=
      return .mapping (collectionTag tag) (← read)
    let text (text : String) (isPlain : Bool) : Read Node := do
      openAnchor anchor
      closeAnchor anchor (.scalar (collectionTag tag) text ((isPlain && tag.isNone) || tag = some "!"))
    let token ← peek
    match token with
    | .scalar s isPlain =>
      drop
      text s isPlain
    | .flowSequence => collection token (sequence (flowItems fuel true))
    | .flowMapping => collection token (mapping (flowEntries fuel true))
    | _ =>
      if token = .item && place = .entry then collection none (sequence (looseItems fuel))
      else if token = .blockSequence && place ≠ .flow then
        collection token (sequence (blockItems fuel))
      else if token = .blockMapping && place ≠ .flow then
        collection token (mapping (blockEntries fuel))
      else if anchor.isSome || tag.isSome then text "" true
      else throw misplacedToken

/-- A node, or nothing in front of some tokens. -/
def nodeUnless : (fuel : Nat) → Place → (ends : List Token) → Read Node
  | 0, _, _ => throw misplacedToken
  | fuel + 1, place, ends => do
    if ends.contains (← peek) then return .absent
    node fuel place

/-- The items of a sequence in a block, up to its end. -/
def blockItems : (fuel : Nat) → Read (List Node)
  | 0 => throw misplacedToken
  | fuel + 1 => do
    if ← takeIf .item then
      let first ← nodeUnless fuel .block [.item, .blockEnd]
      return first :: (← blockItems fuel)
    take .blockEnd
    return []

/-- The items of a sequence that is not indented, up to what is none. -/
def looseItems : (fuel : Nat) → Read (List Node)
  | 0 => throw misplacedToken
  | fuel + 1 => do
    if ← takeIf .item then
      let first ← nodeUnless fuel .block [.item, .key, .value, .blockEnd]
      return first :: (← looseItems fuel)
    return []

/-- The entries of a mapping in a block, up to its end. -/
def blockEntries : (fuel : Nat) → Read (List (Node × Node))
  | 0 => throw misplacedToken
  | fuel + 1 => do
    if (← peek) = .key then
      drop
      let key ← nodeUnless fuel .entry [.key, .value, .blockEnd]
      let value ← blockValue fuel
      return (key, value) :: (← blockEntries fuel)
    take .blockEnd
    return []

/-- The value of an entry in a block. -/
def blockValue : (fuel : Nat) → Read Node
  | 0 => throw misplacedToken
  | fuel + 1 => do
    if ← takeIf .value then nodeUnless fuel .entry [.key, .value, .blockEnd]
    else return .absent

/-- The items between brackets, up to the closing one. -/
def flowItems : (fuel : Nat) → (isFirst : Bool) → Read (List Node)
  | 0, _ => throw misplacedToken
  | fuel + 1, isFirst => do
    if ← takeIf .flowSequenceEnd then return []
    if !isFirst then take .comma
    let token ← peek
    if token = .flowSequenceEnd then
      drop
      return []
    let first ←
      if token = .key then do
        drop
        let key ← nodeUnless fuel .flow [.value, .comma, .flowSequenceEnd]
        let value ← flowValue fuel .flowSequenceEnd
        pure (Node.mapping none [(key, value)])
      else node fuel .flow
    return first :: (← flowItems fuel false)

/-- The entries between braces, up to the closing one; a value need not be written. -/
def flowEntries : (fuel : Nat) → (isFirst : Bool) → Read (List (Node × Node))
  | 0, _ => throw misplacedToken
  | fuel + 1, isFirst => do
    if ← takeIf .flowMappingEnd then return []
    if !isFirst then take .comma
    let token ← peek
    if token = .flowMappingEnd then
      drop
      return []
    let first ←
      if token = .key then do
        drop
        let key ← nodeUnless fuel .flow [.value, .comma, .flowMappingEnd]
        pure (key, ← flowValue fuel .flowMappingEnd)
      else pure (← node fuel .flow, .absent)
    return first :: (← flowEntries fuel false)

/-- The value of an entry between brackets that a token closes. -/
def flowValue : (fuel : Nat) → (closing : Token) → Read Node
  | 0, _ => throw misplacedToken
  | fuel + 1, closing => do
    if ← takeIf .value then nodeUnless fuel .flow [.comma, closing]
    else return .absent

end

/-! ### Documents -/

/-- What handles stand for unless a directive says otherwise. -/
def knownHandles : List (String × String) := [("!", "!"), ("!!", "tag:yaml.org,2002:")]

/-- The directives in front of a document, each given once and the version one that is known. -/
def directives : (fuel : Nat) → (versioned : Bool) → Read Unit
  | 0, _ => throw misplacedToken
  | fuel + 1, versioned => do
    match ← peek with
    | .versionDirective major =>
      if versioned || major ≠ 1 then throw misplacedToken
      drop
      directives fuel true
    | .handleDirective handle meaning =>
      if ((← get).handles.lookup handle).isSome then throw misplacedToken
      modify fun r => { r with handles := (handle, meaning) :: r.handles }
      drop
      directives fuel versioned
    | .otherDirective =>
      drop
      directives fuel versioned
    | _ => modify fun r => { r with handles := r.handles ++ knownHandles }

def isDirective : Token → Bool
  | .versionDirective _ | .handleDirective .. | .otherDirective => true
  | _ => false

/-- The marks of the end of a document. -/
def documentEnds : (fuel : Nat) → Read Unit
  | 0 => throw misplacedToken
  | fuel + 1 => do
    if ← takeIf .documentEnd then documentEnds fuel

/-- The content of a document after its mark. -/
def content (fuel : Nat) : Read Node := do
  let token ← peek
  if isDirective token || [.documentStart, .documentEnd, .streamEnd].contains token then
    return .absent
  else node fuel .block

/-- The one document of a stream, if there is any. -/
def document (fuel : Nat) : Read (Option Node) := do
  let token ← peek
  let marked := isDirective token || token = .documentStart
  if token = .streamEnd then return none
  let root ←
    if marked then do
      directives fuel false
      take .documentStart
      content fuel
    else do
      modify fun r => { r with handles := knownHandles }
      node fuel .block
  documentEnds fuel
  if (← peek) = .streamEnd then return some root
  modify fun r => { r with handles := [] }
  directives fuel false
  take .documentStart
  throw misusedAnchor

end Read

/-- The document that a text holds, if it holds one. -/
def Node.ofText (text : List Char) : Except Failure (Option Node) :=
  let found := tokens text
  let fuel := 4 * found.list.length + 8
  (Read.document fuel |>.run ⟨found.list, found.fault, [], []⟩).map Prod.fst

end FormIntake.Yaml
