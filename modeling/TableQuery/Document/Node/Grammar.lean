/-
TableQuery/Document/Node/Grammar.lean

From tokens to nodes.

A file holds one document or none.  Nodes may carry an anchor, under which an
alias further on stands for the same node; inside the anchored node itself the
alias stands for the collection around it (`Node.enclosing`).  An anchor is
given once.

Design.  The grammar acts on the tokens that are left (`GrammarState`).  Its
rules call each other, and count down a budget that is larger than the number
of calls that so many tokens allow.  A rule looks at a token before it uses it
up, so the token `broken` is met exactly when a rule needs to know what comes
there.
-/
import TableQuery.Document.Node
import TableQuery.Document.Token
import TableQuery.Named

namespace TableQuery.Document

/-- The state of the grammar. -/
structure GrammarState where
  tokens : List Token
  /-- The nodes by anchor. -/
  anchors : List (String × Node) := []
  /-- What handles stand for in tags. -/
  handles : List (String × String) := []

/-- An action on the tokens that are left. -/
abbrev Grammar := StateT GrammarState (Except DocumentError)

namespace Grammar

/-! ### Tokens -/

/-- The next token. -/
def peek : Grammar Token := do
  match (← get).tokens with
  | [] => throw .malformed
  | .broken e :: _ => throw e
  | t :: _ => return t

/-- Uses up the next token. -/
def skip : Grammar Unit := modify fun s => { s with tokens := s.tokens.tail }

/-- Whether the next token is one of these. -/
def comes (tokens : List Token) : Grammar Bool := return tokens.contains (← peek)

/-- Uses up the next token, which must be this one. -/
def expect (t : Token) : Grammar Unit := do
  if ← comes [t] then skip else throw .malformed

/-! ### Anchors and tags -/

/-- Declares an anchor, which must be new. -/
def declare (anchor? : Option String) (node : Node) : Grammar Unit := do
  match anchor? with
  | none => return
  | some name =>
    let s ← get
    if (getNamed? name s.anchors).isSome then throw .malformed
    else set { s with anchors := setNamed name node s.anchors }

/-- A collection with its anchor, which stands for the collection as it is
enclosing until the collection is complete. -/
def enclose (anchor? : Option String) (isMapping : Bool) (collection : Grammar Node) :
    Grammar Node := do
  declare anchor? (.enclosing (anchor?.getD "") isMapping)
  let node ← collection
  match anchor? with
  | none => return node
  | some name =>
    modify fun s => { s with anchors := setNamed name node s.anchors }
    return node

/-- The node with an anchor. -/
def aliased (name : String) : Grammar Node := do
  match getNamed? name (← get).anchors with
  | some node => return node
  | none => throw .malformed

/-- The anchor that comes next, if one does. -/
def anchor? : Grammar (Option String) := do
  match ← peek with
  | .anchor name => skip; return some name
  | _ => return none

/-- The handle and the text of the tag that comes next, if one does. -/
def tagParts? : Grammar (Option (Option String × String)) := do
  match ← peek with
  | .tag handle text => skip; return some (handle, text)
  | _ => return none

/-- The full name of a tag. -/
def fullTag : Option String × String → Grammar String
  | (none, text) => return text
  | (some handle, text) => do
    match getNamed? handle (← get).handles with
    | some meaning => return meaning ++ text
    | none => throw .malformed

/-- Anchor and tag of a node, in any order. -/
def properties : Grammar (Option String × Option String) := do
  let before ← anchor?
  let tag ← tagParts?
  let anchor ← if before.isNone && tag.isSome then anchor? else pure before
  return (anchor, ← tag.mapM fullTag)

/-! ### Nodes -/

/-- Where a node stands, which decides about the collections it can be. -/
inductive NodePlace where
  /-- Between brackets. -/
  | flow
  | block
  /-- As key or value in a block: items may stand as deep as the key. -/
  | entry
  deriving DecidableEq

/-- A node, or the empty one if one of these tokens comes. -/
def orEmpty (ends : List Token) (node : Grammar Node) : Grammar Node := do
  if ← comes ends then return .empty else node

/-- A key and its value, after the mark of the key; `ends` are the tokens that
end the entry. -/
def entry (ends : List Token) (node : Grammar Node) : Grammar (Node × Node) := do
  let key ← orEmpty (.value :: ends) node
  if ← comes [.value] then
    skip
    return (key, ← orEmpty ends node)
  else return (key, .empty)

mutual

/-- A node. -/
def node : Nat → NodePlace → Grammar Node
  | 0, _ => throw .malformed
  | budget + 1, place => do
    if let .alias name ← peek then
      skip
      return ← aliased name
    let (anchor?, tag?) ← properties
    let inBlock := place ≠ .flow
    match ← peek with
    | .scalar text plain =>
      skip
      let node := Node.ofText tag? text plain
      declare anchor? node
      return node
    | .flowSequence => enclose anchor? false do
      skip
      return .ofItems tag? (← flowItems budget true)
    | .flowMapping => enclose anchor? true do
      skip
      return .ofEntries tag? (← flowEntries budget true)
    | t =>
      if t = .blockEntry && place = .entry then
        enclose anchor? false do return .ofItems tag? (← looseItems budget)
      else if t = .blockSequence && inBlock then
        enclose anchor? false do
          skip
          return .ofItems tag? (← blockItems budget)
      else if t = .blockMapping && inBlock then
        enclose anchor? true do
          skip
          return .ofEntries tag? (← blockEntries budget)
      else if anchor?.isSome || tag?.isSome then
        let node := Node.ofText tag? "" true
        declare anchor? node
        return node
      else throw .malformed

/-- The items of a sequence between brackets.  A key on its own is a mapping of
one entry. -/
def flowItems : Nat → Bool → Grammar (List Node)
  | 0, _ => throw .malformed
  | budget + 1, first => do
    if ← comes [.flowSequenceEnd] then
      skip
      return []
    if !first then expect .flowEntry
    match ← peek with
    | .key =>
      skip
      let pair ← entry [.flowEntry, .flowSequenceEnd] (node budget .flow)
      return .ofEntries none [pair] :: (← flowItems budget false)
    | .flowSequenceEnd =>
      skip
      return []
    | _ =>
      let item ← node budget .flow
      return item :: (← flowItems budget false)

/-- The entries of a mapping between brackets. -/
def flowEntries : Nat → Bool → Grammar (List (Node × Node))
  | 0, _ => throw .malformed
  | budget + 1, first => do
    if ← comes [.flowMappingEnd] then
      skip
      return []
    if !first then expect .flowEntry
    match ← peek with
    | .key =>
      skip
      let pair ← entry [.flowEntry, .flowMappingEnd] (node budget .flow)
      return pair :: (← flowEntries budget false)
    | .flowMappingEnd =>
      skip
      return []
    | _ =>
      let key ← node budget .flow
      return (key, .empty) :: (← flowEntries budget false)

/-- The items of a sequence in a block. -/
def blockItems : Nat → Grammar (List Node)
  | 0 => throw .malformed
  | budget + 1 => do
    match ← peek with
    | .blockEntry =>
      skip
      let item ← orEmpty [.blockEntry, .blockEnd] (node budget .block)
      return item :: (← blockItems budget)
    | .blockEnd =>
      skip
      return []
    | _ => throw .malformed

/-- The items of a sequence as deep as its key. -/
def looseItems : Nat → Grammar (List Node)
  | 0 => throw .malformed
  | budget + 1 => do
    if ← comes [.blockEntry] then
      skip
      let item ← orEmpty [.blockEntry, .key, .value, .blockEnd] (node budget .block)
      return item :: (← looseItems budget)
    else return []

/-- The entries of a mapping in a block. -/
def blockEntries : Nat → Grammar (List (Node × Node))
  | 0 => throw .malformed
  | budget + 1 => do
    match ← peek with
    | .key =>
      skip
      let pair ← entry [.key, .blockEnd] (node budget .entry)
      return pair :: (← blockEntries budget)
    | .blockEnd =>
      skip
      return []
    | _ => throw .malformed

end

/-! ### Documents -/

/-- What the handles stand for that every document has. -/
def usualHandles : List (String × String) := [("!", "!"), ("!!", Tag.namesStart)]

/-- Takes note of a directive, given whether a version was stated already. -/
def direct (versioned : Bool) : Directive → Grammar Bool
  | .version major =>
    if versioned || major ≠ 1 then throw .malformed else return true
  | .handle name meaning => do
    let s ← get
    if (getNamed? name s.handles).isSome then throw .malformed
    set { s with handles := setNamed name meaning s.handles }
    return versioned
  | .other => return versioned

/-- The directives in front of a document. -/
def directives : Grammar Unit := do
  let found := (← get).tokens.takeWhile fun
    | .directive _ => true
    | _ => false
  modify fun s => { s with tokens := s.tokens.drop found.length, handles := [] }
  let _ ← found.foldlM (fun versioned t =>
    match t with
    | .directive d => direct versioned d
    | _ => return versioned) false
  modify fun s => { s with
    handles := s.handles ++ usualHandles.filter fun (name, _) => (getNamed? name s.handles).isNone }

/-- Directives and the mark that starts a document. -/
def start : Grammar Unit := do
  directives
  expect .documentStart

/-- What follows the document: nothing more than the marks of its end. -/
def finish : Grammar Unit := do
  modify fun s => { s with tokens := s.tokens.dropWhile (· = .documentEnd) }
  if !(← comes [.streamEnd]) then
    start
    throw .malformed

/-- Whether a document starts here with a mark. -/
def startsMarked : Grammar Bool := do
  match ← peek with
  | .directive _ | .documentStart => return true
  | _ => return false

/-- The anchor of the node that starts here, if it has one. -/
def anchorAhead? : List Token → Option String
  | .anchor name :: _ | .tag .. :: .anchor name :: _ => some name
  | _ => none

/-- The node of a document. -/
def root (budget : Nat) : Grammar Node := do
  let anchor? := anchorAhead? (← get).tokens
  let root ← node budget .block
  return (anchor?.map (root.unrolled ·)).getD root

/-- The document of a file, if it has one. -/
def document (budget : Nat) : Grammar (Option Node) := do
  if ← comes [.streamEnd] then return none
  let root ←
    if ← startsMarked then
      start
      if ← startsMarked then pure .empty
      else orEmpty [.documentEnd, .streamEnd] (root budget)
    else
      modify fun s => { s with handles := usualHandles }
      root budget
  finish
  return some root

end Grammar

/-- The document that tokens make, if they make one. -/
def Node.ofTokens (tokens : List Token) : Except DocumentError (Option Node) :=
  (Grammar.document (4 * tokens.length + 4)).run' { tokens }

end TableQuery.Document
