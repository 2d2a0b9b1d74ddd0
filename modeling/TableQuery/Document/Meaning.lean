/-
TableQuery/Document/Meaning.lean

The values of nodes.

Design.  A node's value follows from its tag, its text and the values of its
parts, so it is found from the inside out.  A fault inside does not stop that:
each value comes with the first fault at every depth below it (`Finding`), and
of these the one nearest to the root counts, since the values at one depth are
looked at before those below them.

A mapping takes over the entries of the mappings under its merge key; its own
entries come after them, so they replace a value and keep its place.  A mapping
can also stand for one text, the one under its key `=`.
-/
import TableQuery.Document.Scalar

namespace TableQuery.Document

/-- The first fault at every depth, from that of the value itself on. -/
abbrev Faults := List (Option DocumentError)

namespace Faults

/-- A fault of the value itself. -/
def here : Faults := [some .malformed]

/-- The faults of two values that are looked at one after the other. -/
def join : Faults → Faults → Faults
  | [], bs => bs
  | as, [] => as
  | a :: as, b :: bs => (a <|> b) :: join as bs

/-- The faults of a collection, given those of its parts. -/
def ofParts (parts : List Faults) : Faults := none :: parts.foldr join []

/-- The fault that counts. -/
def first? (f : Faults) : Option DocumentError := f.findSome? id

end Faults

/-- A value, and the faults found in it. -/
structure Finding where
  value : Datum
  faults : Faults := []

namespace Finding

/-- What is found where no value is. -/
def malformed : Finding := ⟨.missing, .here⟩

def ofExcept : Except DocumentError Datum → Finding
  | .ok value => ⟨value, []⟩
  | .error e => ⟨.missing, [some e]⟩

/-- The faults of a value as a key: it must be able to be one. -/
def keyFaults (f : Finding) : List Faults :=
  if f.value.isKey then [f.faults] else [f.faults, .here]

end Finding

/-- An entry of a mapping: key and value. -/
structure Entry where
  key : Finding
  value : Finding

namespace Entry

def faults (e : Entry) : List Faults := e.key.keyFaults ++ [e.value.faults]

/-- Entries as a mapping. -/
def mapping (entries : List Entry) : List (Datum × Datum) :=
  entries.foldl (fun items e => Datum.setKey e.key.value e.value.value items) []

end Entry

/-- What a node is to the nodes around it. -/
structure Meaning where
  tag : Tag
  found : Finding
  /-- The text that it stands for, if it stands for one. -/
  text? : Option String := none
  /-- Whether it is a text and no collection. -/
  isScalar : Bool := false
  /-- The entries that it adds to a mapping that merges it. -/
  merged? : Option (List Entry) := none
  /-- Whether it is a mapping, whose entries a list of mappings can merge. -/
  isMapping : Bool := false
  /-- Its entry, if it is a mapping of just one. -/
  entry? : Option Entry := none

namespace Meaning

/-- What is found under a tag of single values. -/
def single (tag : Tag) (text? : Option String) : Finding :=
  match text?.bind tag.valueOf? with
  | some outcome => .ofExcept outcome
  | none => .malformed

/-- What is found under a tag of collections, if the collection is of the right
form. -/
def collection (value : Datum) (parts : List Faults) : Finding := ⟨value, .ofParts parts⟩

/-- What is found under a tag whose collections have another form. -/
def misshapen (value : Datum) : Finding := collection value [.here]

/-- What a text is. -/
def ofText (tag : Tag) (text : String) : Meaning where
  tag
  text? := some text
  isScalar := true
  found := match tag with
    | .list | .pairs => misshapen (.list [])
    | .mapping => misshapen (.entries [])
    | .distinct => misshapen (.distinct [])
    | tag => single tag (some text)

/-- The pairs of a sequence of mappings of one entry each. -/
def pairsOf (items : List Meaning) : Finding :=
  let pair (m : Meaning) : Datum × List Faults :=
    match m.entry? with
    | some e => (.pair e.key.value e.value.value, [e.key.faults, e.value.faults])
    | none => (.missing, [.here])
  collection (.list (items.map fun m => (pair m).1)) (items.flatMap fun m => (pair m).2)

/-- What a sequence is. -/
def ofItems (tag : Tag) (items : List Meaning) : Meaning where
  tag
  found := match tag with
    | .list => collection (.list (items.map (·.found.value))) (items.map (·.found.faults))
    | .pairs => pairsOf items
    | .mapping => misshapen (.entries [])
    | .distinct => misshapen (.distinct [])
    | _ => .malformed
  merged? :=
    if items.all (·.isMapping) then (items.reverse.mapM fun (m : Meaning) => m.merged?).map List.flatten else none

/-- An entry as a mapping takes it: the key `=` is a text there. -/
def plainEntry (key value : Meaning) : Entry :=
  if key.tag = .single && key.isScalar then ⟨single .text key.text?, value.found⟩
  else ⟨key.found, value.found⟩

/-- The entries of a mapping after those that it merges; none if it merges what
has no entries. -/
def mergedEntries? (entries : List (Meaning × Meaning)) : Option (List Entry) := do
  let isMerge (e : Meaning × Meaning) : Bool := e.1.tag = .merge
  let merged ← (entries.filter isMerge).mapM (·.2.merged?)
  let own := (entries.filter (!isMerge ·)).map fun (key, value) => plainEntry key value
  some (merged.flatten ++ own)

/-- What a mapping is. -/
def ofEntries (tag : Tag) (entries : List (Meaning × Meaning)) : Meaning :=
  let merged? := mergedEntries? entries
  let text? := (entries.find? (·.1.tag = .single)).bind (·.2.text?)
  let whole (value : List Entry → Datum) (parts : Entry → List Faults) : Finding :=
    match merged? with
    | some merged => collection (value merged) (merged.flatMap parts)
    | none => misshapen (value [])
  { tag, merged?, text?
    isMapping := true
    entry? := match entries with
      | [(key, value)] => some ⟨key.found, value.found⟩
      | _ => none
    found := match tag with
      | .mapping => whole (fun merged => .entries (Entry.mapping merged)) Entry.faults
      | .distinct => whole (fun merged => .ofDistinct ((Entry.mapping merged).map (·.1))) Entry.faults
      | .list | .pairs => misshapen (.list [])
      | tag => single tag text? }

end Meaning

mutual

/-- What a node is. -/
def Node.meaning : Node → Meaning
  | .scalar tag text => .ofText tag text
  | .sequence tag items => .ofItems tag (itemMeanings items)
  | .mapping tag entries => .ofEntries tag (entryMeanings entries)
  | .enclosing _ isMapping =>
    { tag := if isMapping then .mapping else .list
      found := ⟨.enclosing isMapping, []⟩
      isMapping
      merged? := some [] }

/-- What the items of a sequence are. -/
def itemMeanings : List Node → List Meaning
  | [] => []
  | n :: ns => n.meaning :: itemMeanings ns

/-- What the keys and values of a mapping are. -/
def entryMeanings : List (Node × Node) → List (Meaning × Meaning)
  | [] => []
  | (key, value) :: rest => (key.meaning, value.meaning) :: entryMeanings rest

end

/-- The value of a node. -/
def Node.datum (n : Node) : Except DocumentError Datum :=
  let found := n.meaning.found
  match found.faults.first? with
  | some e => .error e
  | none => .ok found.value

end TableQuery.Document
