/-
TableQuery/Document/Node.lean

The nodes of a settings file: texts, sequences and mappings, each with a tag
that says what it stands for.

Where no tag is written, a sequence is a list, a mapping a mapping and a
quoted text a text; what an unquoted word is follows from the word
(`Tag.ofWord`).  The exclamation mark as a tag asks for the same, and for a
quoted text, too, to be taken as a word.
-/
import TableQuery.Document.Word

namespace TableQuery.Document

/-- A node.  An alias stands for the node with its anchor, and has no tag of
its own. -/
inductive Node where
  | scalar (tag : Tag) (text : String)
  | sequence (tag : Tag) (items : List Node)
  | mapping (tag : Tag) (entries : List (Node × Node))
  /-- The sequence or mapping with this anchor, of which this node is part. -/
  | enclosing (anchor : String) (isMapping : Bool)

namespace Node

/-- The tag that leaves the kind of value open. -/
def openTag : String := "!"

/-- A text with the tag that is written. -/
def ofText (tag? : Option String) (text : String) (plain : Bool) : Node :=
  match tag? with
  | none => .scalar (if plain then .ofWord text else .text) text
  | some tag => .scalar (if tag = openTag then .ofWord text else .ofName tag) text

/-- The tag of a collection. -/
def collectionTag (usual : Tag) : Option String → Tag
  | none => usual
  | some tag => if tag = openTag then usual else .ofName tag

def ofItems (tag? : Option String) (items : List Node) : Node :=
  .sequence (collectionTag .list tag?) items

def ofEntries (tag? : Option String) (entries : List (Node × Node)) : Node :=
  .mapping (collectionTag .mapping tag?) entries

/-- The node of no text at all. -/
def empty : Node := ofText none "" true

/-! ### Nodes inside themselves -/

mutual

/-- The node with another one in place of the collection with this anchor. -/
def replaced (anchor : String) (outer : Node) : Node → Node
  | .scalar tag text => .scalar tag text
  | .sequence tag items => .sequence tag (replacedItems anchor outer items)
  | .mapping tag entries => .mapping tag (replacedEntries anchor outer entries)
  | .enclosing name isMapping => if name = anchor then outer else .enclosing name isMapping

/-- The items of a sequence with that replacement. -/
def replacedItems (anchor : String) (outer : Node) : List Node → List Node
  | [] => []
  | n :: ns => replaced anchor outer n :: replacedItems anchor outer ns

/-- The entries of a mapping with that replacement. -/
def replacedEntries (anchor : String) (outer : Node) : List (Node × Node) → List (Node × Node)
  | [] => []
  | (key, value) :: rest =>
    (replaced anchor outer key, replaced anchor outer value) ::
      replacedEntries anchor outer rest

end

/-- What a node is inside itself. -/
def closed : Node → Node
  | .sequence .. => .enclosing "" false
  | .mapping .. => .enclosing "" true
  | n => n

/-- The mapping with this anchor, so that each of its values makes sense on its
own: where the value comes back to the mapping, it goes on through the other
values to itself. -/
def unrolled (anchor : String) : Node → Node
  | .mapping tag entries =>
    .mapping tag (entries.zipIdx.map fun ((key, value), i) =>
      (key, replaced anchor (.mapping tag (entries.set i (key, value.closed))) value))
  | n => n

end Node

end TableQuery.Document
