/-
TableQuery/Page/Element.lean

What a page consists of.

A page is drawn from top to bottom as a list of elements.  Some elements open
a block, and what follows them up to the matching `close` lies in it.

An element is what the host of the page is asked to show.  It is taken to show
all of them: no title, text or table is refused, whatever it holds.
-/
import TableQuery.Frame
import TableQuery.History.Export

namespace TableQuery

/-- One step in the drawing of a page. -/
inductive PageElement where
  /-- The title, the icon and the layout of the window. -/
  | window (title icon layout : String)
  | title (text : String)
  | sidebarHeader (text : String)
  /-- A field for files of these types. -/
  | fileUploader (label : String) (types : List String) (multiple : Bool) (help : String)
  | sidebarError (text : String)
  | sidebarInfo (text : String)
  /-- A choice among options, of which one is chosen already. -/
  | selectbox (label : String) (options : List String) (index : Nat)
  | sidebarButton (label : String)
  /-- Opens a block that can be folded. -/
  | expander (label : String) (expanded : Bool)
  | caption (text : String)
  /-- A table.  Any frame can be shown, also one that repeats the name of a
  column or that has no column at all. -/
  | dataframe (frame : Frame)
  /-- Opens the block of a message. -/
  | chatMessage (role : String)
  | markdown (text : String)
  /-- The field for the question. -/
  | chatInput (prompt : String) (disabled : Bool)
  /-- Announces this many columns. -/
  | columns (count : Nat)
  /-- Opens the block of a column. -/
  | column (index : Nat)
  | downloadButton (label : String) (file : Download)
  | button (label : String)
  /-- Closes the block that was opened last. -/
  | close
  /-- Asks for the page to be drawn anew; nothing follows. -/
  | rerun

end TableQuery
