import FlowDeck.Deck.Page
import FlowDeck.Hierarchy.Record

/-!
# Where shapes keep their descriptors

The descriptor of a shape is its description. In older decks it is the title or the text inside
the shape; it is read there, and removed from there when a new one is stored.
-/

namespace FlowDeck

/-- The text without blanks at its ends, if it is meant as a descriptor. -/
def misplaced? (text : String) : Option String :=
  if Descriptor.looksLike text then some (Record.plain text.toList) else none

namespace Shape

/-- The text that a shape keeps as its descriptor, empty if there is none. A description counts
whatever it says, a title or a text inside only if it is meant as one. -/
def memo (s : Shape) : String :=
  match s.descr.filter (· ≠ "") with
  | some text => text
  | none => ((s.title.bind misplaced?).or ((s.body?.map (·.text)).bind misplaced?)).getD ""

def hasMisplacedTitle (s : Shape) : Bool :=
  s.title.any Descriptor.looksLike

def hasMisplacedText (s : Shape) : Bool :=
  s.body?.any fun body => Descriptor.looksLike body.text

def withMemo (s : Shape) (text : String) : Shape :=
  let described : Shape := {
    s with
    descr := if text = "" then none else some text
    title := if s.hasMisplacedTitle then none else s.title }
  if s.hasMisplacedText then described.withBody {} else described

def descriptor? (s : Shape) : Option Descriptor :=
  Descriptor.read? s.memo

end Shape

namespace Slide

def descriptorOf? (slide : Slide) (id : ShapeId) : Option Descriptor :=
  (slide.shape? id).bind (·.descriptor?)

/-- The nodes with descriptors, from back to front. -/
def outline (slide : Slide) : Outline :=
  slide.nodes.filterMap fun id => (slide.descriptorOf? id).map fun d => (id, d)

end Slide

namespace Edit

def outline : Edit Outline :=
  return (← slide).outline

def memo (id : ShapeId) : Edit String :=
  return (← shape id).memo

def descriptor? (id : ShapeId) : Edit (Option Descriptor) :=
  return (← shape id).descriptor?

def setMemo (id : ShapeId) (text : String) : Edit Unit := do
  let s ← shape id
  requireStorable text
  change id fun s => s.withMemo text
  if s.hasMisplacedTitle then
    note .debug s!"🔁 Migrated descriptor off the alt-text title of shape {id}"
  if s.hasMisplacedText then
    note .debug s!"🔁 Migrated descriptor out of the text of shape {id}"

def store (id : ShapeId) (d : Descriptor) : Edit Unit := do
  setMemo id d.render
  note .debug s!"📝 Shape {id}: {d.render}"

end Edit

end FlowDeck
