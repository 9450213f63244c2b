import FlowDeck.Deck.Drawing

/-!
# Edits by hand

What users do on a slide themselves, between the commands: they draw boxes and tables, group
and delete shapes, move, rename and label them. Descriptors are no concern of these edits, but
the alternative texts that hold them can be set by hand too.
-/

namespace FlowDeck

inductive HandEdit where
  | drawTextBox (box : Box Float) (text : String)
  | drawTable (box : Box Float)
  | group (members : List ShapeId)
  | delete (id : ShapeId)
  | place (id : ShapeId) (box : Box Int)
  | rename (id : ShapeId) (name : String)
  | write (id : ShapeId) (text : String)
  | setTitle (id : ShapeId) (title : Option String)
  | setDescr (id : ShapeId) (descr : Option String)

def Box.units (b : Box Float) : Except NumberFault (Box Int) := do
  return ⟨← FlowDeck.units b.x, ← FlowDeck.units b.y, ← FlowDeck.units b.width,
    ← FlowDeck.units b.height⟩

namespace Edit

/-- The farthest place in both directions from the corner of the page. -/
def farthest : Int × Int := (-27273042329600, 27273042316900)

def requireWithin (bounds : Int × Int) (length : Int) : Edit Unit := do
  if length < bounds.1 ∨ bounds.2 < length then
    throw (.outOfRange bounds.1 bounds.2 length)

def adjust (id : ShapeId) (bounds : Int × Int) (length : Int) (set : Box Int → Box Int) :
    Edit Unit := do
  requireWithin bounds length
  change id fun s => s.withBox (set s.box)

/-- Gives a shape another box, one length after the other, up to the first that is out of its
bounds. Sizes are not negative. -/
def place (id : ShapeId) (box : Box Int) : Edit Unit := do
  let sizes := (0, farthest.2)
  adjust id farthest box.x fun b => { b with x := box.x }
  adjust id farthest box.y fun b => { b with y := box.y }
  adjust id sizes box.width fun b => { b with width := box.width }
  adjust id sizes box.height fun b => { b with height := box.height }

end Edit

open Edit

/-- Does an edit by hand. The result is the shape that it has added, if it adds one. -/
def HandEdit.perform : HandEdit → Edit (Option ShapeId)
  | .drawTextBox box text => do
    let id ← add "TextBox" (.textBox (← ofNumber box.units) {})
    setPlainText id text
    return some id
  | .drawTable box => do
    let box ← ofNumber box.units
    requireWithin farthest box.width
    requireWithin farthest box.height
    return some (← add "Table" (.table box))
  | .group members => do
    members.forM fun id => do let _ ← shape id
    let slide ← slide
    setSlide (slide.group members)
    Edit.place slide.freeId (slide.boxAround members)
    return some slide.freeId
  | .delete id => do
    let _ ← shape id
    setSlide ((← slide).remove id)
    return none
  | .place id box => do
    let _ ← shape id
    Edit.place id box
    return none
  | .rename id name => do
    let _ ← shape id
    requireStorable name
    change id fun s => { s with name }
    return none
  | .write id text => do
    let _ ← shape id
    setPlainText id text
    return none
  | .setTitle id title => do
    let _ ← shape id
    title.forM requireStorable
    change id fun s => { s with title }
    return none
  | .setDescr id descr => do
    let _ ← shape id
    descr.forM requireStorable
    change id fun s => { s with descr }
    return none

end FlowDeck
