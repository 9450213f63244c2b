import FlowDeck.Deck.Kind
import FlowDeck.Hierarchy.Outline
import FlowDeck.Plane.Box
import FlowDeck.Theme.Colour

/-!
# Shapes

A slide is a list of shapes, the last one in front, and a deck is a list of slides. Lengths are
whole grid units.
-/

namespace FlowDeck

/-- The text inside a shape, and the colours of its runs: the stretches of text between breaks
of lines and paragraphs. -/
structure Body where
  text : String := ""
  colours : List (Option Rgb) := []
  deriving DecidableEq, Repr

inductive Course where
  | straight
  | bent
  | curved
  deriving DecidableEq, Repr

def Course.geometry : Course → String
  | .straight => "line"
  | .bent => "bentConnector3"
  | .curved => "curvedConnector3"

/-- A line from corner to corner of a box. It runs to the right and down unless it is turned, and
keeps its direction when the box changes. Ends that were not drawn yet have no arrow types. -/
structure Connector where
  course : Course
  box : Box Int
  leftward : Bool := false
  upward : Bool := false
  colour : Option Rgb := none
  width : Int := 0
  head : Option String := none
  tail : Option String := none
  deriving DecidableEq, Repr

inductive Form where
  | figure (kind : String) (box : Box Int) (fill line : Option Rgb) (body : Body)
  | textBox (box : Box Int) (body : Body)
  | table (box : Box Int)
  | connector (line : Connector)
  /-- A group, with the numbers of all shapes inside it. -/
  | group (box : Box Int) (inside : List ShapeId)
  deriving DecidableEq, Repr

/-- A shape with its two alternative texts, the description and the title. -/
structure Shape where
  id : ShapeId
  name : String
  descr : Option String := none
  title : Option String := none
  form : Form
  deriving DecidableEq, Repr

def Box.union (a b : Box Int) : Box Int :=
  let x := min a.x b.x
  let y := min a.y b.y
  ⟨x, y, max (a.x + a.width) (b.x + b.width) - x, max (a.y + a.height) (b.y + b.height) - y⟩

namespace Connector

def between (course : Course) (a b : Point Int) : Connector where
  course
  box := ⟨min a.x b.x, min a.y b.y, (b.x - a.x).natAbs, (b.y - a.y).natAbs⟩
  leftward := b.x < a.x
  upward := b.y < a.y

def start (line : Connector) : Point Int where
  x := if line.leftward then line.box.x + line.box.width else line.box.x
  y := if line.upward then line.box.y + line.box.height else line.box.y

def finish (line : Connector) : Point Int where
  x := if line.leftward then line.box.x else line.box.x + line.box.width
  y := if line.upward then line.box.y else line.box.y + line.box.height

end Connector

namespace Shape

def box (s : Shape) : Box Int :=
  match s.form with
  | .figure _ box _ _ _ | .textBox box _ | .table box | .group box _ => box
  | .connector line => line.box

def withBox (s : Shape) (b : Box Int) : Shape :=
  { s with
    form :=
      match s.form with
      | .figure kind _ fill line body => .figure kind b fill line body
      | .textBox _ body => .textBox b body
      | .table _ => .table b
      | .connector line => .connector { line with box := b }
      | .group _ inside => .group b inside }

/-- Nodes are all shapes but connectors and groups. -/
def isNode (s : Shape) : Bool :=
  match s.form with
  | .figure .. | .textBox .. | .table .. => true
  | .connector _ | .group .. => false

def isEdge (s : Shape) : Bool :=
  match s.form with
  | .connector _ => true
  | _ => false

def kind (s : Shape) : String :=
  match s.form with
  | .figure kind .. => kind
  | _ => Kind.rectangle

def body? (s : Shape) : Option Body :=
  match s.form with
  | .figure _ _ _ _ body | .textBox _ body => some body
  | _ => none

def withBody (s : Shape) (body : Body) : Shape :=
  { s with
    form :=
      match s.form with
      | .figure kind box fill line _ => .figure kind box fill line body
      | .textBox box _ => .textBox box body
      | other => other }

def ids (s : Shape) : List ShapeId :=
  match s.form with
  | .group _ inside => s.id :: inside
  | _ => [s.id]

end Shape

abbrev Slide := List Shape

abbrev Deck := List Slide

namespace Slide

def shape? (slide : Slide) (id : ShapeId) : Option Shape :=
  slide.find? fun s => s.id == id

def nodes (slide : Slide) : List ShapeId :=
  (slide.filter (·.isNode)).map (·.id)

def edges (slide : Slide) : List ShapeId :=
  (slide.filter (·.isEdge)).map (·.id)

def hasNode (slide : Slide) (id : ShapeId) : Bool :=
  slide.any fun s => s.id == id && s.isNode

/-- The first node with this number or this name. -/
def findNode? (slide : Slide) (key : String) : Option ShapeId :=
  (slide.find? fun s => s.isNode && (toString s.id == key || s.name == key)).map (·.id)

/-- The numbers in use, also inside groups. The page itself has the number one. -/
def ids (slide : Slide) : List ShapeId :=
  1 :: slide.flatMap (·.ids)

/-- The number for the next shape: one more than the highest in use. -/
def nextId (slide : Slide) : ShapeId :=
  slide.ids.foldl max 1 + 1

/-- The number for the next group: the least that is not in use. -/
def freeId (slide : Slide) : ShapeId :=
  let candidates := (List.range (slide.ids.length + 1)).map fun (i : Nat) => (i : Int) + 1
  (candidates.find? fun n => !slide.ids.contains n).getD slide.nextId

/-- The slide with the first shape of this number changed. -/
def modify (slide : Slide) (id : ShapeId) (f : Shape → Shape) : Slide :=
  match slide with
  | [] => []
  | s :: rest => if s.id = id then f s :: rest else s :: modify rest id f

def newName (title : String) (id : ShapeId) : String :=
  title ++ " " ++ toString (id - 1)

/-- The slide with a new shape in front. -/
def add (slide : Slide) (title : String) (form : Form) : Slide :=
  let id := slide.nextId
  let new : Shape := { id, name := newName title id, form }
  slide ++ [new]

def remove (slide : Slide) (id : ShapeId) : Slide :=
  slide.filter fun s => s.id != id

def boxAround (slide : Slide) (members : List ShapeId) : Box Int :=
  match slide.filter fun s => members.contains s.id with
  | [] => ⟨0, 0, 0, 0⟩
  | first :: others => others.foldl (fun box s => box.union s.box) first.box

/-- The slide with these shapes moved into a new group in front, which has no extent yet. -/
def group (slide : Slide) (members : List ShapeId) : Slide :=
  let inside := slide.filter fun s => members.contains s.id
  let rest := slide.filter fun s => !members.contains s.id
  let id := slide.freeId
  let new : Shape := {
    id, name := newName "Group" id, form := .group ⟨0, 0, 0, 0⟩ (inside.flatMap (·.ids)) }
  rest ++ [new]

end Slide

end FlowDeck
