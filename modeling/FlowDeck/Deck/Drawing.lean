import FlowDeck.Arrange.Site
import FlowDeck.Deck.Page
import FlowDeck.Number.Printing
import FlowDeck.Text.Attribute

/-!
# Drawing

New shapes, their texts and the connectors between them. What has been drawn stays on the page
when a colour cannot be drawn after that.
-/

namespace FlowDeck

/-- What edits are done with: the style that gives sizes and gaps, the one that gives colours,
if any, the shapes whose connection sites are not to be had, and whether the place of each new
shape is logged. -/
structure Desk where
  style : Style
  paint : Option Style
  siteless : ShapeId → Bool := fun _ => false
  debug : Bool := false

/-- The text inside a shape after it is set, one colour for all runs. -/
def Body.ofText (text : String) (colour : Option Rgb) : Body :=
  let stored := Text.encodeControls text.toList
  ⟨String.ofList stored, (Text.runs stored).map fun _ => colour⟩

def colourOf (text : Option String) : Option Rgb :=
  text.bind Rgb.read?

/-- The site to use on the side with this name, which counts only where sites face the sides. -/
def pickSiteNamed (count : Int) (side : Option String) : Except Fault (Option Nat) :=
  if (siteTable? count.toNat).isSome then
    (Side.read side).map fun side => pickSite? count.toNat side
  else .ok (pickSite? count.toNat .top)

namespace Edit

def drawable (colour : Option Rgb) : Edit (Option Rgb) :=
  match colour with
  | some rgb => if rgb.isDrawable then return some rgb else throw .notDrawable
  | none => return none

def paintFill (id : ShapeId) (colour : Option Rgb) : Edit Unit :=
  change id fun s =>
    match s.form with
    | .figure kind box _ line body => { s with form := .figure kind box colour line body }
    | _ => s

def paintLine (id : ShapeId) (colour : Option Rgb) : Edit Unit :=
  change id fun s =>
    match s.form with
    | .figure kind box fill _ body => { s with form := .figure kind box fill colour body }
    | _ => s

/-- The kind that a name stands for. An unknown one is a rectangle. -/
def kindNamed (name : String) : Edit String := do
  let kind := if name = "" then Kind.rectangle else Text.upper name
  if (Kind.title? kind).isSome then return kind
  note .warning s!"⚠️ Unknown shape kind '{name}', using {Kind.rectangle}"
  return Kind.rectangle

def roughly (length : Measure Float) : Edit String := do
  return Number.fixed 0 (← ofNumber length.toScalar)

def notePlace (name : String) (id : ShapeId) (box : Box (Measure Float)) : Edit Unit := do
  let corner := "(" ++ (← roughly box.x) ++ ", " ++ (← roughly box.y) ++ ")"
  let size := (← roughly box.width) ++ "x" ++ (← roughly box.height)
  note .debug s!"🟦 Created {name} shape {id} at {corner} {size}"

def drawShape (desk : Desk) (name : String) (box : Box (Measure Float)) : Edit ShapeId := do
  let kind ← kindNamed name
  let x ← ofNumber box.x.units
  let y ← ofNumber box.y.units
  let width ← ofNumber box.width.units
  let height ← ofNumber box.height.units
  [x, y, width, height].forM fun length => ofNumber (Number.checkLength length)
  let title := (Kind.title? kind).getD ""
  let id ← add title (.figure (Kind.kept kind) ⟨x, y, width, height⟩ none none {})
  if let some paint := desk.paint then
    paintFill id (← drawable (colourOf paint.nodeFill))
    paintLine id (← drawable (colourOf paint.nodeLine))
  if desk.debug then notePlace name id box
  return id

def drawShapeAt (desk : Desk) (name : String) (b : Box Float) : Edit ShapeId :=
  drawShape desk name ⟨.exact b.x, .exact b.y, .exact b.width, .exact b.height⟩

def setBody (id : ShapeId) (body : Body) : Edit Unit :=
  change id fun s => s.withBody body

/-- Sets the text inside a shape, without colours. A text that cannot be stored is set up to the
run that cannot. -/
def setPlainText (id : ShapeId) (text : String) : Edit Unit := do
  let stored := Text.encodeControls text.toList
  let clean := stored.takeWhile fun c => !Text.isSetAside c
  if clean = stored then
    setBody id (Body.ofText text none)
  else
    let before := Text.trimEnd (fun c => !Text.isBreak c) clean
    let body := Body.ofText (String.ofList before) none
    setBody id { body with colours := body.colours ++ [none] }
    throw .notStorable

def setText (desk : Desk) (id : ShapeId) (text : String) : Edit Unit := do
  if (← shape id).body?.isNone then
    note .warning s!"⚠️ Shape {id} has no text frame, text not set"
  else
    setPlainText id text
    let colour := colourOf (desk.paint.bind (·.textColour))
    let body := Body.ofText text colour
    if body.colours ≠ [] then
      let _ ← drawable colour
      setBody id body

def courses : List (String × Course) :=
  [("STRAIGHT", .straight), ("BENT", .bent), ("ELBOW", .bent), ("CURVED", .curved),
    ("CURVE", .curved)]

def arrowTypes : List (String × String) :=
  [("NONE", "none"), ("FILL_ARROW", "triangle"), ("STEALTH_ARROW", "stealth"),
    ("OPEN_ARROW", "arrow"), ("FILL_CIRCLE", "oval"), ("FILL_DIAMOND", "diamond")]

/-- What follows the type in the tag of a line end. -/
def lineEndTail : List Text.Attribute := [
  ⟨none, "w", "med"⟩, ⟨none, "len", "med"⟩,
  ⟨some "xmlns", "a", "http://schemas.openxmlformats.org/drawingml/2006/main"⟩]

/-- The line end that an arrow stands for. The name of an unknown arrow is pasted into the slide as
it is, in small letters. -/
def arrowType (arrow : Option String) : Edit String :=
  match arrow.filter (· ≠ "") with
  | none => return "none"
  | some name =>
    match arrowTypes.lookup (Text.upper name),
      Text.pastedValue? "type" lineEndTail (Text.lower name) with
    | some type, _ => return type
    | none, some type => return type
    | none, none => throw (.notMarkup name)

/-- The width of connectors: one and a half points. -/
def connectorWidth : Int := 19050

/-- The course that a line type stands for. An unknown one is straight. -/
def courseNamed (lineType : String) : Edit Course := do
  match courses.lookup (Text.upper lineType) with
  | some course => return course
  | none =>
    note .warning s!"⚠️ Unknown line type '{lineType}', drawing a straight connector"
    return .straight

def changeConnector (id : ShapeId) (f : Connector → Connector) : Edit Unit :=
  change id fun s =>
    match s.form with
    | .connector line => { s with form := .connector (f line) }
    | _ => s

def drawEdge (desk : Desk) (a b : Point Float) (style : EdgeStyle) : Edit ShapeId := do
  let course ← courseNamed style.lineType
  let x ← ofNumber (units a.x)
  let y ← ofNumber (units a.y)
  let toX ← ofNumber (units b.x)
  let toY ← ofNumber (units b.y)
  let id ← add "Connector" (.connector (.between course ⟨x, y⟩ ⟨toX, toY⟩))
  let colour ← drawable (colourOf (desk.paint.bind (·.nodeLine)))
  changeConnector id fun line => { line with colour, width := connectorWidth }
  let head ← arrowType style.startArrow
  changeConnector id fun line => { line with head := some head }
  let tail ← arrowType style.endArrow
  changeConnector id fun line => { line with tail := some tail }
  return id

def sitesOf (desk : Desk) (id : ShapeId) : Edit (List (Point Float)) := do
  if desk.siteless id then return []
  let s ← shape id
  return sites (← box id) (Kind.siteCount s.kind)

def siteOn (desk : Desk) (id : ShapeId) (side : Side) : Edit (Option (Point Float)) := do
  let sites ← sitesOf desk id
  return (pickSite? sites.length side).bind fun i => sites[i]?

/-- The site of a shape on the side with this name. The name counts only for shapes whose sites
face the sides. -/
def siteOnNamed (desk : Desk) (id : ShapeId) (side : Option String) :
    Edit (Option (Point Float)) := do
  let sites ← sitesOf desk id
  return (← orFault (pickSiteNamed sites.length side)).bind fun i => sites[i]?

/-- Draws a connector between the sides of two shapes, unless one of them has no site there. -/
def join (desk : Desk) (a b : ShapeId) (sideA sideB : Side) (style : EdgeStyle) :
    Edit (Option ShapeId) := do
  let pointA ← siteOn desk a sideA
  let pointB ← siteOn desk b sideB
  match pointA, pointB with
  | some pointA, some pointB =>
    let edge ← drawEdge desk pointA pointB style
    note .debug s!"🔗 Edge {edge}: {a}.{sideA.name} -> {b}.{sideB.name}"
    return some edge
  | _, _ =>
    note .warning <|
      s!"⚠️ Could not resolve suitable connection sites between shapes {a} and {b}"
    return none

end Edit

end FlowDeck
