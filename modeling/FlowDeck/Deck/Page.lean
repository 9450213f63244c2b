import FlowDeck.Deck.Shape
import FlowDeck.Fault
import FlowDeck.Text.Storable

/-!
# Pages

A page is a slide with what is selected on it and a log of the work on it. Edits keep what they
have done when they fail.
-/

namespace FlowDeck

inductive LogLevel where
  | debug
  | info
  | warning
  | error
  deriving DecidableEq, Repr

def LogLevel.name : LogLevel → String
  | .debug => "DEBUG"
  | .info => "INFO"
  | .warning => "WARNING"
  | .error => "ERROR"

structure LogEntry where
  level : LogLevel
  text : String
  deriving DecidableEq, Repr

structure Page where
  slide : Slide := []
  selection : List ShapeId := []
  log : List LogEntry := []

def Page.noted (page : Page) (level : LogLevel) (text : String) : Page :=
  { page with log := page.log ++ [⟨level, text⟩] }

/-- Work on a page. -/
abbrev Edit := ExceptT Fault (StateM Page)

namespace Edit

def slide : Edit Slide :=
  return (← get).slide

def setSlide (slide : Slide) : Edit Unit :=
  modify fun page => { page with slide }

def note (level : LogLevel) (text : String) : Edit Unit :=
  modify fun page => page.noted level text

def refuse {α : Type} (refusal : Refusal) : Edit α :=
  throw (.refused refusal)

def ofNumber {α : Type} : Except NumberFault α → Edit α
  | .ok x => return x
  | .error fault => throw (.number fault)

def orFault {α : Type} : Except Fault α → Edit α
  | .ok x => return x
  | .error fault => throw fault

def shape (id : ShapeId) : Edit Shape := do
  match (← slide).shape? id with
  | some s => return s
  | none => throw (.noShape (some id))

def given : Option ShapeId → Edit ShapeId
  | some id => return id
  | none => throw (.noShape none)

def change (id : ShapeId) (f : Shape → Shape) : Edit Unit := do
  setSlide ((← slide).modify id f)

def add (title : String) (form : Form) : Edit ShapeId := do
  let slide ← slide
  setSlide (slide.add title form)
  return slide.nextId

/-- Only texts that a slide can hold become attributes of its shapes. -/
def requireStorable (text : String) : Edit Unit :=
  if text.toList.all Text.isStorable then return else throw .notStorable

def box (id : ShapeId) : Edit (Box Float) := do
  ofNumber (← shape id).box.pixels

def boxes (ids : List ShapeId) : Edit (List (Box Float)) :=
  ids.mapM box

/-- Selects a shape, alone or together with those that are selected. -/
def select (id : ShapeId) (additive : Bool) : Edit Unit :=
  modify fun page =>
    { page with
      selection := if additive then Outline.insertLast page.selection id else [id] }

end Edit

end FlowDeck
